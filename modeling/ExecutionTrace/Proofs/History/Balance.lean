import ExecutionTrace.Proofs.History.Postings
import ExecutionTrace.Proofs.Run.Finish
import ExecutionTrace.Proofs.Tracer.Closing

/-!
# The balance of a call

The rows of one call are in order, and once the call has been undone they lead back to where they
started.

## Main Definitions

* `CallSection.Balanced` — what holds of the rows of a call at every stage
* `CallSection.Accounted` — the same for a call of the transaction in progress, with what the
  rows of a later rollback rely on
* `CallSection.Spawned` — a call whose child context is executing code
* `Accounted.fallBack`, `Spawned.answered`, `Balanced.shut` — no stage disturbs the balance

## Design Notes

A call is balanced between some two views, and these are not said to be those of the machine.
Calls made while its child was active lie between its own rows, so the views that its later rows
connect are not those that its first rows connect.
-/

namespace ExecutionTrace

namespace CallSection

/-- **A call whose rows are in order and lead back where they should.** -/
structure Balanced (c : CallSection) : Prop where
  ordered : c.accountRows.Pairwise fun r s => r.stamp.Precedes s.stamp
  /-- All but exceptional calls have rows on both parties. -/
  touches : c.scenario ≠ .exception → (∃ r ∈ c.accountRows, r.address = c.caller) ∧
    ∃ r ∈ c.accountRows, r.address = c.callee
  /-- What has been undone leaves nothing behind. -/
  undone : c.scenario.isWillRevert = true → c.scenario ≠ .contractFailureWillRevert →
    ∃ v, Leads v (c.accountRows.map AccountRow.move) v
  /-- A failed call leaves a warm callee behind. -/
  failed : c.scenario = .contractFailureWontRevert →
    ∃ v, (v c.caller).isWarm = true ∧ Leads v (c.accountRows.map AccountRow.move)
      (Function.update v c.callee (v c.callee).warmed)

/-- **A call of the transaction in progress.** -/
structure Accounted (incarnations : Incarnations) (c : CallSection) : Prop extends
    Balanced c where
  concerns : c.scenario ≠ .exception → ∀ p, c.before? = some p ∨ c.after? = some p ∨
    c.reEntry? = some p → c.Concerns incarnations p
  /-- A rollback would undo what the rows show. -/
  reversible : c.Standing → ∃ v w, Leads v (c.accountRows.map AccountRow.move) w ∧
    Leads w (c.reversal.map Transition.move) v

variable {chain : Chain} {world : WorldState} {incarnations later : Incarnations} {c : CallSection}
  {revertStamp : Nat}

/-! ## Rollbacks -/

theorem Standing.not_exception (standing : c.Standing) : c.scenario ≠ .exception := by
  have canRevert := standing.canRevert
  intro exceptional
  rw [CanRevert, exceptional] at canRevert
  exact canRevert

/-- A call that is over has been decided. -/
theorem Resolved.scenario_ne (resolved : c.Resolved) : c.scenario ≠ .contractUndefined := by
  intro scenario
  rcases resolved with dismissed | standing | undone
  · simp [dismissed.scenario] at scenario
  · simpa [scenario, Scenario.isUndefined] using standing.isUndefined_eq
  · simpa [scenario, Scenario.isUndefined] using undone.isUndefined_eq

/-- A call that is not standing has nothing to undo. -/
theorem Resolved.reversal_eq_nil (resolved : c.Resolved) (fallen : ¬c.Standing) :
    c.reversal = [] := by
  unfold reversal
  rcases resolved with dismissed | standing | undone
  · rw [dismissed.scenario]
  · exact absurd standing fallen
  · have scenario := undone.scenario
    cases found : c.scenario <;> first
      | rfl
      | simp [found, Scenario.isWillRevert] at scenario

theorem Compensates.rows_eq_nil {rolledBack : Parties} {rows : List AccountRow}
    (h : Compensates c rolledBack later revertStamp rows []) : rows = [] := by
  generalize none : ([] : List Transition) = undone at h
  cases h with
  | none => rfl
  | abort => cases none
  | failure => cases none
  | success =>
      unfold undoingOrder at none
      split at none <;> cases none

/-- **What a rollback makes of a call that is over.** -/
theorem Resolved.fallBack_cases (resolved : c.Resolved) (chain : Chain) (world : WorldState)
    (later : Incarnations) (revertStamp : Nat) :
    (c.Standing ∧ c.fallBack chain world later revertStamp =
      c.reverted (.canonical chain world later c.caller c.callee) later revertStamp) ∨
    (¬c.Standing ∧ c.reversal = [] ∧ c.fallBack chain world later revertStamp = c) := by
  unfold CallSection.fallBack heed
  by_cases waits : .rollback c.shared.context ∈ c.awaits
  · rcases resolved.mem_awaits waits with ⟨standing, -⟩ | same
    · exact .inl ⟨standing, if_pos waits⟩
    · cases same
  · refine .inr ?_
    have fallen : ¬c.Standing := fun standing => waits (by simp [standing.awaits_eq])
    exact ⟨fallen, resolved.reversal_eq_nil fallen, if_neg waits⟩

/-- A call that stands is undone by a rollback. -/
theorem Standing.fallBack_eq (standing : c.Standing) (chain : Chain) (world : WorldState)
    (later : Incarnations) (revertStamp : Nat) : c.fallBack chain world later revertStamp =
      c.reverted (.canonical chain world later c.caller c.callee) later revertStamp :=
  if_pos (by simp [standing.awaits_eq])

/-- **The rows of a call that is over, after a rollback.** -/
theorem Resolved.accountRows_fallBack (resolved : c.Resolved) :
    (c.fallBack chain world later revertStamp).accountRows = c.accountRows ++
      (c.undoPostings (.canonical chain world later c.caller c.callee) later revertStamp).map
        (·.row) := by
  have form := c.compensates (.canonical chain world later c.caller c.callee) later revertStamp
  rw [undoPostings, form.map_row_pairUp]
  rcases resolved.fallBack_cases chain world later revertStamp with ⟨-, eq⟩ | ⟨-, nothing, eq⟩
  · rw [eq, accountRows_reverted]
  · rw [nothing] at form
    rw [eq, form.rows_eq_nil, List.append_nil]

/-- The rows of a rollback that all end where they should. -/
theorem Compensates.map_move {rolledBack : Parties} {rows : List AccountRow}
    {undone : List Transition} (h : Compensates c rolledBack later revertStamp rows undone)
    (other : c.scenario ≠ .contractFailureWontRevert) :
    rows.map AccountRow.move = undone.map Transition.move := by
  have honest : ∀ e ∈ pairUp rows undone, e.row.move = e.move := by
    intro e he
    rcases h.honest_or_callee e he with honest | ⟨-, -, failed, -⟩
    · show Move.mk _ _ _ = Move.mk _ _ _
      rw [honest]
    · exact absurd failed other
  calc rows.map AccountRow.move
      = ((pairUp rows undone).map (·.row)).map AccountRow.move := by rw [h.map_row_pairUp]
    _ = (pairUp rows undone).map Posting.move := by
        rw [List.map_map]
        exact List.map_congr_left honest
    _ = undone.map Transition.move := h.map_move_pairUp

/-- **A rollback keeps a call in balance.** -/
theorem Accounted.fallBack (accounted : c.Accounted incarnations) (resolved : c.Resolved)
    (room : c.Standing → ∀ r ∈ c.accountRows,
      r.stamp.Precedes (.undoing c.shared.stamp revertStamp c.undoOffset)) :
    (c.fallBack chain world later revertStamp).Accounted incarnations := by
  rcases resolved.fallBack_cases chain world later revertStamp with ⟨standing, eq⟩ | ⟨-, -, eq⟩
  swap
  · rw [eq]
    exact accounted
  have undone :=
    standing.reverted (.canonical chain world later c.caller c.callee) later revertStamp
  have form := c.compensates (.canonical chain world later c.caller c.callee) later revertStamp
  have canRevert := standing.canRevert
  rw [eq]
  refine ⟨⟨?_, ?_, ?_, ?_⟩, ?_, fun standing' => absurd standing' undone.not_standing⟩
  · rw [accountRows_reverted]
    refine List.pairwise_append.2 ⟨accounted.ordered, form.sorted, fun r hr s hs => ?_⟩
    exact form.follows (room standing r hr) s hs
  · intro _
    obtain ⟨⟨r, hr, caller⟩, ⟨s, hs, callee⟩⟩ := accounted.touches standing.not_exception
    rw [accountRows_reverted]
    exact ⟨⟨r, List.mem_append_left _ hr, caller⟩, ⟨s, List.mem_append_left _ hs, callee⟩⟩
  · intro _ other
    have succeeded : c.scenario ≠ .contractFailureWontRevert := by
      intro failed
      refine other ?_
      show c.scenario.willRevert?.getD c.scenario = _
      rw [failed]
      rfl
    obtain ⟨v, w, forward, backward⟩ := accounted.reversible standing
    refine ⟨v, ?_⟩
    rw [accountRows_reverted, List.map_append, form.map_move succeeded]
    exact forward.append backward
  · intro failed
    have failed : c.scenario.willRevert?.getD c.scenario = .contractFailureWontRevert := failed
    rw [CanRevert] at canRevert
    cases scenario : c.scenario <;> simp [scenario, Scenario.willRevert?] at failed canRevert
  · intro _ p captured
    exact (accounted.concerns standing.not_exception p captured).congr rfl rfl

/-! ## Returns -/

/-- **A call whose child context is executing code**, made between two views. -/
structure Spawned (incarnations : Incarnations) (c : CallSection) (v w : View) (p q : Parties) :
    Prop where
  scenario : c.scenario = .contractUndefined
  before : c.before? = some p
  after : c.after? = some q
  reEntry : c.reEntry? = none
  rows : c.accountRows = c.forwardRows ⟨p.caller, q.caller⟩ (c.calleeTransition p q) true
  exchange : c.Exchange incarnations v w p q

theorem touches_forwardRows {caller callee : Transition} {executes : Bool}
    (first : caller.before.address = c.caller) (second : callee.before.address = c.callee) :
    (∃ r ∈ c.forwardRows caller callee executes, r.address = c.caller) ∧
      ∃ r ∈ c.forwardRows caller callee executes, r.address = c.callee :=
  ⟨⟨_, .head _, first⟩, ⟨_, .tail _ (.head _), second⟩⟩

/-- Between its forward rows and its return a call only notices that its child terminates. -/
theorem parting_eq (chain : Chain) (world : WorldState) (incarnations : Incarnations) (child : Nat)
    (c : CallSection) : ∃ exit, c.parting chain world incarnations child =
      { c with childExit? := exit } := by
  unfold CallSection.parting heed
  split
  · exact ⟨_, rfl⟩
  · exact ⟨c.childExit?, rfl⟩

theorem Spawned.parting {v w : View} {p q : Parties} (spawned : c.Spawned incarnations v w p q)
    (chain : Chain) (world : WorldState) (now : Incarnations) (child : Nat) :
    (c.parting chain world now child).Spawned incarnations v w p q := by
  obtain ⟨exit, eq⟩ := c.parting_eq chain world now child
  rw [eq]
  exact ⟨spawned.scenario, spawned.before, spawned.after, spawned.reEntry, spawned.rows,
    spawned.exchange.congr rfl rfl rfl⟩

theorem Accounted.parting (accounted : c.Accounted incarnations) (chain : Chain)
    (world : WorldState) (now : Incarnations) (child : Nat) :
    (c.parting chain world now child).Accounted incarnations := by
  obtain ⟨exit, eq⟩ := c.parting_eq chain world now child
  rw [eq]
  refine ⟨⟨accounted.ordered, accounted.touches, accounted.undone, accounted.failed⟩, ?_, ?_⟩
  · intro unexceptional p captured
    exact (accounted.concerns unexceptional p captured).congr rfl rfl
  · intro standing
    exact accounted.reversible
      ⟨standing.latched, standing.pushed, standing.closing, standing.rolledBack, standing.canRevert⟩

/-- The rows that the return of a call to a contract adds. -/
def answerRows (c : CallSection) (incarnations : Incarnations) (child : Frame) (success : Bool)
    (p q : Parties) : List AccountRow :=
  if success then [] else c.failureRows incarnations child.revertStamp p q

theorem sorted_answerRows (c : CallSection) (incarnations : Incarnations) (child : Frame)
    (success : Bool) (p q : Parties) : (c.answerRows incarnations child success p q).Pairwise
      fun r s => r.stamp.Precedes s.stamp := by
  unfold answerRows
  split
  · exact .nil
  · exact sorted_undoingRows ..

/-- Where the rows of a return are in the order of the history. -/
theorem stamp_of_mem_answerRows {child : Frame} {success : Bool} {p q : Parties} {row : AccountRow}
    (hrow : row ∈ c.answerRows incarnations child success p q) : success = false ∧
      ∃ k, row.stamp = .undoing c.shared.stamp child.revertStamp k ∧ 2 ≤ k ∧ k < 4 := by
  unfold answerRows at hrow
  split at hrow
  · cases hrow
  · rename_i failed
    exact ⟨Bool.eq_false_iff.2 failed, stamp_of_mem_undoingRows hrow⟩

/-- The rows of a return carry the deployment information of now. -/
theorem current_answerRows {child : Frame} {success : Bool} {p q : Parties}
    (before : c.Concerns incarnations p) (after : c.Concerns incarnations q) :
    ∀ row ∈ c.answerRows incarnations child success p q, row.IsCurrent incarnations := by
  have sides := before.calleeTransition_isCurrent after
  have caller : Transition.IsCurrent incarnations c.caller
      (Transition.map ⟨p.caller, q.caller⟩ (·.withDeploymentFrom incarnations)) :=
    Transition.isCurrent_map_withDeploymentFrom before.caller after.caller
  have callee : Transition.IsCurrent incarnations c.callee
      ((c.calleeTransition p q).map (·.withDeploymentFrom incarnations)).reverse :=
    (Transition.isCurrent_map_withDeploymentFrom sides.addressBefore sides.addressAfter).reverse
  unfold answerRows
  split
  · exact fun _ h => by cases h
  · exact isCurrent_of_mem_undoingRows caller.reverse
      ⟨callee.addressBefore, callee.addressAfter, callee.before, callee.after⟩

variable {v w : View} {p q : Parties} {child : Frame} {outcome : ContextOutcome}

/-- **The return of a call to a contract.** -/
theorem Spawned.answered_eq (spawned : c.Spawned incarnations v w p q) :
    c.answered chain world later child outcome =
      { ((c.push (Word.ofBool outcome.success)).withScenario
          (if outcome.success then .contractSuccessWontRevert
            else .contractFailureWontRevert)).append
          ((c.answerRows later child outcome.success p q).map .account) with
        reEntry? := some (.canonical chain world later c.caller c.callee) } := by
  unfold CallSection.answered
  rw [spawned.before]
  dsimp only
  unfold CallSection.returned returnRows
  rw [spawned.scenario, spawned.after]
  rfl

theorem Spawned.scenario_answered (spawned : c.Spawned incarnations v w p q) :
    (c.answered chain world later child outcome).scenario =
      if outcome.success then .contractSuccessWontRevert else .contractFailureWontRevert := by
  rw [spawned.answered_eq]
  rfl

theorem Spawned.accountRows_answered (spawned : c.Spawned incarnations v w p q) :
    (c.answered chain world later child outcome).accountRows =
      c.accountRows ++ c.answerRows later child outcome.success p q := by
  rw [spawned.answered_eq]
  refine (accountRows_append ..).trans ?_
  rw [accountRows_withScenario, accountRows_push]

/-- **A call that has returned would be undone by a rollback.** -/
theorem Spawned.reversal_answered (spawned : c.Spawned incarnations v w p q)
    (failed : outcome.success = false → world.view chain later =
      Function.update v c.callee (v c.callee).warmed) :
    Leads (if outcome.success then w else world.view chain later)
      ((c.answered chain world later child outcome).reversal.map Transition.move) v := by
  rw [spawned.answered_eq]
  unfold reversal
  cases succeeds : outcome.success with
  | true =>
      simp only [append, withScenario, push, if_true, spawned.before, spawned.after]
      exact spawned.exchange.backward
  | false =>
      simp only [append, withScenario, push, Bool.false_eq_true, if_false, spawned.before]
      refine leads_single (Snapshot.address_canonical ..)
        (c.shows_canonical chain world later).callee spawned.exchange.shown.callee ?_
      rw [failed succeeds, Function.update_self]

/-- The moves that a call makes when it returns: none if its context succeeded. -/
theorem Spawned.leads_answerRows (spawned : c.Spawned incarnations v w p q) {x y : View}
    {success : Bool} (succeeded : success = true → x = y)
    (failed : success = false → x = w ∧ y = Function.update v c.callee (v c.callee).warmed) :
    Leads x ((c.answerRows later child success p q).map AccountRow.move) y := by
  unfold answerRows
  cases success with
  | true =>
      rw [succeeded rfl]
      exact .nil y
  | false =>
      obtain ⟨rfl, rfl⟩ := failed rfl
      exact spawned.exchange.failure later child.revertStamp

/-- **The return of a call keeps it in balance.** -/
theorem Spawned.answered (spawned : c.Spawned incarnations v w p q)
    (accounted : c.Accounted incarnations)
    (failed : outcome.success = false → world.view chain incarnations =
      Function.update v c.callee (v c.callee).warmed)
    (late : outcome.success = false → c.shared.stamp ≤ child.revertStamp) :
    (c.answered chain world incarnations child outcome).Accounted incarnations := by
  have rows : (c.answered chain world incarnations child outcome).accountRows =
      c.accountRows ++ c.answerRows incarnations child outcome.success p q :=
    spawned.accountRows_answered
  have forward : Leads v (c.accountRows.map AccountRow.move) w := by
    rw [spawned.rows]
    exact spawned.exchange.forward true
  have made : Leads v
      ((c.answered chain world incarnations child outcome).accountRows.map AccountRow.move)
      (if outcome.success then w else world.view chain incarnations) := by
    rw [rows, List.map_append]
    refine forward.append (spawned.leads_answerRows ?_ ?_)
    · exact fun success => (if_pos success).symm
    · exact fun failure => ⟨rfl, (if_neg (by simp [failure])).trans (failed failure)⟩
  have undo : Leads (if outcome.success then w else world.view chain incarnations)
      ((c.answered chain world incarnations child outcome).reversal.map Transition.move) v :=
    spawned.reversal_answered failed
  refine ⟨⟨?_, ?_, ?_, ?_⟩, ?_, fun _ => ⟨v, _, made, undo⟩⟩
  · rw [rows]
    refine List.pairwise_append.2 ⟨accounted.ordered, sorted_answerRows .., ?_⟩
    intro r hr s hs
    obtain ⟨failure, k, same, -, -⟩ := stamp_of_mem_answerRows hs
    rw [spawned.rows] at hr
    obtain ⟨offset, small, stamp⟩ := stamp_of_mem_forwardRows hr
    rw [stamp, same]
    exact RowStamp.forward_precedes_undoing (late failure) (by omega)
  · intro _
    obtain ⟨⟨r, hr, caller⟩, ⟨s, hs, callee⟩⟩ := accounted.touches (by simp [spawned.scenario])
    rw [rows, spawned.answered_eq]
    exact ⟨⟨r, List.mem_append_left _ hr, caller⟩, ⟨s, List.mem_append_left _ hs, callee⟩⟩
  · intro reverted
    rw [spawned.scenario_answered] at reverted
    cases succeeds : outcome.success <;> simp [succeeds, Scenario.isWillRevert] at reverted
  · intro scenario
    rw [spawned.scenario_answered] at scenario
    cases succeeds : outcome.success with
    | true => simp [succeeds] at scenario
    | false =>
        rw [if_neg (by simp [succeeds]), failed succeeds] at made
        rw [spawned.answered_eq] at made ⊢
        exact ⟨v, spawned.exchange.warm, made⟩
  · intro _ x captured
    rw [spawned.answered_eq] at captured ⊢
    have unexceptional : c.scenario ≠ .exception := by simp [spawned.scenario]
    have concerned : c.Concerns incarnations x := by
      rcases captured with before | after | reEntry
      · exact accounted.concerns unexceptional x (.inl before)
      · exact accounted.concerns unexceptional x (.inr (.inl after))
      · obtain rfl := Option.some.inj reEntry
        exact concerns_canonical ..
    exact concerned.congr rfl rfl

/-! ## The end of the transaction -/

/-- **The end of the transaction keeps a call in balance.** -/
theorem Balanced.shut (balanced : c.Balanced) : c.shut.Balanced := by
  have rows := c.accountRows_shut
  obtain ⟨body, closing, eq, -⟩ := c.shut_cases
  rw [eq] at rows ⊢
  refine ⟨?_, ?_, ?_, ?_⟩
  all_goals rw [rows]
  · exact balanced.ordered
  · exact balanced.touches
  · exact balanced.undone
  · exact balanced.failed

end CallSection

end ExecutionTrace
