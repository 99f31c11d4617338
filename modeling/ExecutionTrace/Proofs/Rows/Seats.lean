import ExecutionTrace.Proofs.Call.Announcement
import ExecutionTrace.Proofs.History.Order

/-!
# The offsets of account rows

A section numbers its account rows by offsets, which tell the rows of one section apart just as
stamps tell sections apart.  Rows are produced by up to four reactions, in an order that depends
on the driver, and a reaction may fail half-way.  Nevertheless no reaction uses an offset that
another one has used.

## Main Definitions

* `RowStamp.Placed` — the stamp of a row that a section has given an offset
* `Seated` — rows of one section whose offsets ascend
* `Scenario.reach` — the offsets that a call of a scenario may have used
* `Section.Seated` — a section that has used each offset once, and may go on
* `Section.react_seated` — it still has after any reaction, successful or not

## Design Notes

Nothing is assumed of the occurrences that reach a section, nor of the world that they show.
What keeps the offsets apart is the scenario, since each reaction that shows rows moves it
forward.  The entry of a contract's context is the exception: the scenario stays, and it is the
agenda that keeps the section from entering twice.  So a section is seated relative to the events
that it still waits for.
-/

namespace ExecutionTrace

namespace RowStamp

/-- **The stamp of a row that a section has given an offset**: it shows an effect of the section,
or undoes one. -/
inductive Placed (stamp offset : Nat) : RowStamp → Prop
  | forward : Placed stamp offset (.forward stamp offset)
  | undoing (revertStamp : Nat) : Placed stamp offset (.undoing stamp revertStamp offset)

/-- **The place of a row tells its section and its offset**, whichever kind of row it is and
whenever it was undone.  The last of the eight dominant stamps is the undoing rows' own. -/
theorem Placed.eq_of_key_eq {stamp stamp' offset offset' : Nat} {s s' : RowStamp}
    (placed : Placed stamp offset s) (placed' : Placed stamp' offset' s') (small : offset < 7)
    (small' : offset' < 7) (same : s.key = s'.key) : stamp = stamp' ∧ offset = offset' := by
  cases placed <;> cases placed' <;>
    simp only [key, RowStamp.forward, RowStamp.undoing, origin, RowStamp.offset, spacing,
      Prod.mk.injEq] at same <;> omega

variable {stamp offset : Nat} {s : RowStamp}

/-- A row that shows an effect counts for the stamp of its section. -/
theorem Placed.moment_eq (placed : Placed stamp offset s) (small : offset < 7)
    (shows : s.isUndoing = false) : s.moment = stamp := by
  cases placed with
  | forward => exact moment_forward (by omega)
  | undoing revertStamp =>
      rw [isUndoing_undoing] at shows
      cases shows

/-- A row that undoes an effect counts for a rollback. -/
theorem Placed.eq_undoing (placed : Placed stamp offset s) (small : offset < 7)
    (undoes : s.isUndoing = true) : s = .undoing stamp s.moment offset := by
  cases placed with
  | forward =>
      rw [isUndoing_forward small] at undoes
      cases undoes
  | undoing revertStamp => rw [moment_undoing]

end RowStamp

/-! ## Rows in the order of their offsets -/

/-- **Rows of one section whose offsets ascend**, from a lower bound to below an upper one. -/
inductive Seated (stamp : Nat) : Nat → Nat → List AccountRow → Prop
  | nil {low high : Nat} (order : low ≤ high) : Seated stamp low high []
  | cons {low high offset : Nat} {row : AccountRow} {rows : List AccountRow}
      (above : low ≤ offset) (placed : row.stamp.Placed stamp offset)
      (rest : Seated stamp (offset + 1) high rows) : Seated stamp low high (row :: rows)

namespace Seated

variable {stamp low middle high : Nat} {rows rows' : List AccountRow}

theorem le (seated : Seated stamp low high rows) : low ≤ high := by
  induction seated with
  | nil order => exact order
  | cons above _ _ ih => omega

theorem widen (seated : Seated stamp low high rows) {low' high' : Nat} (below : low' ≤ low)
    (above : high ≤ high') : Seated stamp low' high' rows := by
  induction seated generalizing low' with
  | nil order => exact .nil (by omega)
  | cons found placed _ ih => exact .cons (by omega) placed (ih (Nat.le_refl _) above)

theorem append (seated : Seated stamp low middle rows) (seated' : Seated stamp middle high rows') :
    Seated stamp low high (rows ++ rows') := by
  induction seated with
  | nil order => exact seated'.widen order (Nat.le_refl _)
  | cons above placed _ ih => exact .cons above placed (ih seated')

theorem placed (seated : Seated stamp low high rows) :
    ∀ row ∈ rows, ∃ offset, low ≤ offset ∧ offset < high ∧ row.stamp.Placed stamp offset := by
  induction seated with
  | nil => exact fun _ h => absurd h List.not_mem_nil
  | cons above placed rest ih =>
      intro row found
      rcases List.mem_cons.1 found with rfl | later
      · exact ⟨_, above, rest.le, placed⟩
      · obtain ⟨offset, low, high, placed⟩ := ih row later
        exact ⟨offset, by omega, high, placed⟩

/-- **No two rows have the same place**, as long as the last of eight offsets is not used. -/
theorem pairwise_key_ne (seated : Seated stamp low high rows) (bound : high ≤ 7) :
    rows.Pairwise fun r s => r.stamp.key ≠ s.stamp.key := by
  induction seated with
  | nil => exact .nil
  | cons _ placed rest ih =>
      refine .cons ?_ (ih bound)
      intro other found same
      obtain ⟨offset, above, below, placed'⟩ := rest.placed other found
      have := (placed.eq_of_key_eq placed' (by have := rest.le; omega) (by omega) same).2
      omega

end Seated

/-! ## Call sections -/

/-- **The offsets that a call may have used** by the time it has a scenario are those below. -/
def Scenario.reach : Scenario → Nat
  | undefined | externalUndefined | precompileUndefined => 0
  | contractFailureWontRevert => 4
  | s => if s.isWillRevert then 7 else 2

theorem Scenario.reach_le (s : Scenario) : s.reach ≤ 7 := by
  cases s <;> decide

theorem Scenario.reach_of_refines {s target : Scenario} (h : s.refines target = true) :
    s.reach ≤ target.reach := by
  cases s <;> cases target <;> revert h <;> decide

namespace CallSection

/-- **A call section that has used each offset once.** A call to a contract shows nothing as long
as it waits for its context to be entered. -/
structure Seated (waiting : Prop) (c : CallSection) : Prop where
  rows : ExecutionTrace.Seated c.shared.stamp 0 c.scenario.reach c.accountRows
  unentered : waiting → c.scenario = .contractUndefined → c.accountRows = []

variable {c c' : CallSection} {waiting : Prop} {event : Event}

namespace Seated

/-- A change that shows no rows. -/
theorem congr (seated : c.Seated waiting) (shared : c'.shared = c.shared)
    (scenario : c'.scenario = c.scenario) (rows : c'.accountRows = c.accountRows) :
    c'.Seated waiting where
  rows := by
    rw [shared, scenario, rows]
    exact seated.rows
  unentered := by
    rw [scenario, rows]
    exact seated.unentered

theorem mono (seated : c.Seated waiting) {waiting' : Prop} (fewer : waiting' → waiting) :
    c.Seated waiting' where
  rows := seated.rows
  unentered h := seated.unentered (fewer h)

/-- A step forward in the order of scenarios. -/
theorem advance (seated : c.Seated waiting) {target : Scenario}
    (onward : target ≠ .contractUndefined) (order : c.scenario.reach ≤ target.reach) :
    (c.withScenario target).Seated waiting where
  rows := by
    rw [accountRows_withScenario]
    exact seated.rows.widen (Nat.le_refl _) order
  unentered _ entered := absurd entered onward

/-- **A step forward, and the rows that come with it.** -/
theorem resolve (seated : c.Seated waiting) (target : Scenario)
    (onward : target ≠ .contractUndefined) {rows : List AccountRow}
    (fresh : ExecutionTrace.Seated c.shared.stamp c.scenario.reach target.reach rows) :
    ((c.withScenario target).append (rows.map .account)).Seated waiting where
  rows := by
    rw [accountRows_append, accountRows_withScenario]
    exact seated.rows.append fresh
  unentered _ entered := absurd entered onward

end Seated

theorem forwardRows_seated (c : CallSection) (caller callee : Transition) (executes : Bool) :
    ExecutionTrace.Seated c.shared.stamp 0 2 (c.forwardRows caller callee executes) :=
  .cons (Nat.le_refl _) .forward (.cons (Nat.le_refl _) .forward (.nil (Nat.le_refl _)))

theorem undoingRows_seated (c : CallSection) (revertStamp : Nat) (caller callee : Transition) :
    ExecutionTrace.Seated c.shared.stamp 2 4 (c.undoingRows revertStamp caller callee) :=
  .cons (Nat.le_refl _) (.undoing _) (.cons (Nat.le_refl _) (.undoing _) (.nil (Nat.le_refl _)))

/-- A call section stays where it is in the trace, and stays seated. -/
structure Remains (waiting : Prop) (c c' : CallSection) : Prop where
  shared : c'.shared = c.shared
  seated : c'.Seated waiting

/-! ### Steps of a reaction -/

/-- The scenario moves forward, unless the order of scenarios forbids it. -/
theorem advanceTo_ends (target : Scenario) (c : CallSection) :
    Ends (advanceTo target c)
      (fun _ c' => c' = c.withScenario target ∧ c.scenario.refines target = true)
      (fun _ c' => c' = c) := by
  unfold advanceTo
  refine Ends.get_bind (Leaves.ofExcept_bind rfl fun c' advanced => ?_)
  unfold CallSection.advance at advanced
  split at advanced
  · rename_i forward
    obtain rfl := Except.ok.inj advanced
    exact ⟨rfl, forward⟩
  · cases advanced

theorem advanceToWillRevert_ends {target : Scenario}
    (known : c.scenario.willRevert? = some target) (event : Event) :
    Ends (advanceToWillRevert event c)
      (fun _ c' => c' = c.withScenario target ∧ c.scenario.refines target = true)
      (fun _ c' => c' = c) := by
  unfold advanceToWillRevert
  refine Ends.get_bind ?_
  rw [known]
  exact advanceTo_ends target c

/-- A reaction that starts by moving the scenario forward. -/
theorem Seated.advanceTo_bind {move : CallReaction} {rest : Unit → CallReaction}
    {target : Scenario} (seated : c.Seated waiting)
    (moves : Ends (move c)
      (fun _ c' => c' = c.withScenario target ∧ c.scenario.refines target = true)
      (fun _ c' => c' = c))
    (leaves : Leaves (rest () (c.withScenario target)) (Remains waiting c)) :
    Leaves ((move >>= rest) c) (Remains waiting c) := by
  refine Ends.bind (moves.mono (fun _ _ h => h) ?_) ?_
  · rintro _ _ rfl
    exact ⟨rfl, seated⟩
  · rintro _ _ ⟨rfl, -⟩
    exact leaves

/-! ### Return to the caller -/

theorem resolveExternal_leaves (seated : c.Seated waiting)
    (scenario : c.scenario = .externalUndefined) (before reEntry : Parties) (child : Frame)
    (outcome : ContextOutcome) :
    Leaves (resolveExternal before reEntry child outcome c) (Remains waiting c) := by
  unfold resolveExternal
  split
  · refine seated.advanceTo_bind (advanceTo_ends _ c) ?_
    refine Ends.get_bind ⟨rfl, seated.resolve .externalSuccessWontRevert nofun ?_⟩
    rw [scenario]
    exact forwardRows_seated ..
  · exact ⟨rfl, seated⟩

theorem resolvePrecompile_leaves (seated : c.Seated waiting)
    (scenario : c.scenario = .precompileUndefined) (before reEntry : Parties) (child : Frame)
    (outcome : ContextOutcome) :
    Leaves (resolvePrecompile before reEntry child outcome c) (Remains waiting c) := by
  unfold resolvePrecompile
  refine seated.advanceTo_bind (advanceTo_ends _ c) ?_
  refine Ends.get_bind ?_
  generalize target : (if outcome.success then Scenario.precompileSuccessWontRevert
    else .precompileFailure) = next
  have onward : next ≠ .contractUndefined ∧ next.reach = 2 := by
    subst target
    split <;> exact ⟨nofun, rfl⟩
  have fresh := forwardRows_seated c ⟨before.caller, reEntry.caller⟩
    ⟨before.callee, reEntry.callee⟩ false
  have shown := seated.resolve next onward.1 (by rw [scenario, onward.2]; exact fresh)
  exact ⟨rfl, shown.congr rfl rfl rfl⟩

theorem resolveContract_leaves (seated : c.Seated waiting)
    (scenario : c.scenario = .contractUndefined) (setting : Setting) (before : Parties)
    (child : Frame) (outcome : ContextOutcome) (event : Event) :
    Leaves (resolveContract setting before child outcome event c) (Remains waiting c) := by
  unfold resolveContract
  split
  · refine (advanceTo_ends _ c).mono ?_ ?_
    · rintro _ _ ⟨rfl, -⟩
      exact ⟨rfl, seated.advance nofun (by rw [scenario]; decide)⟩
    · rintro _ _ rfl
      exact ⟨rfl, seated⟩
  · refine seated.advanceTo_bind (advanceTo_ends _ c) ?_
    refine Ends.get_bind (Leaves.ofExcept_bind ?_ fun after _ => ?_)
    · exact ⟨rfl, seated.advance nofun (by rw [scenario]; decide)⟩
    · refine ⟨rfl, seated.resolve .contractFailureWontRevert nofun ?_⟩
      rw [scenario]
      exact undoingRows_seated ..


/-- **Control is back in the caller**, as far as the driver is concerned. -/
theorem reEnter_leaves (seated : c.Seated waiting) (chain : Chain) (setting : Setting)
    (world : WorldState) (child : Frame) (outcome : ContextOutcome) :
    Leaves (reEnter chain setting world child outcome c) (Remains waiting c) := by
  unfold reEnter
  refine Ends.get_bind (Leaves.ofExcept_bind ⟨rfl, seated⟩ fun before _ => Ends.set_bind ?_)
  generalize known : ({ c.push _ with reEntry? := _ } : CallSection) = c'
  have seated' : c'.Seated waiting := by
    subst known
    exact seated.congr rfl rfl (c.accountRows_push _)
  have remains : ∀ c'', Remains waiting c' c'' → Remains waiting c c'' := fun c'' h =>
    ⟨h.shared.trans (known ▸ rfl), h.seated⟩
  have same : c'.scenario = c.scenario := known ▸ rfl
  generalize c.scenario = scenario at same
  cases scenario
  case externalUndefined =>
    exact (resolveExternal_leaves seated' same _ _ _ _).mono remains
  case precompileUndefined =>
    exact (resolvePrecompile_leaves seated' same _ _ _ _).mono remains
  case contractUndefined =>
    exact (resolveContract_leaves seated' same _ _ _ _ _).mono remains
  all_goals exact remains c' ⟨rfl, seated'⟩

/-! ### Other reactions -/

/-- A reaction that shows what a rollback undoes, if it gets that far. -/
theorem Seated.undo_leaves {α : Type} {found : Except Violation α} {shown : α → List AccountRow}
    {target : Scenario} (seated : c.Seated waiting) (event : Event)
    (known : c.scenario.willRevert? = some target)
    (fresh : ∀ a, ExecutionTrace.Seated c.shared.stamp c.scenario.reach target.reach (shown a)) :
    Leaves ((do
      advanceToWillRevert event
      let a ← ofExcept found
      showRows (shown a) : CallReaction) c) (Remains waiting c) := by
  have onward : target ≠ .contractUndefined := by
    rintro rfl
    cases scenario : c.scenario <;> simp [scenario, Scenario.willRevert?] at known
  have order : c.scenario.reach ≤ target.reach := by
    refine Scenario.reach_of_refines ?_
    cases scenario : c.scenario <;> simp only [scenario, Scenario.willRevert?] at known
    all_goals cases known <;> rfl
  refine seated.advanceTo_bind (advanceToWillRevert_ends known event) ?_
  refine Leaves.ofExcept_bind ⟨rfl, seated.advance onward order⟩ fun a _ => ?_
  exact ⟨rfl, seated.resolve target onward (fresh a)⟩

/-- **The context of the call is rolled back**, as far as the driver is concerned. -/
theorem rollBack_leaves (seated : c.Seated waiting) (chain : Chain) (setting : Setting)
    (world : WorldState) (frame : Frame) :
    Leaves (rollBack chain setting world frame c) (Remains waiting c) := by
  unfold rollBack
  refine Ends.get_bind (Ends.set_bind ?_)
  generalize known : ({ c with rolledBack? := _ } : CallSection) = c'
  have seated' : c'.Seated waiting := by
    subst known
    exact seated.congr rfl rfl rfl
  have remains : ∀ c'', Remains waiting c' c'' → Remains waiting c c'' := fun c'' h =>
    ⟨h.shared.trans (known ▸ rfl), h.seated⟩
  have same : c'.scenario = c.scenario := known ▸ rfl
  have shared : c'.shared = c.shared := known ▸ rfl
  refine Leaves.ofExcept_bind (remains c' ⟨rfl, seated'⟩) fun before _ => ?_
  have undoing : ∀ caller callee rolledBack, ExecutionTrace.Seated c'.shared.stamp 2 7
      (c.undo frame.revertStamp caller callee rolledBack) := by
    intro caller callee rolledBack
    rw [shared]
    exact (undoingRows_seated ..).widen (Nat.le_refl _) (by omega)
  generalize c.scenario = scenario at same
  cases scenario
  case abortWontRevert =>
    refine (seated'.undo_leaves _ (by rw [same]; rfl) fun after => ?_).mono remains
    rw [same]
    exact .cons (Nat.le_refl _) (shared ▸ .undoing _) (.nil (by decide))
  case externalSuccessWontRevert =>
    refine (seated'.undo_leaves _ (by rw [same]; rfl) fun reEntry => ?_).mono remains
    rw [same]
    exact undoing ..
  case contractFailureWontRevert =>
    refine (seated'.undo_leaves _ (by rw [same]; rfl) fun reEntry => ?_).mono remains
    rw [same]
    exact .cons (Nat.le_refl _) (shared ▸ .undoing _) (.nil (by decide))
  case contractSuccessWontRevert =>
    refine (seated'.undo_leaves _ (by rw [same]; rfl) fun after => ?_).mono remains
    rw [same]
    exact undoing ..
  case precompileSuccessWontRevert =>
    refine (seated'.undo_leaves _ (by rw [same]; rfl) fun after => ?_).mono remains
    rw [same]
    exact undoing ..
  all_goals exact remains c' ⟨rfl, seated'⟩

/-- **The transaction is over**, as far as the driver is concerned. -/
theorem close_leaves (seated : c.Seated waiting) : Leaves (close c) (Remains waiting c) := by
  have appended : ∀ c' rows, Remains waiting c c' → rows.filterMap Row.account? = [] →
      Remains waiting c (c'.append rows) := by
    intro c' rows h none
    refine ⟨h.shared, h.seated.congr rfl rfl ?_⟩
    rw [accountRows, (c'.append_shows rows).2.2.2, List.filterMap_append, none, List.append_nil]
    rfl
  have complete : ∀ c' row, Remains waiting c c' →
      Remains waiting c { c'.append [.context row] with closing? := none } := by
    intro c' row h
    have shown := appended c' [.context row] h rfl
    exact ⟨shown.shared, shown.seated.congr rfl rfl rfl⟩
  have completed : Remains waiting c (c.append ((c.run?.map PrecompileRun.rows).getD [])) :=
    appended c _ ⟨rfl, seated⟩ (filterMap_account?_run c.run?)
  unfold close
  refine Ends.get_bind ?_
  dsimp only
  by_cases undefined : c.scenario.isUndefined
  · rw [if_pos undefined]
    exact ⟨rfl, seated⟩
  · rw [if_neg undefined]
    by_cases precompile : c.scenario.isPrecompileCall
    · rw [if_pos precompile]
      refine Ends.modify_bind ?_
      cases c.closing? with
      | none => exact completed
      | some row => exact complete _ row completed
    · rw [if_neg precompile]
      cases c.closing? with
      | none => exact ⟨rfl, seated⟩
      | some row => exact complete c row ⟨rfl, seated⟩

/-- A context is entered, and the section no longer waits for that. -/
theorem enterChild_grants (seated : c.Seated True) :
    Grants c.enterChild (Remains False c) fun _ => True := by
  unfold enterChild
  split
  · rename_i scenario
    refine (Grants.any _).bind fun before _ => (Grants.any _).bind fun after _ => ⟨rfl, ?_, nofun⟩
    change ExecutionTrace.Seated _ _ c.scenario.reach (accountRows (c.append _))
    rw [accountRows_append, seated.unentered trivial scenario, scenario]
    exact forwardRows_seated ..
  · refine (Grants.any _).bind fun before _ => (Grants.any _).bind fun after _ => ⟨rfl, ?_⟩
    exact (seated.mono False.elim).congr rfl rfl rfl
  · trivial

theorem exitChild_grants (seated : c.Seated waiting) (chain : Chain) (setting : Setting)
    (world : WorldState) (child : Nat) :
    Grants (c.exitChild chain setting world child) (Remains waiting c) fun _ => True := by
  unfold exitChild
  split
  · exact ⟨rfl, seated.congr rfl rfl rfl⟩
  · trivial

theorem finishOpcode_grants (seated : c.Seated waiting) (pushed? : Option Word) :
    Grants (c.finishOpcode pushed?) (Remains waiting c) fun _ => True := by
  unfold finishOpcode
  split
  · exact ⟨rfl, seated.congr rfl rfl (c.accountRows_push _)⟩
  · trivial

end CallSection

/-! ## Other sections -/

/-- **The trace of a section that has used each offset once**, and shows nothing as long as it
waits. -/
structure Trace.Seated (waiting : Prop) (t : Trace) : Prop where
  rows : ExecutionTrace.Seated t.shared.stamp 0 7 t.accountRows
  unfinished : waiting → t.accountRows = []

namespace Trace

variable {t : Trace} {waiting : Prop}

theorem Seated.mono (seated : t.Seated waiting) {waiting' : Prop} (fewer : waiting' → waiting) :
    t.Seated waiting' where
  rows := seated.rows
  unfinished h := seated.unfinished (fewer h)

/-- **The rows that a trace gets** if it has none yet. -/
theorem Seated.fill (seated : t.Seated True) {rows : List Row}
    (fresh : ExecutionTrace.Seated t.shared.stamp 0 7 (rows.filterMap Row.account?)) :
    (t.append rows).Seated False where
  rows := by
    rw [accountRows_append, seated.unfinished trivial]
    exact fresh
  unfinished := False.elim

end Trace

namespace LaunchSection

/-- **The end of a transaction that executed code**, as far as the driver is concerned. -/
theorem finish_leaves {s : LaunchSection} (seated : s.trace.Seated True) (setting : Setting)
    (outcome : TransactionOutcome) :
    Leaves (finish setting outcome s)
      fun s' => s'.trace.shared = s.trace.shared ∧ s'.trace.Seated False := by
  -- The rows so far use the offsets below a bound, which each batch of rows raises.
  let Shows := fun (high : Nat) (s' : LaunchSection) => s'.trace.shared = s.trace.shared ∧
    Seated s.trace.shared.stamp 0 high s'.trace.accountRows
  have shows : ∀ {low high : Nat} {s' : LaunchSection} (rows : List Row), Shows low s' →
      Seated s.trace.shared.stamp low high (rows.filterMap Row.account?) →
      Shows high { s' with trace := s'.trace.append rows } := by
    intro low high s' rows ⟨shared, seated⟩ fresh
    refine ⟨shared, ?_⟩
    rw [Trace.accountRows_append]
    exact seated.append fresh
  have done : ∀ {high : Nat} {s' : LaunchSection}, high ≤ 7 → Shows high s' →
      s'.trace.shared = s.trace.shared ∧ s'.trace.Seated False := by
    rintro high s' bound ⟨shared, seated⟩
    refine ⟨shared, ?_, False.elim⟩
    rw [shared]
    exact seated.widen (Nat.le_refl _) bound
  have unchanged : Shows 0 s := by
    refine ⟨rfl, ?_⟩
    rw [seated.unfinished trivial]
    exact .nil (Nat.le_refl _)
  have forward : ∀ tx, Seated s.trace.shared.stamp 0 3 (s.forwardRows tx) := fun tx =>
    .cons (Nat.le_refl _) .forward <| .cons (Nat.le_refl _) .forward <|
      .cons (Nat.le_refl _) .forward <| .nil (Nat.le_refl _)
  have undoing : ∀ tx incarnations revertStamp,
      Seated s.trace.shared.stamp 3 5 (s.undoingRows incarnations tx revertStamp) :=
    fun tx incarnations revertStamp => .cons (Nat.le_refl _) (.undoing _) <|
      .cons (Nat.le_refl _) (.undoing _) <| .nil (Nat.le_refl _)
  unfold finish
  refine Ends.get_bind (Leaves.ofExcept_bind (done (by omega) unchanged) fun tx _ => ?_)
  cases s.root? with
  | none => exact done (by omega) unchanged
  | some root =>
      refine Ends.set_bind (Ends.modify_bind (Ends.modify_bind ?_))
      have summary := shows [.misc {}, .transaction (.ofOutcome tx true outcome)] unchanged
        (.nil (Nat.le_refl _))
      have shown := shows ((s.forwardRows tx).map .account) summary
        (by rw [filterMap_account?_map]; exact forward tx)
      split
      · exact done (by omega) (shows [.context root] shown (.nil (Nat.le_refl _)))
      · refine Leaves.ofExcept_bind (done (by omega) shown) fun frame _ => Ends.modify_bind ?_
        have undone := shows
          ((s.undoingRows setting.incarnations tx frame.revertStamp).map .account) shown
          (by rw [filterMap_account?_map]; exact undoing tx setting.incarnations frame.revertStamp)
        exact done (by omega) (shows [.context root] undone (.nil (Nat.le_refl _)))

end LaunchSection

/-- The account rows of transitions that are numbered in order. -/
theorem seated_zipIdx (stamp : Nat) (row : Transition → Nat → AccountRow)
    (placed : ∀ t offset, (row t offset).stamp = .forward stamp offset) :
    ∀ (transitions : List Transition) (start : Nat),
      Seated stamp start (start + transitions.length)
        ((transitions.zipIdx start).map fun (t, offset) => row t offset) := by
  intro transitions
  induction transitions with
  | nil => exact fun start => .nil (Nat.le_refl _)
  | cons t transitions ih =>
      intro start
      have rest := ih (start + 1)
      refine .cons (Nat.le_refl _) (placed t start ▸ .forward) (rest.widen (Nat.le_refl _) ?_)
      simp only [List.length_cons]
      omega

/-- **A settlement section that has used each offset once.** It never undoes anything. -/
structure SettlementSection.Seated (waiting : Prop) (s : SettlementSection) : Prop where
  trace : s.trace.Seated waiting
  shows : ∀ row ∈ s.trace.accountRows, row.stamp.isUndoing = false

/-- **The end of a transaction that ran no code**, as far as the driver is concerned. -/
theorem SettlementSection.finish_seated {s : SettlementSection} (seated : s.Seated True)
    (chain : Chain) (setting : Setting) (world : WorldState) (outcome : TransactionOutcome) :
    Grants (s.finish chain setting world outcome)
      (fun s' => s'.trace.shared = s.trace.shared ∧ s'.Seated False) fun _ => True := by
  unfold finish
  split
  · refine (Grants.any _).bind fun tx _ => ?_
    refine Grants.bind (Q := fun transitions => transitions.length = 3) ?_
      fun transitions three => ?_
    · unfold settle
      refine (Grants.any _).bind fun sender _ => (Grants.any _).bind fun recipient _ => ?_
      exact (Grants.any _).bind fun coinbase _ => rfl
    · let row := fun (t : Transition) (offset : Nat) =>
        t.trimmedRow t.before.address.toWord (.forward s.trace.shared.stamp offset)
      have rows := seated_zipIdx s.trace.shared.stamp row (fun _ _ => rfl) transitions 0
      rw [three] at rows
      have fresh : ((transitions.zipIdx.map fun (t, offset) => row t offset).map Row.account ++
          [Row.transaction (.ofOutcome tx false outcome)]).filterMap Row.account? =
          transitions.zipIdx.map fun (t, offset) => row t offset := by
        rw [List.filterMap_append, filterMap_account?_map]
        exact List.append_nil _
      refine ⟨rfl, seated.trace.fill ?_, ?_⟩
      · rw [fresh]
        exact rows.widen (Nat.le_refl _) (by omega)
      · intro shown found
        rw [Trace.accountRows_append, seated.trace.unfinished trivial, fresh, List.nil_append]
          at found
        obtain ⟨⟨t, offset⟩, listed, rfl⟩ := List.mem_map.1 found
        have small := List.snd_lt_of_mem_zipIdx listed
        exact RowStamp.isUndoing_forward (by omega)
  · trivial

/-! ## Sections -/

namespace Section

/-- The account rows of a section, in the order in which they were produced. -/
def accountRows (s : Section) : List AccountRow :=
  s.trace.accountRows

@[simp]
theorem accountRows_call (c : CallSection) : (call c).accountRows = c.accountRows :=
  c.trace_accountRows

/-- **A section that has used each offset once**, and is prepared for the events that it waits
for. -/
def Seated (waits : Event → Prop) : Section → Prop
  | launch s => s.trace.Seated (waits .transactionEnd)
  | settlement s => s.Seated (waits .transactionEnd)
  | call c => c.Seated (waits .contextEntry)

variable {s : Section} {waits : Event → Prop}

theorem Seated.mono (seated : s.Seated waits) {waits' : Event → Prop}
    (fewer : ∀ e, waits' e → waits e) : s.Seated waits' := by
  cases s with
  | launch s => exact Trace.Seated.mono seated (fewer _)
  | settlement s => exact ⟨seated.trace.mono (fewer _), seated.shows⟩
  | call c => exact CallSection.Seated.mono seated (fewer _)

theorem Seated.rows (seated : s.Seated waits) :
    ExecutionTrace.Seated s.stamp 0 7 s.accountRows := by
  cases s with
  | launch s => exact Trace.Seated.rows seated
  | settlement s => exact seated.trace.rows
  | call c =>
      rw [accountRows_call]
      exact (CallSection.Seated.rows seated).widen (Nat.le_refl _) c.scenario.reach_le

theorem within_leaves {σ : Type} {wrap : σ → Section} {part : σ}
    {change : EStateM Violation σ Unit} {P : σ → Prop} {Q : Section → Prop}
    (leaves : Leaves (change part) P) (carries : ∀ part, P part → Q (wrap part)) :
    Leaves (within wrap part change) Q := by
  unfold within
  cases result : change part <;> rw [result] at leaves <;> exact carries _ leaves

theorem replace_leaves {σ : Type} {wrap : σ → Section} {part : σ} {result : Except Violation σ}
    {P : σ → Prop} {Q : Section → Prop} (grants : Grants result P fun _ => True)
    (kept : Q (wrap part)) (carries : ∀ part, P part → Q (wrap part)) :
    Leaves (replace wrap part result) Q := by
  unfold replace
  cases result with
  | ok part => exact carries part grants
  | error e => exact kept

/-- **Whatever reaches a section, it stays seated**, and waits no longer for the event. -/
theorem react_leaves (seated : s.Seated waits) (chain : Chain) (setting : Setting)
    {occurrence : Occurrence} (awaited : waits occurrence.event) :
    Leaves (react chain setting occurrence s) fun s' =>
      s'.stamp = s.stamp ∧ s'.Seated fun e => waits e ∧ e ≠ occurrence.event := by
  have unchanged : s.stamp = s.stamp ∧ s.Seated fun e => waits e ∧ e ≠ occurrence.event :=
    ⟨rfl, seated.mono fun _ h => h.1⟩
  -- Each kind of section reacts to some occurrences; all others leave it as it is.
  cases s with
  | launch s =>
      have seated : s.trace.Seated (waits .transactionEnd) := seated
      cases occurrence
      case contextEntry =>
        refine replace_leaves (P := fun s' => s'.trace = s.trace) ?_ unchanged fun s' same => ?_
        · unfold LaunchSection.enterRoot
          refine (Grants.any _).bind fun root _ => ?_
          split
          · trivial
          · rfl
        · obtain ⟨stamp, seated⟩ := unchanged
          exact ⟨congrArg (·.shared.stamp) same, (congrArg (Trace.Seated _) same).mpr seated⟩
      case transactionEnd world outcome =>
        refine within_leaves (LaunchSection.finish_leaves (seated.mono fun _ => awaited) setting
          outcome) fun s' h => ⟨congrArg (·.stamp) h.1, h.2.mono fun waits => waits.2 rfl⟩
      all_goals exact unchanged
  | settlement s =>
      have seated : s.Seated (waits .transactionEnd) := seated
      cases occurrence
      case transactionEnd world outcome =>
        refine replace_leaves (SettlementSection.finish_seated ⟨seated.trace.mono fun _ => awaited,
          seated.shows⟩ chain setting world outcome) unchanged fun s' h => ?_
        exact ⟨congrArg (·.stamp) h.1, h.2.trace.mono fun waits => waits.2 rfl, h.2.shows⟩
      all_goals exact unchanged
  | call c =>
      have seated : c.Seated (waits .contextEntry) := seated
      have remains : ∀ c', CallSection.Remains (waits .contextEntry) c c' →
          (call c').stamp = (call c).stamp ∧
            (call c').Seated fun e => waits e ∧ e ≠ occurrence.event := fun c' h =>
        ⟨congrArg (·.stamp) h.shared, h.seated.mono fun waits => waits.1⟩
      cases occurrence
      case contextEntry =>
        refine replace_leaves (CallSection.enterChild_grants (seated.mono fun _ => awaited))
          unchanged fun c' h => ?_
        exact ⟨congrArg (·.stamp) h.shared, h.seated.mono fun waits => waits.2 rfl⟩
      case contextExit world child =>
        exact replace_leaves (CallSection.exitChild_grants seated ..) unchanged remains
      case contextReEntry world context child outcome =>
        exact within_leaves (CallSection.reEnter_leaves seated ..) remains
      case opcodeEnd pushed? =>
        exact replace_leaves (CallSection.finishOpcode_grants seated pushed?) unchanged remains
      case rollback world frame =>
        exact within_leaves (CallSection.rollBack_leaves seated ..) remains
      case transactionClosed =>
        exact within_leaves (CallSection.close_leaves seated) remains
      case transactionEnd => exact unchanged

end Section

/-! ## Fresh sections -/

/-- An announced call is seated, whatever it waits for. -/
theorem CallSection.Announced.seated {chain : Chain} {setting : Setting} {world : WorldState}
    {frame : Frame} {i : Invocation} {c : CallSection}
    (announced : Announced chain setting world frame i c) (waiting : Prop) : c.Seated waiting := by
  have none : c.accountRows = [] → c.Seated waiting := fun rows =>
    ⟨rows ▸ .nil (Nat.zero_le _), fun _ _ => rows⟩
  cases announced.course with
  | exceptional _ scenario _ rows =>
      refine ⟨?_, fun _ entered => by rw [scenario] at entered; cases entered⟩
      rw [scenario, rows]
      split
      · exact forwardRows_seated ..
      · exact .nil (Nat.zero_le _)
  | aborting _ _ scenario _ _ rows =>
      refine ⟨?_, fun _ entered => by rw [scenario] at entered; cases entered⟩
      rw [scenario, rows]
      exact forwardRows_seated ..
  | external _ _ _ _ _ _ rows => exact none rows
  | precompile _ _ _ _ _ _ _ rows => exact none rows
  | contract _ _ _ _ _ _ rows => exact none rows

/-- A trace that has just been started is seated, whatever its section waits for. -/
theorem Trace.start_seated (stamp context : Nat) (waiting : Prop) :
    (Trace.start stamp context).Seated waiting :=
  ⟨.nil (Nat.zero_le _), fun _ => rfl⟩

end ExecutionTrace
