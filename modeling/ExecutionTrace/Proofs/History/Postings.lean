import ExecutionTrace.Proofs.History.Exchange
import ExecutionTrace.Proofs.History.Order

/-!
# Postings

Every account row is produced with an end in mind: a row that shows an effect ends where the
effect leads, and a row that undoes one ends where the effect started.  Nearly all rows do end
there.  A posting keeps the row together with the face that it should end at.

## Main Definitions

* `Posting` — a row, and the face that it should end at
* `CallSection.undoPostings` — the rows that a rollback adds to a call
* `CallSection.Compensates` — the four forms of these rows
* `CallSection.Betrays` — the one row that may end elsewhere

## Design Notes

A failed call to a contract has undone its own transfer and left the callee warm.  When its caller
is rolled back as well, one more row cools the callee down.  That row ends at what is
captured after the rollback, which already lacks whatever else the rollback took from the callee,
although the rows that say so come later in the history.
-/

namespace ExecutionTrace

/-- **A row, and the face that it should end at.** -/
structure Posting where
  row : AccountRow
  target : Face

namespace Posting

/-- The move that the row should make. -/
def move (e : Posting) : Move where
  address := e.row.address
  source := e.row.before.face
  target := e.target

/-- The row ends where it should. -/
def IsHonest (e : Posting) : Prop :=
  e.row.after.face = e.target

end Posting

namespace AccountRow

/-- A row that ends where it should. -/
def posting (row : AccountRow) : Posting where
  row := row
  target := row.after.face

theorem isHonest_posting (row : AccountRow) : row.posting.IsHonest := rfl

/-- Posting rows forgets nothing of them. -/
theorem rows_postings (rows : List AccountRow) : (rows.map posting).map Posting.row = rows := by
  rw [List.map_map]
  exact List.map_id rows

theorem moves_postings (rows : List AccountRow) :
    (rows.map posting).map Posting.move = rows.map move :=
  List.map_map ..

/-- Both ends of a row are snapshots of one account with deployment information of now. -/
structure IsCurrent (incarnations : Incarnations) (row : AccountRow) : Prop where
  address : row.after.address = row.before.address
  before : row.before.IsCurrent incarnations
  after : row.after.IsCurrent incarnations

/-- A row from deployment information of one time to that of another. -/
structure Crosses (earlier later : Incarnations) (row : AccountRow) : Prop where
  address : row.after.address = row.before.address
  before : row.before.IsCurrent earlier
  after : row.after.IsCurrent later

theorem Crosses.isCurrent {incarnations : Incarnations} {row : AccountRow}
    (h : row.Crosses incarnations incarnations) : row.IsCurrent incarnations :=
  ⟨h.address, h.before, h.after⟩

theorem IsCurrent.crosses {incarnations : Incarnations} {row : AccountRow}
    (h : row.IsCurrent incarnations) : row.Crosses incarnations incarnations :=
  ⟨h.address, h.before, h.after⟩

end AccountRow

namespace Transition

/-- Both ends of a transition are snapshots of one account with deployment information of now. -/
structure IsCurrent (incarnations : Incarnations) (a : Address) (t : Transition) : Prop where
  addressBefore : t.before.address = a
  addressAfter : t.after.address = a
  before : t.before.IsCurrent incarnations
  after : t.after.IsCurrent incarnations

variable {incarnations : Incarnations} {a : Address} {t : Transition}

theorem IsCurrent.of_ends (h : t.IsCurrent incarnations a) {row : AccountRow}
    (before : row.before = t.before) (after : row.after = t.after) :
    row.IsCurrent incarnations := by
  refine ⟨?_, before ▸ h.before, after ▸ h.after⟩
  rw [before, after, h.addressBefore, h.addressAfter]

theorem IsCurrent.row (h : t.IsCurrent incarnations a) (stamp : RowStamp) :
    (t.row stamp).IsCurrent incarnations :=
  h.of_ends rfl rfl

theorem IsCurrent.reverse (h : t.IsCurrent incarnations a) : t.reverse.IsCurrent incarnations a :=
  ⟨h.addressAfter, h.addressBefore, h.after, h.before⟩

/-- Deployment information of now makes every transition of one account current. -/
theorem isCurrent_map_withDeploymentFrom (before : t.before.address = a)
    (after : t.after.address = a) :
    (t.map (·.withDeploymentFrom incarnations)).IsCurrent incarnations a :=
  ⟨before, after, ⟨rfl, rfl⟩, ⟨rfl, rfl⟩⟩

theorem isCurrent_map_withDeploymentOf {s : Snapshot} (current : s.IsCurrent incarnations)
    (address : s.address = a) (before : t.before.address = a) (after : t.after.address = a) :
    (t.map (·.withDeploymentOf s)).IsCurrent incarnations a := by
  obtain ⟨number, status⟩ := current
  rw [address] at number status
  refine ⟨before, after, ⟨?_, ?_⟩, ⟨?_, ?_⟩⟩
  · exact number.trans (congrArg _ before.symm)
  · exact status.trans (congrArg _ before.symm)
  · exact number.trans (congrArg _ after.symm)
  · exact status.trans (congrArg _ after.symm)

end Transition

namespace CallSection

variable {incarnations later : Incarnations} {c : CallSection} {p q rolledBack : Parties}
  {revertStamp : Nat}

/-! ## Rows made of snapshots of the parties -/

theorem Concerns.caller_isCurrent (before : c.Concerns incarnations p)
    (after : c.Concerns incarnations q) :
    Transition.IsCurrent incarnations c.caller ⟨p.caller, q.caller⟩ :=
  ⟨before.caller, after.caller, before.callerCurrent, after.callerCurrent⟩

theorem Concerns.callee_isCurrent (before : c.Concerns incarnations p)
    (after : c.Concerns incarnations q) :
    Transition.IsCurrent incarnations c.callee ⟨p.callee, q.callee⟩ :=
  ⟨before.callee, after.callee, before.calleeCurrent, after.calleeCurrent⟩

/-- The callee's side of a transfer is about the callee, even if it is made of snapshots of the
caller. -/
theorem Concerns.calleeTransition_isCurrent (before : c.Concerns incarnations p)
    (after : c.Concerns incarnations q) :
    (c.calleeTransition p q).IsCurrent incarnations c.callee := by
  unfold calleeTransition
  split
  · rename_i self
    rw [← caller_eq_of_isSelfTransfer self]
    exact after.caller_isCurrent before
  · exact before.callee_isCurrent after

theorem isCurrent_of_mem_forwardRows {caller callee : Transition} {executes : Bool}
    (first : caller.IsCurrent incarnations c.caller)
    (second : callee.IsCurrent incarnations c.callee) :
    ∀ row ∈ c.forwardRows caller callee executes, row.IsCurrent incarnations := by
  intro row hrow
  simp only [forwardRows, List.mem_cons, List.not_mem_nil, or_false] at hrow
  rcases hrow with rfl | rfl
  · exact first.row _
  · exact second.of_ends rfl rfl

theorem isCurrent_of_mem_undoingRows {caller callee : Transition}
    (first : caller.IsCurrent incarnations c.caller)
    (second : callee.IsCurrent incarnations c.callee) :
    ∀ row ∈ c.undoingRows revertStamp caller callee, row.IsCurrent incarnations := by
  intro row hrow
  unfold undoingRows at hrow
  cases self : c.isSelfTransfer
  all_goals
    simp only [self, List.mem_cons, List.not_mem_nil, or_false] at hrow
    rcases hrow with rfl | rfl
  · exact first.row _
  · exact second.row _
  · exact second.row _
  · exact first.row _

/-! ## The places of rows in a history -/

theorem sorted_forwardRows (c : CallSection) (caller callee : Transition) (executes : Bool) :
    (c.forwardRows caller callee executes).Pairwise fun r s => r.stamp.Precedes s.stamp :=
  List.pairwise_pair.2 (RowStamp.precedes_forward Nat.zero_lt_one)

theorem stamp_of_mem_forwardRows {caller callee : Transition} {executes : Bool} {row : AccountRow}
    (hrow : row ∈ c.forwardRows caller callee executes) :
    ∃ k, k < 2 ∧ row.stamp = .forward c.shared.stamp k := by
  simp only [forwardRows, List.mem_cons, List.not_mem_nil, or_false] at hrow
  rcases hrow with rfl | rfl
  · exact ⟨0, by omega, rfl⟩
  · exact ⟨1, by omega, rfl⟩

/-- The stamps of the rows that undo it. -/
theorem map_stamp_undoingRows (c : CallSection) (revertStamp : Nat) (caller callee : Transition) :
    (c.undoingRows revertStamp caller callee).map AccountRow.stamp =
      [.undoing c.shared.stamp revertStamp 2, .undoing c.shared.stamp revertStamp 3] := by
  unfold undoingRows
  cases c.isSelfTransfer <;> rfl

theorem sorted_undoingRows (c : CallSection) (revertStamp : Nat) (caller callee : Transition) :
    (c.undoingRows revertStamp caller callee).Pairwise fun r s => r.stamp.Precedes s.stamp := by
  have order : RowStamp.Precedes (.undoing c.shared.stamp revertStamp 2)
      (.undoing c.shared.stamp revertStamp 3) :=
    RowStamp.undoing_precedes_offset (by omega) (by omega)
  have inOrder : ((c.undoingRows revertStamp caller callee).map AccountRow.stamp).Pairwise
      RowStamp.Precedes := by
    rw [map_stamp_undoingRows]
    exact List.pairwise_pair.2 order
  exact List.pairwise_map.1 inOrder

theorem stamp_of_mem_undoingRows {caller callee : Transition} {row : AccountRow}
    (hrow : row ∈ c.undoingRows revertStamp caller callee) :
    ∃ k, row.stamp = .undoing c.shared.stamp revertStamp k ∧ 2 ≤ k ∧ k < 4 := by
  have found := List.mem_map_of_mem (f := AccountRow.stamp) hrow
  rw [map_stamp_undoingRows] at found
  simp only [List.mem_cons, List.not_mem_nil, or_false] at found
  rcases found with first | second
  · exact ⟨2, first, by omega, by omega⟩
  · exact ⟨3, second, by omega, by omega⟩

/-! ## The rows of a rollback -/

/-- **The four forms of the rows that a rollback adds**, each beside what it undoes. -/
inductive Compensates (c : CallSection) (rolledBack : Parties) (incarnations : Incarnations)
    (revertStamp : Nat) : List AccountRow → List Transition → Prop
  | none : Compensates c rolledBack incarnations revertStamp [] []
  /-- The callee of an aborted call cools down. -/
  | abort {before after : Parties} (scenario : c.scenario ≠ .contractFailureWontRevert)
      (latched : c.before? = some before) (captured : c.after? = some after) :
      Compensates c rolledBack incarnations revertStamp
        [(Transition.map ⟨after.callee, before.callee⟩ (·.withDeploymentFrom incarnations)).row
          (.undoing c.shared.stamp revertStamp 2)]
        [⟨after.callee, before.callee⟩]
  /-- The callee of a failed call to a contract cools down. -/
  | failure {before reEntry : Parties} (scenario : c.scenario = .contractFailureWontRevert)
      (latched : c.before? = some before) (captured : c.reEntry? = some reEntry) :
      Compensates c rolledBack incarnations revertStamp
        [Transition.row ⟨reEntry.callee, rolledBack.callee⟩ (.undoing c.shared.stamp revertStamp 4)]
        [⟨reEntry.callee, before.callee⟩]
  /-- A call that succeeded is undone for both parties. -/
  | success {before after : Parties} {callee : Transition}
      (scenario : c.scenario ≠ .contractFailureWontRevert) (latched : c.before? = some before)
      (captured : c.after? = some after ∨ c.reEntry? = some after)
      (side : callee = ⟨before.callee, after.callee⟩ ∨ callee = c.calleeTransition before after) :
      Compensates c rolledBack incarnations revertStamp
        (c.undo revertStamp ⟨before.caller, after.caller⟩ callee rolledBack)
        (c.undoingOrder ⟨after.caller, before.caller⟩ callee.reverse)

theorem compensates (c : CallSection) (rolledBack : Parties) (incarnations : Incarnations)
    (revertStamp : Nat) : Compensates c rolledBack incarnations revertStamp
      (c.compensation rolledBack incarnations revertStamp) c.reversal := by
  unfold compensation reversal
  cases latched : c.before? with
  | none => cases c.scenario <;> exact .none
  | some before =>
      cases scenario : c.scenario
      case abortWontRevert =>
        cases captured : c.after? with
        | none => exact .none
        | some after => exact .abort (by simp [scenario]) latched captured
      case externalSuccessWontRevert =>
        cases captured : c.reEntry? with
        | none => cases c.after? <;> exact .none
        | some reEntry =>
            cases c.after? <;>
              exact .success (by simp [scenario]) latched (.inr captured) (.inl rfl)
      case contractFailureWontRevert =>
        cases captured : c.reEntry? with
        | none => cases c.after? <;> exact .none
        | some reEntry => cases c.after? <;> exact .failure scenario latched captured
      case contractSuccessWontRevert | precompileSuccessWontRevert =>
        cases captured : c.after? with
        | none => exact .none
        | some after => exact .success (by simp [scenario]) latched (.inl captured) (.inr rfl)
      all_goals exact .none

/-- Rows beside what they undo. -/
def pairUp (rows : List AccountRow) (undone : List Transition) : List Posting :=
  List.zipWith (fun row t => ⟨row, t.after.face⟩) rows undone

/-- **The rows that a rollback adds to a call**, with what each of them undoes. -/
def undoPostings (c : CallSection) (rolledBack : Parties) (incarnations : Incarnations)
    (revertStamp : Nat) : List Posting :=
  pairUp (c.compensation rolledBack incarnations revertStamp) c.reversal

/-- The offset of the first row that the next rollback adds to a call. -/
def undoOffset (c : CallSection) : Nat :=
  if c.scenario = .contractFailureWontRevert then 4 else 2

/-- **The row of a rollback that cools down the callee** of a failed call. -/
structure CoolsDown (c : CallSection) (r : AccountRow) : Prop where
  scenario : c.scenario = .contractFailureWillRevert
  row : r ∈ c.accountRows
  stamp : ∃ revertStamp, r.stamp = .undoing c.shared.stamp revertStamp 4

/-- **The row of a rollback that ends elsewhere** than where it should: it cools down the callee
of a failed call. -/
structure Betrays (c : CallSection) (e : Posting) : Prop where
  scenario : c.scenario = .contractFailureWillRevert
  row : e.row ∈ c.accountRows
  stamp : ∃ revertStamp, e.row.stamp = .undoing c.shared.stamp revertStamp 4
  address : e.row.address = c.callee
  after : c.rolledBack?.map (·.callee) = some e.row.after
  target : c.before?.map (·.callee.face) = some e.target

namespace Compensates

variable {rows : List AccountRow} {undone : List Transition}

theorem map_row_pairUp (h : Compensates c rolledBack incarnations revertStamp rows undone) :
    (pairUp rows undone).map (·.row) = rows := by
  cases h with
  | none => rfl
  | abort => rfl
  | failure => rfl
  | success =>
      unfold undo undoingRows undoingOrder
      cases c.isSelfTransfer <;> rfl

theorem map_move_pairUp (h : Compensates c rolledBack incarnations revertStamp rows undone) :
    (pairUp rows undone).map Posting.move = undone.map Transition.move := by
  cases h with
  | none => rfl
  | abort => rfl
  | failure => rfl
  | success =>
      unfold undo undoingRows undoingOrder
      cases c.isSelfTransfer <;> rfl

/-- The offsets of the rows that a rollback adds. -/
theorem stamps (h : Compensates c rolledBack incarnations revertStamp rows undone) :
    ∃ offsets : List Nat, rows.map (·.stamp) = offsets.map (.undoing c.shared.stamp revertStamp) ∧
      offsets.Pairwise (· < ·) ∧ ∀ k ∈ offsets, c.undoOffset ≤ k ∧ k < 8 := by
  cases h with
  | none => exact ⟨[], rfl, .nil, nofun⟩
  | abort scenario =>
      refine ⟨[2], rfl, List.pairwise_singleton .., ?_⟩
      simp [undoOffset, scenario]
  | failure scenario =>
      refine ⟨[4], rfl, List.pairwise_singleton .., ?_⟩
      simp [undoOffset, scenario]
  | success scenario =>
      refine ⟨[2, 3], map_stamp_undoingRows .., by simp, ?_⟩
      simp [undoOffset, scenario]

/-- The rows of a rollback are in order. -/
theorem sorted (h : Compensates c rolledBack incarnations revertStamp rows undone) :
    rows.Pairwise fun r s => r.stamp.Precedes s.stamp := by
  obtain ⟨offsets, stamps, increasing, bounds⟩ := h.stamps
  have inOrder : (rows.map (·.stamp)).Pairwise RowStamp.Precedes := by
    rw [stamps]
    refine List.pairwise_map.2 (increasing.imp_of_mem ?_)
    intro k k' _ hk' order
    exact RowStamp.undoing_precedes_offset order (bounds k' hk').2
  exact List.pairwise_map.1 inOrder

theorem stamp_of_mem (h : Compensates c rolledBack incarnations revertStamp rows undone)
    {row : AccountRow} (hrow : row ∈ rows) :
    ∃ k, row.stamp = .undoing c.shared.stamp revertStamp k ∧ c.undoOffset ≤ k ∧ k < 8 := by
  obtain ⟨offsets, stamps, -, bounds⟩ := h.stamps
  have found : row.stamp ∈ offsets.map (RowStamp.undoing c.shared.stamp revertStamp) := by
    rw [← stamps]
    exact List.mem_map_of_mem hrow
  obtain ⟨k, hk, same⟩ := List.mem_map.1 found
  exact ⟨k, same.symm, bounds k hk⟩

/-- The rows of a rollback come after everything that leaves room for them. -/
theorem follows (h : Compensates c rolledBack incarnations revertStamp rows undone)
    {stamp : RowStamp} (room : stamp.Precedes (.undoing c.shared.stamp revertStamp c.undoOffset)) :
    ∀ row ∈ rows, stamp.Precedes row.stamp := by
  intro row hrow
  obtain ⟨k, same, least, small⟩ := h.stamp_of_mem hrow
  rw [same]
  rcases Nat.eq_or_lt_of_le least with first | further
  · exact first ▸ room
  · exact room.trans (RowStamp.undoing_precedes_offset further small)

/-- Only a failed call to a contract has a row that may end elsewhere. -/
theorem honest_or_callee (h : Compensates c rolledBack incarnations revertStamp rows undone) :
    ∀ e ∈ pairUp rows undone, e.IsHonest ∨
      ∃ before reEntry, c.scenario = .contractFailureWontRevert ∧ c.before? = some before ∧
        c.reEntry? = some reEntry ∧ e.row.address = reEntry.callee.address ∧
        e.row.after = rolledBack.callee ∧ e.target = before.callee.face ∧
        e.row.stamp = .undoing c.shared.stamp revertStamp 4 := by
  intro e he
  cases h with
  | none => cases he
  | abort =>
      obtain rfl := List.mem_singleton.1 he
      exact .inl rfl
  | @failure before reEntry scenario latched captured =>
      obtain rfl := List.mem_singleton.1 he
      exact .inr ⟨before, reEntry, scenario, latched, captured, rfl, rfl, rfl, rfl⟩
  | success =>
      refine .inl ?_
      unfold undo undoingRows undoingOrder at he
      cases self : c.isSelfTransfer
      all_goals
        simp only [self, pairUp, Bool.false_eq_true, if_false, if_true, List.zipWith_cons_cons,
          List.zipWith_nil_left, List.mem_cons, List.not_mem_nil, or_false] at he
        rcases he with rfl | rfl <;> rfl

/-- **The rows of a rollback carry the deployment information of now.** Only the row that cools down
the callee of a failed call starts with what it was when control returned from the call. -/
theorem isCurrent_or_crosses (h : Compensates c rolledBack later revertStamp rows undone)
    (concerns : ∀ p, c.before? = some p ∨ c.after? = some p ∨ c.reEntry? = some p →
      c.Concerns incarnations p) (now : c.Concerns later rolledBack) :
    ∀ row ∈ rows, row.IsCurrent later ∨ c.scenario = .contractFailureWontRevert ∧
      row.stamp = .undoing c.shared.stamp revertStamp 4 ∧ row.Crosses incarnations later := by
  cases h with
  | none => exact fun _ h => by cases h
  | @abort before after _ latched captured =>
      have before := concerns before (.inl latched)
      have after := concerns after (.inr (.inl captured))
      intro row hrow
      obtain rfl := List.mem_singleton.1 hrow
      exact .inl
        ((Transition.isCurrent_map_withDeploymentFrom after.callee before.callee).row _)
  | @failure before reEntry scenario latched captured =>
      have reEntry := concerns reEntry (.inr (.inr captured))
      intro row hrow
      obtain rfl := List.mem_singleton.1 hrow
      exact .inr ⟨scenario, rfl, now.callee.trans reEntry.callee.symm, reEntry.calleeCurrent,
        now.calleeCurrent⟩
  | @success before after callee _ latched captured side =>
      have before := concerns before (.inl latched)
      have after := concerns after (.inr captured)
      have sides : callee.IsCurrent incarnations c.callee := by
        rcases side with rfl | rfl
        · exact before.callee_isCurrent after
        · exact before.calleeTransition_isCurrent after
      intro row hrow
      refine .inl (isCurrent_of_mem_undoingRows (Transition.IsCurrent.reverse ?_)
        (Transition.IsCurrent.reverse ?_) row hrow)
      · exact Transition.isCurrent_map_withDeploymentOf now.callerCurrent now.caller before.caller
          after.caller
      · exact Transition.isCurrent_map_withDeploymentOf now.calleeCurrent now.callee
          sides.addressBefore sides.addressAfter

end Compensates

end CallSection

end ExecutionTrace
