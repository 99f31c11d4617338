import ExecutionTrace.Proofs.Context.Preorder

/-!
# Who has been rolled back

A context is rolled back because it failed, or because one of the contexts above it did.  The
stamps in the frames of a tree say exactly that.

## Main Definitions

* `ContextTree.hasReverted`, `ContextTree.hasFailed` — what the frame of a context says
* `ContextTree.FailedAbove` — a context, or one of those above it, has failed
* `ContextTree.Truthful` — stamps are passed on to children, and begin with a failure
* `ContextTree.Truthful.hasReverted_iff` — what they amount to

## Design Notes

Between the failure of a context and its rollback its frame carries no stamp yet, so a tree is only
truthful between two steps.  The two changes are therefore treated as one.
-/

namespace ExecutionTrace.ContextTree

/-- The context has been rolled back. -/
def hasReverted (t : ContextTree) (id : Nat) : Bool :=
  (t.frame? id).any (·.hasReverted)

/-- The context has ended in failure. -/
def hasFailed (t : ContextTree) (id : Nat) : Bool :=
  (t.frame? id).any (·.hasFailed)

/-- **A context, or one of those above it, has failed.** -/
inductive FailedAbove (t : ContextTree) : Nat → Prop
  | own {id : Nat} (failed : t.hasFailed id = true) : FailedAbove t id
  | above {id p : Nat} (parent : t.parentOf id = some p) (failed : FailedAbove t p) :
      FailedAbove t id

/-- **Stamps are passed on to children, and begin with a failure.** -/
structure Truthful (t : ContextTree) : Prop where
  failed : ∀ id, t.hasFailed id = true → t.hasReverted id = true
  inherited : ∀ id p, t.parentOf id = some p → t.hasReverted p = true → t.hasReverted id = true
  blamed : ∀ id, t.hasReverted id = true →
    t.hasFailed id = true ∨ ∃ p, t.parentOf id = some p ∧ t.hasReverted p = true

variable {t : ContextTree}

/-- **A context has been rolled back exactly if it or one above it has failed.** -/
theorem Truthful.hasReverted_iff (truthful : t.Truthful) (wf : t.WellFormed) (id : Nat) :
    t.hasReverted id = true ↔ t.FailedAbove id := by
  constructor
  · -- Parents have smaller numbers, so the search for a culprit ends.
    induction id using Nat.strongRecOn with
    | ind id ih =>
        intro reverted
        rcases truthful.blamed id reverted with failed | ⟨p, parent, reverted'⟩
        · exact .own failed
        · exact .above parent (ih p (wf.parent_lt parent).2 reverted')
  · intro failed
    induction failed with
    | own failed => exact truthful.failed _ failed
    | above parent _ ih => exact truthful.inherited _ _ parent ih

/-! ## Entering a context -/

theorem hasReverted_empty (id : Nat) : ({} : ContextTree).hasReverted id = false := by
  rw [hasReverted, frame?_empty]
  rfl

theorem hasFailed_empty (id : Nat) : ({} : ContextTree).hasFailed id = false := by
  rw [hasFailed, frame?_empty]
  rfl

theorem truthful_empty : ({} : ContextTree).Truthful where
  failed id failed := by simp [hasFailed_empty] at failed
  inherited id p _ reverted := by simp [hasReverted_empty] at reverted
  blamed id reverted := by simp [hasReverted_empty] at reverted

/-- What is said of frames whatever their children are is not changed by entering a context, if it
is not said of a new frame. -/
theorem any_enter (t : ContextTree) (entry : ContextEntry) {p : Frame → Bool} (id : Nat)
    (new : p (t.newFrame entry) = false) (same : ∀ f child, p (f.addChild child) = p f) :
    ((t.enter entry).frame? id).any p = (t.frame? id).any p := by
  rw [frame?_enter]
  by_cases fresh : id = t.nextId
  · rw [if_pos fresh, fresh, frame?_eq_none (Nat.le_refl _)]
    exact new
  · rw [if_neg fresh]
    split
    · rw [Option.any_map]
      exact congrArg (fun q => (t.frame? id).any q) (funext fun f => same f t.nextId)
    · rfl

@[simp]
theorem hasReverted_enter (t : ContextTree) (entry : ContextEntry) (id : Nat) :
    (t.enter entry).hasReverted id = t.hasReverted id :=
  t.any_enter entry id rfl fun _ _ => rfl

@[simp]
theorem hasFailed_enter (t : ContextTree) (entry : ContextEntry) (id : Nat) :
    (t.enter entry).hasFailed id = t.hasFailed id :=
  t.any_enter entry id rfl fun _ _ => rfl

theorem hasReverted_eq_false {id : Nat} (h : t.nextId ≤ id) : t.hasReverted id = false := by
  rw [hasReverted, frame?_eq_none h]
  rfl

/-- **A context is entered from one that has not been rolled back.** -/
theorem Truthful.enter (truthful : t.Truthful) (entry : ContextEntry)
    (active : ∀ id, t.current? = some id → t.hasReverted id = false) :
    (t.enter entry).Truthful where
  failed id failed := by
    rw [hasFailed_enter] at failed
    rw [hasReverted_enter]
    exact truthful.failed id failed
  inherited id p parent reverted := by
    rw [hasReverted_enter] at reverted ⊢
    by_cases fresh : id = t.nextId
    · rw [fresh, parentOf_enter_self] at parent
      rw [active p parent] at reverted
      cases reverted
    · rw [(frame_enter_of_ne fresh).1] at parent
      exact truthful.inherited id p parent reverted
  blamed id reverted := by
    rw [hasReverted_enter] at reverted
    have old : id ≠ t.nextId := by
      rintro rfl
      rw [hasReverted_eq_false (Nat.le_refl _)] at reverted
      cases reverted
    rw [hasFailed_enter, (frame_enter_of_ne old).1]
    refine (truthful.blamed id reverted).imp_right fun ⟨p, parent, above⟩ => ⟨p, parent, ?_⟩
    rw [hasReverted_enter]
    exact above

/-! ## Ending a context -/

@[simp]
theorem hasReverted_left (t : ContextTree) (f : Frame) (outcome : ContextOutcome) (id : Nat) :
    (t.left f outcome).hasReverted id = t.hasReverted id := by
  rw [hasReverted, frame?_left]
  split
  · rw [Option.any_map]
    rfl
  · rfl

/-- The outcome of the context that has ended says whether it has failed. -/
theorem hasFailed_left (t : ContextTree) {f : Frame} (found : t.frame? f.id = some f)
    (outcome : ContextOutcome) (id : Nat) :
    (t.left f outcome).hasFailed id = if f.id = id then !outcome.success else t.hasFailed id := by
  rw [hasFailed, frame?_left]
  by_cases own : f.id = id
  · rw [if_pos own, if_pos own, ← own, found]
    rfl
  · rw [if_neg own, if_neg own]
    rfl

/-- **A context that ends in success** is not rolled back. -/
theorem Truthful.left_of_success (truthful : t.Truthful) {f : Frame}
    (found : t.frame? f.id = some f) (unreverted : t.hasReverted f.id = false)
    {outcome : ContextOutcome} (success : outcome.success = true) :
    (t.left f outcome).Truthful where
  failed id failed := by
    rw [hasFailed_left t found] at failed
    rw [hasReverted_left]
    split at failed
    · simp [success] at failed
    · exact truthful.failed id failed
  inherited id p parent reverted := by
    rw [(sameShape_left ..).parentOf_eq] at parent
    rw [hasReverted_left] at reverted ⊢
    exact truthful.inherited id p parent reverted
  blamed id reverted := by
    rw [hasReverted_left] at reverted
    have other : f.id ≠ id := by
      rintro rfl
      rw [unreverted] at reverted
      cases reverted
    rw [hasFailed_left t found, if_neg other, (sameShape_left ..).parentOf_eq]
    refine (truthful.blamed id reverted).imp_right fun ⟨p, parent, above⟩ => ⟨p, parent, ?_⟩
    rw [hasReverted_left]
    exact above

/-! ## Rolling back -/

theorem hasReverted_revertedFrom (t : ContextTree) (id stamp other : Nat) :
    (t.revertedFrom id stamp).hasReverted other =
      (t.hasReverted other || decide (id ≤ other) && (t.frame? other).isSome) := by
  rw [hasReverted, frame?_revertedFrom, hasReverted]
  by_cases after : id ≤ other
  · rw [if_pos after]
    cases t.frame? other <;> simp [Frame.stampReverted, Frame.hasReverted, after]
  · rw [if_neg after]
    simp [after]

/-- Whatever was entered since a context is rolled back with it. -/
theorem hasReverted_of_swept {id other : Nat} {f : Frame} (found : t.frame? id = some f)
    (after : id ≤ other) (before : other < t.nextId) (stamp : Nat) :
    (t.revertedFrom id stamp).hasReverted other = true := by
  have positive := (frame?_eq_some_iff.1 ⟨f, found⟩).1
  obtain ⟨g, hg⟩ := frame?_eq_some_iff.2 ⟨Nat.lt_of_lt_of_le positive after, before⟩
  rw [hasReverted_revertedFrom, hg]
  simp [after]

@[simp]
theorem hasFailed_revertedFrom (t : ContextTree) (id stamp other : Nat) :
    (t.revertedFrom id stamp).hasFailed other = t.hasFailed other := by
  rw [hasFailed, frame?_revertedFrom]
  split
  · rw [Option.any_map]
    rfl
  · rfl

/-! ### The end of a context that fails -/

/-- Everything entered after the active context lies below it: its parent is that context, or was
entered after it too. -/
theorem WellFormed.exists_parent_within (wf : t.WellFormed) {c id : Nat}
    (current : t.current? = some c) (after : c < id) (known : (t.frame? id).isSome = true) :
    ∃ p, t.parentOf id = some p ∧ c ≤ p ∧ (t.frame? p).isSome = true := by
  obtain ⟨g, hg⟩ := Option.isSome_iff_exists.1 known
  have deeper := wf.current_deepest current after (lt_nextId hg)
  cases parent : t.parentOf id with
  | none =>
      have := wf.root_depth parent
      omega
  | some p =>
      obtain ⟨positive, below⟩ := wf.parent_lt parent
      refine ⟨p, rfl, ?_, ?_⟩
      · by_contra outside
        have := wf.between parent (Nat.lt_of_not_le outside) after
        omega
      · exact Option.isSome_iff_exists.2
          (frame?_eq_some_iff.2 ⟨positive, Nat.lt_trans below (lt_nextId hg)⟩)

/-- The context that fails is rolled back with everything entered after it. -/
theorem hasReverted_revertedFrom_left (t : ContextTree) (f : Frame) (outcome : ContextOutcome)
    (stamp id : Nat) : ((t.left f outcome).revertedFrom f.id stamp).hasReverted id =
      (t.hasReverted id || decide (f.id ≤ id) && (t.frame? id).isSome) := by
  have exists_left : ((t.left f outcome).frame? id).isSome = (t.frame? id).isSome := by
    rw [frame?_left]
    split
    · rw [Option.isSome_map]
    · rfl
  rw [hasReverted_revertedFrom, hasReverted_left, exists_left]

theorem parentOf_revertedFrom_left (t : ContextTree) (f : Frame) (outcome : ContextOutcome)
    (stamp id : Nat) :
    ((t.left f outcome).revertedFrom f.id stamp).parentOf id = t.parentOf id := by
  rw [(sameShape_revertedFrom ..).parentOf_eq, (sameShape_left ..).parentOf_eq]

/-- **A context that ends in failure is rolled back**, with everything that was entered after
it. -/
theorem Truthful.revertedFrom_left (truthful : t.Truthful) (wf : t.WellFormed) {f : Frame}
    (current : t.current? = some f.id) (found : t.frame? f.id = some f) {outcome : ContextOutcome}
    (failure : outcome.success = false) (stamp : Nat) :
    ((t.left f outcome).revertedFrom f.id stamp).Truthful := by
  have failed_iff : ∀ id, ((t.left f outcome).revertedFrom f.id stamp).hasFailed id =
      if f.id = id then true else t.hasFailed id := by
    intro id
    rw [hasFailed_revertedFrom, hasFailed_left t found, failure]
    rfl
  refine ⟨fun id failed => ?_, fun id p parent reverted => ?_, fun id reverted => ?_⟩
  · rw [failed_iff] at failed
    rw [hasReverted_revertedFrom_left]
    split at failed
    · rename_i own
      simp [← own, found]
    · simp [truthful.failed id failed]
  · rw [parentOf_revertedFrom_left] at parent
    rw [hasReverted_revertedFrom_left] at reverted ⊢
    rcases Bool.or_eq_true_iff.1 reverted with old | new
    · simp [truthful.inherited id p parent old]
    · have above : f.id ≤ p := by simpa using (Bool.and_eq_true_iff.1 new).1
      have below := (wf.parent_lt parent).2
      have late : f.id ≤ id := by omega
      have known : (t.frame? id).isSome = true := by
        obtain ⟨g, hg, -⟩ := Option.bind_eq_some_iff.1 parent
        rw [hg]
        rfl
      simp [known, late]
  · rw [hasReverted_revertedFrom_left] at reverted
    rw [failed_iff, parentOf_revertedFrom_left]
    by_cases own : f.id = id
    · exact .inl (if_pos own)
    rw [if_neg own]
    rcases Bool.or_eq_true_iff.1 reverted with old | new
    · refine (truthful.blamed id old).imp_right fun ⟨p, parent, above⟩ => ⟨p, parent, ?_⟩
      rw [hasReverted_revertedFrom_left, above]
      rfl
    · obtain ⟨after, known⟩ := Bool.and_eq_true_iff.1 new
      have after : f.id < id := Nat.lt_of_le_of_ne (of_decide_eq_true after) own
      obtain ⟨p, parent, inside, exists_parent⟩ := wf.exists_parent_within current after known
      refine .inr ⟨p, parent, ?_⟩
      rw [hasReverted_revertedFrom_left, exists_parent]
      simp [inside]

end ExecutionTrace.ContextTree
