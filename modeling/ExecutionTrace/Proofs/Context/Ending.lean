import ExecutionTrace.Proofs.Context.Preorder

/-!
# What becomes of the frames of a tree

A frame is made when its context is entered.  What it says about the entry never changes: its
number, its parent, its depth and the entry itself.  Its outcome changes once, when the context
ends, and whatever else may happen to a tree touches neither.

## Main Definitions

* `Frame.birth` — what a frame says about the entry of its context
* `ContextTree.Remembers` — a tree that has all the frames of another one, and maybe more
* `ContextTree.EndedAt` — a tree in which one context has ended, stamps apart
* `ContextTree.Active` — the active contexts: the current one and those above it
-/

namespace ExecutionTrace

/-- **What a frame says about the entry of its context.** -/
def Frame.birth (f : Frame) : Nat × Option Nat × Nat × ContextEntry :=
  (f.id, f.parent?, f.depth, f.entry)

namespace ContextTree

/-- **The contexts of a tree are in another one**, entered as they were. -/
def Remembers (t u : ContextTree) : Prop :=
  ∀ id f, t.frame? id = some f → ∃ g, u.frame? id = some g ∧ g.birth = f.birth

/-- **One context has ended**, and its outcome is in its frame.  Nothing is said about stamps, nor
about which context is active. -/
structure EndedAt (t u : ContextTree) (id : Nat) (outcome : ContextOutcome) : Prop where
  next : u.nextId = t.nextId
  frames : ∀ j f, t.frame? j = some f → ∃ g, u.frame? j = some g ∧ g.birth = f.birth ∧
    g.outcome? = if j = id then some outcome else f.outcome?

/-- **The active contexts**: the current one, and those above it. -/
inductive Active (t : ContextTree) : Nat → Prop
  | current {id : Nat} (current : t.current? = some id) : Active t id
  | above {id p : Nat} (active : Active t id) (parent : t.parentOf id = some p) : Active t p

variable {t u v : ContextTree} {id : Nat} {outcome : ContextOutcome}

theorem Remembers.refl (t : ContextTree) : t.Remembers t :=
  fun _ f found => ⟨f, found, rfl⟩

theorem Remembers.trans (h : t.Remembers u) (h' : u.Remembers v) : t.Remembers v := by
  intro id f found
  obtain ⟨g, found', same⟩ := h id f found
  obtain ⟨k, found'', same'⟩ := h' id g found'
  exact ⟨k, found'', same'.trans same⟩

theorem EndedAt.remembers (h : t.EndedAt u id outcome) : t.Remembers u := by
  intro j f found
  obtain ⟨g, found', same, -⟩ := h.frames j f found
  exact ⟨g, found', same⟩

/-- The other contexts are as they were. -/
theorem EndedAt.spares (h : t.EndedAt u id outcome) {j : Nat} {f : Frame} (other : j ≠ id)
    (found : t.frame? j = some f) :
    ∃ g, u.frame? j = some g ∧ g.birth = f.birth ∧ g.outcome? = f.outcome? := by
  obtain ⟨g, found', same, outcome'⟩ := h.frames j f found
  rw [if_neg other] at outcome'
  exact ⟨g, found', same, outcome'⟩

/-! ## Active contexts -/

theorem not_active (none : t.current? = none) : ¬t.Active id := by
  intro active
  induction active with
  | current found =>
      rw [none] at found
      cases found
  | above _ _ ih => exact ih

/-- The current context is the last one of those that are active. -/
theorem Active.le_current {current : Nat} (active : t.Active id) (wellFormed : t.WellFormed)
    (found : t.current? = some current) : id ≤ current := by
  induction active with
  | current same => exact Nat.le_of_eq (Option.some.inj (same.symm.trans found))
  | above _ parent ih => exact Nat.le_trans (Nat.le_of_lt (wellFormed.parent_lt parent).2) ih

/-! ## Entering a context -/

/-- Entering a context changes earlier frames in nothing but their children. -/
theorem exists_frame_enter (entry : ContextEntry) {f : Frame} (found : t.frame? id = some f) :
    ∃ g, (t.enter entry).frame? id = some g ∧ g.birth = f.birth ∧ g.outcome? = f.outcome? := by
  have old : id ≠ t.nextId := Nat.ne_of_lt (lt_nextId found)
  rw [frame?_enter, if_neg old, found]
  split
  · exact ⟨f.addChild t.nextId, rfl, rfl, rfl⟩
  · exact ⟨f, rfl, rfl, rfl⟩

theorem remembers_enter (t : ContextTree) (entry : ContextEntry) : t.Remembers (t.enter entry) := by
  intro id f found
  obtain ⟨g, found', same, -⟩ := exists_frame_enter entry found
  exact ⟨g, found', same⟩

/-- A context entered from the current one is one deeper. -/
theorem depth_newFrame (entry : ContextEntry) {f : Frame} (current : t.current? = some id)
    (found : t.frame? id = some f) : (t.newFrame entry).depth = f.depth + 1 := by
  rw [newFrame, current, Option.bind_some, found]
  rfl

/-! ## Ending a context -/

theorem endedAt_left (t : ContextTree) (f : Frame) (outcome : ContextOutcome) :
    t.EndedAt (t.left f outcome) f.id outcome where
  next := (sameShape_left t f outcome).nextId_eq
  frames j g found := by
    rw [frame?_left, found]
    by_cases own : f.id = j
    · rw [if_pos own, if_pos own.symm]
      exact ⟨_, rfl, rfl, rfl⟩
    · rw [if_neg own, if_neg (Ne.symm own)]
      exact ⟨g, rfl, rfl, rfl⟩

/-- Rolling back contexts does not change how they ended. -/
theorem EndedAt.revertedFrom (h : t.EndedAt u id outcome) (first stamp : Nat) :
    t.EndedAt (u.revertedFrom first stamp) id outcome where
  next := (sameShape_revertedFrom u first stamp).nextId_eq.trans h.next
  frames j f found := by
    obtain ⟨g, found', same, outcome'⟩ := h.frames j f found
    rw [frame?_revertedFrom, found']
    split
    · exact ⟨g.stampReverted stamp, rfl, same, outcome'⟩
    · exact ⟨g, rfl, same, outcome'⟩

end ContextTree

end ExecutionTrace
