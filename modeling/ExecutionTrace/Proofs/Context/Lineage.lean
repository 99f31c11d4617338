import ExecutionTrace.Proofs.Context.Ending
import Mathlib.Data.Set.Card
import Mathlib.Order.Interval.Finset.Nat

/-!
# Who is below whom

The contexts below a context are those that were spawned from it, directly or through others.  In a
tree that is grown from the empty one they are the numbers right after its own, which is what the
traversal of a subtree lists.

## Main Definitions

* `ContextTree.Within` — a context and everything below it
* `ContextTree.Spans` — the numbers from a context up to the next one that is not deeper
* `ContextTree.exists_spans` — every context spans some
* `ContextTree.Spans.within_iff` — and they are the context and everything below it
* `ContextTree.WellFormed.depthOf_eq_ncard` — the depth of a context counts those above it
-/

namespace ExecutionTrace.ContextTree

/-- **A context and everything below it.** -/
inductive Within (t : ContextTree) (id : Nat) : Nat → Prop
  | refl : Within t id id
  | child {d p : Nat} (parent : t.parentOf d = some p) (within : Within t id p) : Within t id d

/-- **The numbers from a context up to the next one that is not deeper.** -/
structure Spans (t : ContextTree) (id stop : Nat) : Prop where
  known : ∃ f, t.frame? id = some f
  after : id < stop
  bound : stop ≤ t.nextId
  deeper : ∀ {j}, id < j → j < stop → t.depthOf id < t.depthOf j
  ends : stop < t.nextId → t.depthOf stop ≤ t.depthOf id

variable {t u : ContextTree} {id d a stop : Nat}

namespace Within

theorem trans (h : t.Within a id) (h' : t.Within id d) : t.Within a d := by
  induction h' with
  | refl => exact h
  | child parent _ ih => exact .child parent ih

/-- What is below a context has a larger number. -/
theorem le (within : t.Within id d) (wf : t.WellFormed) : id ≤ d := by
  induction within with
  | refl => exact Nat.le_refl _
  | child parent _ ih => exact Nat.le_trans ih (Nat.le_of_lt (wf.parent_lt parent).2)

/-- Below a context there are only contexts that exist. -/
theorem known {f : Frame} (within : t.Within id d) (found : t.frame? id = some f) :
    ∃ g, t.frame? d = some g := by
  cases within with
  | refl => exact ⟨f, found⟩
  | child parent _ =>
      obtain ⟨g, there, -⟩ := Option.bind_eq_some_iff.1 parent
      exact ⟨g, there⟩

/-- Whatever is above an active context is active. -/
theorem active (within : t.Within id d) (active : t.Active d) : t.Active id := by
  induction within with
  | refl => exact active
  | child parent _ ih => exact ih (.above active parent)

/-- A context is within itself, and within whatever its parent is within. -/
theorem iff_of_parent {p : Nat} (parent : t.parentOf d = some p) :
    t.Within id d ↔ id = d ∨ t.Within id p := by
  constructor
  · intro within
    cases within with
    | refl => exact .inl rfl
    | child parent' within =>
        obtain rfl := Option.some.inj (parent.symm.trans parent')
        exact .inr within
  · rintro (rfl | within)
    · exact .refl
    · exact .child parent within

/-- A root is within nothing but itself. -/
theorem eq_of_root (root : t.parentOf d = none) (within : t.Within id d) : id = d := by
  cases within with
  | refl => rfl
  | child parent _ =>
      rw [root] at parent
      cases parent

/-- A tree of the same shape has the same contexts below a context. -/
theorem congr (shape : SameShape t u) (within : t.Within id d) : u.Within id d := by
  induction within with
  | refl => exact .refl
  | child parent _ ih => exact .child ((shape.parentOf_eq _).trans parent) ih

end Within

theorem SameShape.symm (shape : SameShape t u) : SameShape u t :=
  ⟨shape.1.symm, fun id => (shape.2 id).symm⟩

theorem SameShape.within_iff (shape : SameShape t u) : u.Within id d ↔ t.Within id d :=
  ⟨.congr shape.symm, .congr shape⟩

/-- Entering a context puts nothing below those that were there, but itself. -/
theorem within_enter (entry : ContextEntry) (old : d ≠ t.nextId) (wf : t.WellFormed) :
    (t.enter entry).Within id d ↔ t.Within id d := by
  constructor
  · intro within
    induction within with
    | refl => exact .refl
    | child parent _ ih =>
        rw [(frame_enter_of_ne old).1] at parent
        obtain ⟨f, found, -⟩ := Option.bind_eq_some_iff.1 parent
        have above := (wf.parent_lt parent).2
        exact .child parent (ih (Nat.ne_of_lt (Nat.lt_trans above (lt_nextId found))))
  · intro within
    induction within with
    | refl => exact .refl
    | child parent _ ih =>
        obtain ⟨f, found, -⟩ := Option.bind_eq_some_iff.1 parent
        have above := (wf.parent_lt parent).2
        refine .child ((frame_enter_of_ne old).1.trans parent) (ih ?_)
        exact Nat.ne_of_lt (Nat.lt_trans above (lt_nextId found))

/-! ## The numbers below a context -/

/-- **Every context spans some numbers.** -/
theorem exists_spans {f : Frame} (found : t.frame? id = some f) :
    ∃ stop, t.Spans id stop := by
  -- The numbers end at the first context that is not deeper, or where there is none, at the end.
  have some_end : ∃ j, id < j ∧ (t.nextId ≤ j ∨ t.depthOf j ≤ t.depthOf id) :=
    ⟨t.nextId, lt_nextId found, .inl (Nat.le_refl _)⟩
  classical
  have first := Nat.find_spec some_end
  have least : ∀ j, j < Nat.find some_end →
      ¬(id < j ∧ (t.nextId ≤ j ∨ t.depthOf j ≤ t.depthOf id)) :=
    fun j before => Nat.find_min some_end before
  refine ⟨Nat.find some_end, ⟨f, found⟩, first.1, ?_, ?_, ?_⟩
  · exact Nat.find_min' some_end ⟨lt_nextId found, .inl (Nat.le_refl _)⟩
  · intro j after before
    have := least j before
    omega
  · intro inside
    have := first.2
    omega

namespace Spans

/-- **The numbers that a context spans** are its own and those of everything below it. -/
theorem within_iff (spans : t.Spans id stop) (wf : t.WellFormed) :
    t.Within id d ↔ id ≤ d ∧ d < stop := by
  constructor
  · intro within
    refine ⟨within.le wf, ?_⟩
    induction within with
    | refl => exact spans.after
    | child parent within ih =>
        -- A parent of what comes later would have to come later, too.
        by_contra beyond
        have late := wf.stop_le_parent spans.deeper spans.ends (Nat.le_of_not_lt beyond) parent
          (within.le wf)
        exact absurd ih (Nat.not_lt_of_le late)
  · rintro ⟨after, before⟩
    induction d using Nat.strongRecOn with
    | ind d ih =>
        rcases Nat.lt_or_eq_of_le after with later | rfl
        · have deep := spans.deeper later before
          cases parent : t.parentOf d with
          | none =>
              have := wf.root_depth parent
              omega
          | some p =>
              have above := (wf.parent_lt parent).2
              have inside : id ≤ p := by
                by_contra outside
                have := wf.between parent (Nat.lt_of_not_le outside) later
                omega
              exact .child parent (ih p above inside (Nat.lt_trans above before))
        · exact .refl

/-- A traversal that is not cut short lists the numbers that a context spans. -/
theorem preorder_eq (spans : t.Spans id stop) (wf : t.WellFormed) {fuel : Nat}
    (enough : stop - id ≤ fuel) : t.preorder fuel [id] = List.range' id (stop - id) := by
  obtain ⟨f, found⟩ := spans.known
  exact wf.preorder_eq found spans.after spans.bound spans.deeper spans.ends enough

theorem subtree_eq (spans : t.Spans id stop) (wf : t.WellFormed) :
    t.subtree id = .ok (List.range' id (stop - id)) := by
  obtain ⟨f, found⟩ := spans.known
  exact wf.subtree_eq found spans.after spans.bound spans.deeper spans.ends

theorem mem_range'_iff (spans : t.Spans id stop) (wf : t.WellFormed) :
    d ∈ List.range' id (stop - id) ↔ t.Within id d := by
  have after := spans.after
  rw [spans.within_iff wf, List.mem_range'_1]
  omega

/-- The length of the span is the number of contexts in it. -/
theorem ncard_within (spans : t.Spans id stop) (wf : t.WellFormed) :
    {d | t.Within id d}.ncard = stop - id := by
  have same : {d | t.Within id d} = (Finset.Ico id stop : Set Nat) :=
    Set.ext fun d => by simpa using spans.within_iff wf
  rw [same, Set.ncard_coe_finset, Nat.card_Ico]

end Spans

/-- Exactly the subtree of a context is listed. -/
theorem WellFormed.mem_of_subtree {ids : List Nat} (wf : t.WellFormed)
    (listed : t.subtree id = .ok ids) : d ∈ ids ↔ t.Within id d := by
  cases found : t.frame? id with
  | none =>
      rw [subtree, get, found] at listed
      cases listed
  | some f =>
      obtain ⟨stop, spans⟩ := exists_spans found
      obtain rfl := Except.ok.inj ((spans.subtree_eq wf).symm.trans listed)
      exact spans.mem_range'_iff wf

/-! ## Depth -/

/-- There are finitely many contexts above a context. -/
theorem WellFormed.finite_above (wf : t.WellFormed) (id : Nat) : {a | t.Within a id}.Finite :=
  (Finset.range (id + 1)).finite_toSet.subset fun _ within => by
    simpa [Nat.lt_succ_iff] using within.le wf

/-- **The depth of a context** is the number of contexts above it. -/
theorem WellFormed.depthOf_eq_ncard (wf : t.WellFormed) (id : Nat) :
    t.depthOf id = {a | t.Within a id ∧ a ≠ id}.ncard := by
  induction id using Nat.strongRecOn with
  | ind id ih =>
      cases parent : t.parentOf id with
      | none =>
          have nobody : {a | t.Within a id ∧ a ≠ id} = ∅ :=
            Set.eq_empty_of_forall_notMem fun a above => above.2 (above.1.eq_of_root parent)
          rw [wf.root_depth parent, nobody, Set.ncard_empty]
      | some p =>
          have before := (wf.parent_lt parent).2
          -- Above a context there is its parent, and what is above its parent.
          have all : {a | t.Within a id ∧ a ≠ id} = insert p {a | t.Within a p ∧ a ≠ p} := by
            refine Set.ext fun a => ⟨?_, ?_⟩
            · rintro ⟨within, other⟩
              have within := ((Within.iff_of_parent parent).1 within).resolve_left other
              by_cases same : a = p
              · exact .inl same
              · exact .inr ⟨within, same⟩
            · have further : ∀ {a}, t.Within a p → t.Within a id ∧ a ≠ id := fun within =>
                ⟨.child parent within, Nat.ne_of_lt (Nat.lt_of_le_of_lt (within.le wf) before)⟩
              rintro (rfl | ⟨within, -⟩)
              · exact further .refl
              · exact further within
          rw [wf.depth_eq parent, ih p before, all]
          refine (Set.ncard_insert_of_notMem (fun above => above.2 rfl) ?_).symm
          exact (wf.finite_above p).subset fun _ above => above.1

end ExecutionTrace.ContextTree
