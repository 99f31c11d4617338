import ExecutionTrace.Row.History
import Mathlib.Data.List.Pairwise
import Mathlib.Data.List.Sort

/-!
# The order of a history

Rows whose stamps all differ have one order only.  So a list of rows that is in that order is
the history, no matter how it was found.

## Main Definitions

* `RowStamp.Precedes` — the strict order of stamps
* `RowStamp.moment`, `RowStamp.isUndoing` — when a row counts, and of which kind it is
* `History.rows_ofRows` — rows that are in order are the history of each of their accounts
* `History.rows_ofRows_perm` — the order in which rows are produced does not matter
-/

namespace ExecutionTrace

namespace RowStamp

/-- **The strict order of stamps.** -/
def Precedes (s t : RowStamp) : Prop :=
  s.dominant < t.dominant ∨
    s.dominant = t.dominant ∧ (t.origin < s.origin ∨ s.origin = t.origin ∧ s.offset < t.offset)

instance (s t : RowStamp) : Decidable (s.Precedes t) :=
  inferInstanceAs (Decidable (_ ∨ _))

variable {s t u : RowStamp}

theorem Precedes.le (h : s.Precedes t) : s.le t = true := by
  rw [le_iff]
  unfold Precedes at h
  omega

theorem Precedes.not_le (h : s.Precedes t) : ¬t.le s = true := by
  rw [le_iff]
  unfold Precedes at h
  omega

theorem Precedes.trans (h : s.Precedes t) (h' : t.Precedes u) : s.Precedes u := by
  unfold Precedes at *
  omega

theorem precedes_of_le_of_key_ne (h : s.le t = true) (ne : s.key ≠ t.key) : s.Precedes t := by
  rw [le_iff] at h
  simp only [key, ne_eq, Prod.mk.injEq] at ne
  unfold Precedes
  omega

/-! ## The stamps of the two kinds of rows -/

/-- **The stamp that a row counts for**: that of its section, or that of the rollback in which it
undoes an effect. -/
def moment (s : RowStamp) : Nat :=
  s.dominant / spacing

/-- The row undoes an effect. -/
def isUndoing (s : RowStamp) : Bool :=
  s.dominant % spacing == spacing - 1

theorem precedes_of_moment_lt (order : s.moment < t.moment) : s.Precedes t := by
  refine .inl ?_
  simp only [moment, spacing] at order
  omega

/-- The rows that undo an effect come after those that show one, unless these are younger. -/
theorem precedes_of_isUndoing (order : s.moment ≤ t.moment) (shows : s.isUndoing = false)
    (undoes : t.isUndoing = true) : s.Precedes t := by
  refine .inl ?_
  simp only [moment, isUndoing, spacing, beq_iff_eq, beq_eq_false_iff_ne] at order shows undoes
  omega

section Stamps

variable {stamp stamp' revertStamp revertStamp' offset offset' : Nat}

theorem moment_forward (small : offset < 8) : (forward stamp offset).moment = stamp := by
  simp only [moment, forward, spacing]
  omega

theorem isUndoing_forward (small : offset < 7) : (forward stamp offset).isUndoing = false := by
  simp only [isUndoing, forward, spacing, beq_eq_false_iff_ne]
  omega

@[simp]
theorem moment_undoing : (undoing stamp revertStamp offset).moment = revertStamp := by
  simp only [moment, undoing, spacing]
  omega

@[simp]
theorem isUndoing_undoing : (undoing stamp revertStamp offset).isUndoing = true := by
  simp only [isUndoing, undoing, spacing, beq_iff_eq]
  omega

theorem offset_undoing (small : offset < 8) :
    (undoing stamp revertStamp offset).offset = offset := by
  simp only [undoing, RowStamp.offset, spacing]
  omega

theorem precedes_forward (order : offset < offset') :
    (forward stamp offset).Precedes (forward stamp offset') := by
  refine .inl ?_
  simp only [forward]
  omega

theorem forward_precedes_later (order : stamp < stamp') (small : offset < 8) :
    (forward stamp offset).Precedes (forward stamp' offset') := by
  refine .inl ?_
  simp only [forward, spacing]
  omega

/-- The rows that undo an effect come after those that show one, unless these are younger. -/
theorem forward_precedes_undoing (order : stamp ≤ revertStamp) (small : offset < 7) :
    (forward stamp offset).Precedes (undoing stamp' revertStamp offset') := by
  refine .inl ?_
  simp only [forward, undoing, spacing]
  omega

/-- The rows of a rollback come before everything that is announced later. -/
theorem undoing_precedes_forward (order : revertStamp < stamp') :
    (undoing stamp revertStamp offset).Precedes (forward stamp' offset') := by
  refine .inl ?_
  simp only [forward, undoing, spacing]
  omega

/-- In one rollback the most recent section comes first. -/
theorem undoing_precedes_older (order : stamp' < stamp) (small : offset < 8)
    (small' : offset' < 8) :
    (undoing stamp revertStamp offset).Precedes (undoing stamp' revertStamp offset') := by
  refine .inr ⟨rfl, .inl ?_⟩
  simp only [undoing, origin, spacing]
  omega

/-- In one section the offsets count. -/
theorem undoing_precedes_offset (order : offset < offset') (small : offset' < 8) :
    (undoing stamp revertStamp offset).Precedes (undoing stamp revertStamp offset') := by
  refine .inr ⟨rfl, .inr ?_⟩
  simp only [undoing, origin, RowStamp.offset, spacing]
  omega

end Stamps

end RowStamp

namespace History

/-- The account rows of a trace, without their positions. -/
theorem map_fst_placedRows (rows : List Row) :
    (placedRows rows).map Prod.fst = rows.filterMap Row.account? := by
  have numbered : ∀ start, ((rows.zipIdx start).filterMap fun placed =>
      placed.1.account?.map fun account => (account, placed.2)).map Prod.fst =
        rows.filterMap Row.account? := by
    intro start
    induction rows generalizing start with
    | nil => rfl
    | cons row rows ih =>
        rw [List.zipIdx_cons]
        cases found : row.account? with
        | none =>
            simp only [List.filterMap_cons, found, Option.map_none]
            exact ih _
        | some account =>
            simp only [List.filterMap_cons, found, Option.map_some, List.map_cons]
            rw [ih]
  exact numbered 0

/-- **Rows that are in order are the history** of each of their accounts. -/
theorem rows_ofRows {rows : List Row} {ordered : List AccountRow}
    (perm : ordered.Perm (rows.filterMap Row.account?))
    (sorted : ordered.Pairwise fun r s => r.stamp.Precedes s.stamp) (a : Address) :
    (ofRows rows a).map Prod.fst = ordered.filter (·.address = a) := by
  have found : ((ofRows rows a).map Prod.fst).Perm (ordered.filter (·.address = a)) := by
    have filtered : ((placedRows rows).filter fun r => r.1.address = a).map Prod.fst =
        (rows.filterMap Row.account?).filter (·.address = a) := by
      rw [← map_fst_placedRows, List.filter_map]
      rfl
    exact (filtered ▸ (sort_perm _).map Prod.fst).trans (perm.filter _).symm
  have inOrder : ((ofRows rows a).map Prod.fst).Pairwise fun r s => r.stamp.le s.stamp = true :=
    List.pairwise_map.2 (pairwise_sort _)
  have strict := sorted.filter (·.address = a)
  -- Of two different rows in order, one precedes the other and does not come after it.
  let Antisymmetric := fun r s : AccountRow =>
    r.stamp.le s.stamp = true → s.stamp.le r.stamp = true → r = s
  have : Std.Symm Antisymmetric := ⟨fun r s h le le' => (h le' le).symm⟩
  have antisymmetric : (ordered.filter (·.address = a)).Pairwise Antisymmetric :=
    strict.imp fun before _ le => absurd le before.not_le
  refine found.eq_of_pairwise ?_ inOrder (strict.imp fun before => before.le)
  intro r s hr hs
  exact antisymmetric.forall_of_forall (fun r _ _ _ => rfl) (found.mem_iff.1 hr) hs

/-- **Rows whose places all differ have one history**, whatever order they are produced in. -/
theorem rows_ofRows_perm {rows rows' : List Row}
    (distinct : (rows.filterMap Row.account?).Pairwise fun r s => r.stamp.key ≠ s.stamp.key)
    (perm : rows'.Perm rows) (a : Address) :
    (ofRows rows' a).map Prod.fst = (ofRows rows a).map Prod.fst := by
  let ordered := (rows.filterMap Row.account?).mergeSort fun r s => r.stamp.le s.stamp
  have found : ordered.Perm (rows.filterMap Row.account?) := List.mergeSort_perm ..
  have inOrder : ordered.Pairwise fun r s => r.stamp.le s.stamp = true := by
    refine List.pairwise_mergeSort ?_ ?_ _
    · exact fun r s t => RowStamp.le_trans
    · exact fun r s => RowStamp.le_total r.stamp s.stamp
  have differ := (found.pairwise_iff fun ne => ne.symm).2 distinct
  have sorted : ordered.Pairwise fun r s => r.stamp.Precedes s.stamp :=
    (inOrder.and differ).imp fun h => RowStamp.precedes_of_le_of_key_ne h.1 h.2
  rw [rows_ofRows found sorted, rows_ofRows (found.trans (perm.filterMap _).symm) sorted]

/-- **Any way of sorting finds the history**, so one that computes can be used. -/
theorem rows_ofRows_insertionSort {rows : List Row}
    (sorted : ((rows.filterMap Row.account?).insertionSort fun r s => r.stamp.le s.stamp).Pairwise
      fun r s => r.stamp.Precedes s.stamp) (a : Address) :
    (ofRows rows a).map Prod.fst = ((rows.filterMap Row.account?).insertionSort
      fun r s => r.stamp.le s.stamp).filter (·.address = a) :=
  rows_ofRows (List.perm_insertionSort _ _) sorted a

end History

end ExecutionTrace
