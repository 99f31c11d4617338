import ExecutionTrace.Row.Basic
import Std.Data.TreeSet

/-!
# Account histories

The rows of a trace on one account, put in order.

## Main Definitions

* `History.placedRows` — the account rows of a trace, each with its place among all rows
* `History.addresses` — the accounts that a trace has rows on
* `History.ofRows` — the rows on one account, in the order of their stamps
* `History.Chained` — each row starts from the snapshot that the row before it ends with

## Design Notes

Sorting is stable, so rows of equal stamp would keep the order in which they were produced.
-/

namespace ExecutionTrace.History

/-- The account rows of a trace, each beside its position among all rows. -/
def placedRows (rows : List Row) : List (AccountRow × Nat) :=
  rows.zipIdx.filterMap fun (row, i) => row.account?.map fun account => (account, i)

/-- The accounts that a trace has rows on, in ascending order. -/
def addresses (rows : List Row) : List Address :=
  let found := (placedRows rows).foldl (fun s r => s.insert r.1.address)
    (∅ : Std.TreeSet Address)
  found.toList

/-- Placed rows in the order of their stamps. -/
def sort (rows : List (AccountRow × Nat)) : List (AccountRow × Nat) :=
  rows.mergeSort fun r s => r.1.stamp.le s.1.stamp

/-- Sorting loses no row and adds none. -/
theorem sort_perm (rows : List (AccountRow × Nat)) : (sort rows).Perm rows :=
  List.mergeSort_perm ..

/-- Sorted rows come in the order of their stamps. -/
theorem pairwise_sort (rows : List (AccountRow × Nat)) :
    (sort rows).Pairwise fun r s => r.1.stamp.le s.1.stamp := by
  refine List.pairwise_mergeSort ?_ ?_ rows
  · exact fun r s t => RowStamp.le_trans
  · exact fun r s => RowStamp.le_total r.1.stamp s.1.stamp

/-- **The history of an account**, each row beside its position in the trace. -/
def ofRows (rows : List Row) (a : Address) : List (AccountRow × Nat) :=
  sort ((placedRows rows).filter fun r => r.1.address = a)

/-- **A history chains** if each row starts where the previous one ended. -/
def Chained : List AccountRow → Prop
  | r :: s :: rest => r.after = s.before ∧ Chained (s :: rest)
  | _ => True

instance decidableChained : (rows : List AccountRow) → Decidable (Chained rows)
  | [] | [_] => .isTrue trivial
  | _ :: s :: rest =>
      have := decidableChained (s :: rest)
      inferInstanceAs (Decidable (_ ∧ _))

end ExecutionTrace.History
