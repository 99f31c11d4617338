/-!
# Row stamps

Where an account row belongs in the history of its account.  Rows are produced out of order,
since a row undoing an effect is only known after a rollback, so each carries its place.

## Main Definitions

* `RowStamp` — a dominant and a subordinate number
* `RowStamp.forward`, `RowStamp.undoing` — the stamps of the two kinds of rows
* `RowStamp.key`, `RowStamp.le` — the order of a history

## Design Notes

Dominant stamps of consecutive sections are eight apart.  A section uses the offsets below
seven for its forward rows, and the last of the eight belongs to the rollback that happens
at its stamp: all rows undone then share one dominant stamp and follow the section's own
rows.  Among them the rows of the most recent section come first, so that effects are undone
in the opposite order, while rows of one section keep the order of their offsets.
-/

namespace ExecutionTrace

/-- **The place of an account row.** -/
structure RowStamp where
  dominant : Nat
  subordinate : Nat
  deriving DecidableEq, Inhabited, Repr

namespace RowStamp

/-- The distance between the dominant stamps of consecutive sections. -/
def spacing : Nat := 8

/-- The stamp of a row that shows an effect of the section with the given stamp. -/
def forward (stamp offset : Nat) : RowStamp where
  dominant := spacing * stamp + offset
  subordinate := 0

/-- The stamp of a row that undoes an effect of the section with the given stamp, in the
rollback that happened at `revertStamp`. -/
def undoing (stamp revertStamp offset : Nat) : RowStamp where
  dominant := spacing * revertStamp + spacing - 1
  subordinate := spacing * stamp + offset

/-- The number of the section that a subordinate stamp names. -/
def origin (s : RowStamp) : Nat :=
  s.subordinate / spacing

/-- The offset that a subordinate stamp names. -/
def offset (s : RowStamp) : Nat :=
  s.subordinate % spacing

/-- **The ordering key.** The second component counts downwards. -/
def key (s : RowStamp) : Nat × Nat × Nat :=
  (s.dominant, s.origin, s.offset)

/-- **The order of a history**: by dominant stamp, then the most recent section first, then
by offset. -/
def le (s t : RowStamp) : Bool :=
  s.dominant < t.dominant ||
    s.dominant == t.dominant &&
      (t.origin < s.origin || s.origin == t.origin && s.offset ≤ t.offset)

theorem le_iff {s t : RowStamp} :
    s.le t ↔ s.dominant < t.dominant ∨
      s.dominant = t.dominant ∧
        (t.origin < s.origin ∨ s.origin = t.origin ∧ s.offset ≤ t.offset) := by
  simp [le]

theorem le_trans {s t u : RowStamp} (h : s.le t) (h' : t.le u) : s.le u := by
  rw [le_iff] at *
  omega

theorem le_total (s t : RowStamp) : s.le t || t.le s := by
  rw [Bool.or_eq_true, le_iff, le_iff]
  omega

end RowStamp

end ExecutionTrace
