import ExecutionTrace.Proofs.State.Face
import ExecutionTrace.Section.Setting
import Mathlib.Data.List.Chain

/-!
# Moves of a view

An account row says that one account went from one face to another.  Read as moves, the rows
of a history lead from the view before them to the view after them.

## Main Definitions

* `Move` — one account goes from one face to another
* `Leads` — moves that, one after the other, lead from one view to another
* `Passes` — the same for the moves of a single account
* `Leads.passes`, `Leads.passes_rows` — every account passes through the moves that are about it
* `Passes.exists_ends` — where the rows that an account passes through start and end

## Design Notes

A call makes at most two moves, one for each of its parties, which may be one account.
`Leads.pair` covers both the parties that differ and those that are the same account which
nothing happens to; `Leads.swing` is the account that pays itself.
-/

namespace ExecutionTrace

/-- **One account goes from one face to another.** -/
structure Move where
  address : Address
  source : Face
  target : Face

/-- The move that a row shows. -/
def AccountRow.move (row : AccountRow) : Move where
  address := row.address
  source := row.before.face
  target := row.after.face

/-- The move that a transition makes. -/
def Transition.move (t : Transition) : Move where
  address := t.before.address
  source := t.before.face
  target := t.after.face

/-- **Moves that lead from one view to another**, each starting from what the moves before it have
made of its account. -/
def Leads : View → List Move → View → Prop
  | v, [], w => w = v
  | v, m :: moves, w => v m.address = m.source ∧
      Leads (Function.update v m.address m.target) moves w

/-- **Faces that one account passes through**, from one to another. -/
def Passes : Face → List Move → Face → Prop
  | x, [], y => y = x
  | x, m :: moves, y => m.source = x ∧ Passes m.target moves y

namespace Leads

variable {u v w : View} {moves later : List Move}

theorem nil (v : View) : Leads v [] v := rfl

theorem append (first : Leads u moves v) (second : Leads v later w) :
    Leads u (moves ++ later) w := by
  induction moves generalizing u with
  | nil =>
      obtain rfl : v = u := first
      exact second
  | cons m moves ih =>
      obtain ⟨starts, continues⟩ := first
      exact ⟨starts, ih continues⟩

/-- **Two accounts that may be the same one.** If they are, nothing happens to it. -/
theorem pair {a b : Address} (elsewhere : ∀ x, x ≠ a → x ≠ b → w x = v x)
    (same : a = b → w = v) : Leads v [⟨a, v a, w a⟩, ⟨b, v b, w b⟩] w := by
  by_cases one : a = b
  · obtain rfl := one
    obtain rfl := same rfl
    refine ⟨rfl, ?_, ?_⟩
    · rw [Function.update_self]
    · funext x
      rw [Function.update_eq_self, Function.update_eq_self]
  · refine ⟨rfl, Function.update_of_ne (Ne.symm one) .., ?_⟩
    funext x
    show w x = _
    by_cases second : x = b
    · rw [second, Function.update_self]
    · rw [Function.update_of_ne second]
      by_cases first : x = a
      · rw [first, Function.update_self]
      · rw [Function.update_of_ne first]
        exact elsewhere x first second

/-- **One account that goes to another face.** -/
theorem single {a : Address} (elsewhere : ∀ x, x ≠ a → w x = v x) :
    Leads v [⟨a, v a, w a⟩] w := by
  refine ⟨rfl, ?_⟩
  funext x
  show w x = _
  by_cases own : x = a
  · rw [own, Function.update_self]
  · rw [Function.update_of_ne own]
    exact elsewhere x own

/-- **One account that goes to another face and back.** -/
theorem swing (a : Address) (x : Face) : Leads v [⟨a, v a, x⟩, ⟨a, x, v a⟩] v := by
  refine ⟨rfl, Function.update_self .., ?_⟩
  show v = _
  rw [Function.update_idem, Function.update_eq_self]

/-- **Every account passes through the moves that are about it.** -/
theorem passes (h : Leads v moves w) (a : Address) :
    Passes (v a) (moves.filter (·.address = a)) (w a) := by
  induction moves generalizing v with
  | nil => exact congrFun h a
  | cons m moves ih =>
      obtain ⟨starts, continues⟩ := h
      have rest := ih continues
      by_cases own : m.address = a
      · rw [List.filter_cons_of_pos (by simpa using own)]
        rw [← own, Function.update_self] at rest
        rw [← own]
        exact ⟨starts.symm, rest⟩
      · rw [List.filter_cons_of_neg (by simpa using own)]
        rwa [Function.update_of_ne (Ne.symm own)] at rest

/-- **Every account passes through the rows on it**, if the rows lead from one view to another. -/
theorem passes_rows {rows : List AccountRow} (h : Leads v (rows.map AccountRow.move) w)
    (a : Address) :
    Passes (v a) ((rows.filter (·.address = a)).map AccountRow.move) (w a) := by
  have moves := h.passes a
  rw [List.filter_map] at moves
  exact moves

end Leads

namespace Passes

variable {x y : Face} {moves : List Move}

/-- Each move starts where the one before it ended. -/
theorem isChain (h : Passes x moves y) :
    moves.IsChain fun m n => m.target = n.source := by
  induction moves generalizing x with
  | nil => exact .nil
  | cons m moves ih =>
      obtain ⟨-, continues⟩ := h
      cases moves with
      | nil => exact .singleton m
      | cons n moves => exact .cons_cons continues.1.symm (ih continues)

theorem source_head (h : Passes x moves y) {m : Move} (first : moves.head? = some m) :
    m.source = x := by
  cases moves with
  | nil => cases first
  | cons n moves =>
      obtain rfl := Option.some.inj first
      exact h.1

theorem target_last (h : Passes x moves y) {m : Move} (last : moves.getLast? = some m) :
    m.target = y := by
  induction moves generalizing x with
  | nil => cases last
  | cons n moves ih =>
      obtain ⟨-, continues⟩ := h
      cases moves with
      | nil =>
          obtain rfl := Option.some.inj last
          exact continues.symm
      | cons n' moves =>
          rw [List.getLast?_cons_cons] at last
          exact ih continues last

/-- **Rows that are passed through** follow from one another, from the first face to the last. -/
theorem exists_ends {rows : List AccountRow} (h : Passes x (rows.map AccountRow.move) y)
    (nonempty : rows ≠ []) :
    (rows.IsChain fun r s => r.after.face = s.before.face) ∧
      ∃ first last, rows.head? = some first ∧ rows.getLast? = some last ∧
        first.before.face = x ∧ last.after.face = y := by
  have atHead := List.head?_eq_some_head nonempty
  have atEnd := List.getLast?_eq_some_getLast nonempty
  generalize rows.head nonempty = first at atHead
  generalize rows.getLast nonempty = last at atEnd
  refine ⟨(List.isChain_map AccountRow.move).1 h.isChain, first, last, atHead, atEnd, ?_, ?_⟩
  · have head : (rows.map AccountRow.move).head? = some first.move := by
      rw [List.head?_map, atHead]
      rfl
    exact h.source_head head
  · have last' : (rows.map AccountRow.move).getLast? = some last.move := by
      rw [List.getLast?_map, atEnd]
      rfl
    exact h.target_last last'

end Passes

end ExecutionTrace
