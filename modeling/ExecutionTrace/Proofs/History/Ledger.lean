import ExecutionTrace.Proofs.History.Balance
import Mathlib.Data.List.Perm.Basic

/-!
# Ledgers

All postings of a transaction, in the order of its history.  Read as moves they lead from the view
that the transaction started from to the one that the machine shows now.

## Main Definitions

* `Ledger` — postings that cover the given rows, are in order, and lead from view to view
* `Ledger.append` — a block of postings that comes after everything else
* `LastShows` — the last row on every account ends where it should, or at what is shown now
* `rollbackPostings`, `rollbackMoves` — what a rollback adds, for all calls of a context

## Design Notes

Rows are produced out of order, but the ledger only ever grows at its end: everything that a step
adds is later in the order of the history than everything before the step.
-/

namespace ExecutionTrace

/-- **Postings that cover rows, are in order, and lead from view to view.** -/
structure Ledger (v w : View) (rows : List AccountRow) (postings : List Posting) : Prop where
  complete : (postings.map (·.row)).Perm rows
  sorted : postings.Pairwise fun e f => e.row.stamp.Precedes f.row.stamp
  leads : Leads v (postings.map Posting.move) w

/-- The last posting on an account. -/
def lastOn (a : Address) (postings : List Posting) : Option Posting :=
  (postings.filter (·.row.address = a)).getLast?

/-- **The last row on every account ends where it should**, or at what is shown. -/
def LastShows (shown : View) (postings : List Posting) : Prop :=
  ∀ a e, lastOn a postings = some e → e.IsHonest ∨ e.row.after.face = shown a

/-- The last row on every account ends where it should. -/
def LastHonest (postings : List Posting) : Prop :=
  ∀ a e, lastOn a postings = some e → e.IsHonest

namespace Ledger

variable {u v w x : View} {rows rows' : List AccountRow} {postings later : List Posting}

/-- **A block of postings that comes after everything else.** -/
theorem append (h : Ledger v w rows postings)
    (complete : rows'.Perm (rows ++ later.map (·.row)))
    (sorted : later.Pairwise fun e f => e.row.stamp.Precedes f.row.stamp)
    (follows : ∀ e ∈ postings, ∀ f ∈ later, e.row.stamp.Precedes f.row.stamp)
    (leads : Leads w (later.map Posting.move) x) : Ledger v x rows' (postings ++ later) where
  complete := by
    rw [List.map_append]
    exact (h.complete.append_right _).trans complete.symm
  sorted := List.pairwise_append.2 ⟨h.sorted, sorted, follows⟩
  leads := by
    rw [List.map_append]
    exact h.leads.append leads

/-- The moves of a ledger that are about one account. -/
theorem passes (h : Ledger v w rows postings) (a : Address) :
    Passes (v a) ((postings.filter (·.row.address = a)).map Posting.move) (w a) := by
  have moves := h.leads.passes a
  rw [List.filter_map] at moves
  exact moves

/-- The last posting on an account should end at what the ledger leads to. -/
theorem target_eq (h : Ledger v w rows postings) {a : Address} {e : Posting}
    (last : lastOn a postings = some e) : e.target = w a := by
  refine (h.passes a).target_last (m := e.move) ?_
  rw [List.getLast?_map]
  exact congrArg (Option.map Posting.move) last

/-- A row that ends at what is shown now, and where the ledger leads to the same, ends where it
should. -/
theorem lastHonest (h : Ledger v w rows postings) (shows : LastShows w postings) :
    LastHonest postings := by
  intro a e last
  rcases shows a e last with honest | shown
  · exact honest
  · exact shown.trans (h.target_eq last).symm

end Ledger

section LastRows

variable {shown : View} {postings later : List Posting} {a : Address} {e : Posting}

theorem lastOn_append : lastOn a (postings ++ later) = (lastOn a later).or (lastOn a postings) := by
  unfold lastOn
  rw [List.filter_append, List.getLast?_append]

theorem mem_of_lastOn (last : lastOn a postings = some e) : e ∈ postings ∧ e.row.address = a := by
  have found := List.mem_of_getLast? last
  simpa using found

theorem LastHonest.lastShows (h : LastHonest postings) (shown : View) :
    LastShows shown postings :=
  fun a e last => .inl (h a e last)

/-- What comes after everything else decides which rows are the last. -/
theorem lastOn_append_cases (last : lastOn a (postings ++ later) = some e) :
    (e ∈ later ∧ e.row.address = a) ∨ lastOn a postings = some e := by
  rw [lastOn_append, Option.or_eq_some_iff] at last
  exact last.imp mem_of_lastOn And.right

theorem LastShows.append (h : LastShows shown postings)
    (new : ∀ e ∈ later, e.IsHonest ∨ e.row.after.face = shown e.row.address) :
    LastShows shown (postings ++ later) := by
  intro a e last
  rcases lastOn_append_cases last with ⟨found, address⟩ | last
  · exact address ▸ new e found
  · exact h a e last

theorem LastHonest.append (h : LastHonest postings) (new : ∀ e ∈ later, e.IsHonest) :
    LastHonest (postings ++ later) := by
  intro a e last
  rcases lastOn_append_cases last with ⟨found, -⟩ | last
  · exact new e found
  · exact h a e last

end LastRows

/-! ## Rollbacks of all calls of a context -/

/-- **What a rollback adds**, the most recent call first. -/
def rollbackPostings (chain : Chain) (world : WorldState) (later : Incarnations)
    (revertStamp : Nat) (calls : List CallSection) : List Posting :=
  calls.reverse.flatMap fun c =>
    c.undoPostings (.canonical chain world later c.caller c.callee) later revertStamp

/-- The moves that a rollback should make. -/
def rollbackMoves (calls : List CallSection) : List Move :=
  calls.reverse.flatMap fun c => c.reversal.map Transition.move

section Rollbacks

variable {chain : Chain} {world : WorldState} {later : Incarnations} {revertStamp : Nat}
  {calls calls' : List CallSection}

theorem rollbackMoves_append :
    rollbackMoves (calls ++ calls') = rollbackMoves calls' ++ rollbackMoves calls := by
  unfold rollbackMoves
  rw [List.reverse_append, List.flatMap_append]

theorem rollbackMoves_singleton (c : CallSection) :
    rollbackMoves [c] = c.reversal.map Transition.move := by
  simp [rollbackMoves]

/-- Nothing of what has been rolled back is rolled back again. -/
theorem rollbackMoves_fallBack (resolved : ∀ c ∈ calls, c.Resolved) :
    rollbackMoves (calls.map (·.fallBack chain world later revertStamp)) = [] := by
  unfold rollbackMoves
  rw [List.flatMap_eq_nil_iff]
  intro _ hc
  obtain ⟨c, own, rfl⟩ := List.mem_map.1 (List.mem_reverse.1 hc)
  obtain ⟨isOver, fallen⟩ := (resolved c own).fallBack chain world later revertStamp
  rw [isOver.reversal_eq_nil fallen]
  rfl

theorem map_move_rollbackPostings :
    (rollbackPostings chain world later revertStamp calls).map Posting.move =
      rollbackMoves calls := by
  unfold rollbackPostings rollbackMoves
  rw [List.map_flatMap]
  congr 1
  funext c
  exact (c.compensates _ later revertStamp).map_move_pairUp

/-- **The rows of all calls after a rollback.** -/
theorem accountRows_fallBack_perm (resolved : ∀ c ∈ calls, c.Resolved) :
    ((calls.map (·.fallBack chain world later revertStamp)).flatMap (·.accountRows)).Perm
      (calls.flatMap (·.accountRows) ++
        (rollbackPostings chain world later revertStamp calls).map (·.row)) := by
  let added := fun c : CallSection =>
    (c.undoPostings (.canonical chain world later c.caller c.callee) later revertStamp).map (·.row)
  have each : (calls.map (·.fallBack chain world later revertStamp)).flatMap (·.accountRows) =
      calls.flatMap fun c => c.accountRows ++ added c := by
    rw [List.flatMap_map]
    exact List.flatMap_congr fun c hc => (resolved c hc).accountRows_fallBack
  have all : (rollbackPostings chain world later revertStamp calls).map (·.row) =
      calls.reverse.flatMap added := List.map_flatMap ..
  rw [each, all]
  refine (List.flatMap_append_perm ..).symm.trans (List.Perm.append_left _ ?_)
  exact (List.reverse_perm calls).symm.flatMap_right _

theorem mem_rollbackPostings {e : Posting}
    (he : e ∈ rollbackPostings chain world later revertStamp calls) : ∃ c ∈ calls,
      e ∈ c.undoPostings (.canonical chain world later c.caller c.callee) later revertStamp := by
  obtain ⟨c, hc, found⟩ := List.mem_flatMap.1 he
  exact ⟨c, List.mem_reverse.1 hc, found⟩

end Rollbacks

namespace CallSection

variable {c : CallSection} {rolledBack : Parties} {later : Incarnations} {revertStamp : Nat}

/-- Where the rows of a rollback are in the order of the history. -/
theorem stamp_of_mem_undoPostings {e : Posting}
    (he : e ∈ c.undoPostings rolledBack later revertStamp) :
    ∃ k, e.row.stamp = .undoing c.shared.stamp revertStamp k ∧ c.undoOffset ≤ k ∧ k < 8 := by
  have form := c.compensates rolledBack later revertStamp
  refine form.stamp_of_mem ?_
  rw [← form.map_row_pairUp]
  exact List.mem_map_of_mem he

/-- Only standing calls are undone. -/
theorem Resolved.standing_of_mem_undoPostings (resolved : c.Resolved) {e : Posting}
    (he : e ∈ c.undoPostings rolledBack later revertStamp) : c.Standing := by
  by_contra fallen
  unfold undoPostings pairUp at he
  rw [resolved.reversal_eq_nil fallen, List.zipWith_nil_right] at he
  cases he

end CallSection

/-- The postings of a rollback are in order. -/
theorem sorted_rollbackPostings {chain : Chain} {world : WorldState} {later : Incarnations}
    {revertStamp : Nat} {calls : List CallSection}
    (increasing : calls.Pairwise fun c d => c.shared.stamp < d.shared.stamp) :
    (rollbackPostings chain world later revertStamp calls).Pairwise fun e f =>
      e.row.stamp.Precedes f.row.stamp := by
  refine List.pairwise_flatMap.2 ⟨fun c _ => ?_, ?_⟩
  · have form := c.compensates (.canonical chain world later c.caller c.callee) later revertStamp
    have sorted := form.sorted
    rw [← form.map_row_pairUp, List.pairwise_map] at sorted
    exact sorted
  · refine List.pairwise_reverse.2 (increasing.imp fun {c d} order e he f hf => ?_)
    obtain ⟨k, stamp, -, small⟩ := CallSection.stamp_of_mem_undoPostings he
    obtain ⟨k', stamp', -, small'⟩ := CallSection.stamp_of_mem_undoPostings hf
    rw [stamp, stamp']
    exact RowStamp.undoing_precedes_older order small small'

end ExecutionTrace
