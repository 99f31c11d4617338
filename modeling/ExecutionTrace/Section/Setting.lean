import ExecutionTrace.Context.Agenda
import ExecutionTrace.Context.Tree
import ExecutionTrace.Row.Basic

/-!
# The setting of a section

What sections may read while they react to events, what they may change while they are
constructed, and the pairs of snapshots that they reason with.

## Main Definitions

* `Setting` — what sections may read
* `Desk`, `Construction` — what the construction of a section may change
* `onPart` — a computation on a part of a state as one on the whole
* `Transition` — two snapshots of one account

## Design Notes

A construction that fails leaves its desk as it is by then.  That nothing has been changed
before the last check is a property of the constructions, not of their type.
-/

namespace ExecutionTrace

/-- **What sections may read of the tracer.** -/
structure Setting where
  /-- The stamp of the section announced last. -/
  stamp : Nat := 0
  contexts : ContextTree := {}
  incarnations : Incarnations := {}
  /-- The transaction being traced. -/
  transaction? : Option Transaction := none

/-- The transaction being traced. -/
def Setting.transaction (setting : Setting) : Except Violation Transaction :=
  match setting.transaction? with
  | some tx => pure tx
  | none => throw .noActiveTransaction

theorem Setting.transaction_eq_ok {setting : Setting} {tx : Transaction}
    (traced : setting.transaction? = some tx) : setting.transaction = .ok tx := by
  rw [transaction, traced]
  rfl

/-! ## Constructions -/

/-- **Carries out a computation on a part of a state.** What it leaves behind of the part, be
it in success or in failure, it leaves behind of the whole. -/
def onPart {ε σ τ α : Type} (part : τ → σ) (put : τ → σ → τ) (x : EStateM ε σ α) :
    EStateM ε τ α := fun t =>
  match x (part t) with
  | .ok a s => .ok a (put t s)
  | .error e s => .error e (put t s)

/-- **Where sections are constructed**: what they may read, the incarnations among it, and the
agenda that they put themselves on. -/
structure Desk extends Setting where
  agenda : Agenda := {}

/-- The construction of a section, which may be given up half-way. -/
abbrev Construction := EStateM Violation Desk

namespace Construction

/-- Changes the table of incarnations. -/
def onIncarnations {α : Type} (change : Incarnations.Change α) : Construction α :=
  onPart (fun d : Desk => d.incarnations) (fun d incarnations => { d with incarnations }) change

/-- Lets the section wait for events. -/
def register (id : Nat) (awaited : List Event) : Construction Unit :=
  modify fun d => { d with agenda := d.agenda.scheduleAll awaited id }

end Construction

/-! ## Transitions -/

/-- **A transition of one account**: two snapshots of the same address. -/
structure Transition where
  before : Snapshot
  after : Snapshot
  deriving DecidableEq

namespace Transition

/-- The transition that undoes a transition. -/
def reverse (t : Transition) : Transition where
  before := t.after
  after := t.before

/-- The same change made to both ends. -/
def map (t : Transition) (change : Snapshot → Snapshot) : Transition where
  before := change t.before
  after := change t.after

/-- The account row of a transition. -/
def row (t : Transition) (stamp : RowStamp) : AccountRow where
  before := t.before
  after := t.after
  stamp := stamp

/-- The account row of a transition that also requests the trimming of a word. -/
def trimmedRow (t : Transition) (word : Word) (stamp : RowStamp) : AccountRow :=
  { t.row stamp with trimmedFrom? := some word }

end Transition

end ExecutionTrace
