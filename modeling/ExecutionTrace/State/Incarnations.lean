import ExecutionTrace.Violation
import Std.Data.ExtTreeMap

/-!
# Incarnations

How often each address has been deployed to, and whether its constructor is running.  The
numbers are kept across the transactions traced together; a revert gives none back.

## Main Definitions

* `Incarnations.number`, `Incarnations.isDeploying`, `Incarnations.initCode?`
* `Incarnations.start` — a deployment begins, with or without a constructor
* `Incarnations.stop` — the constructor has terminated
* `Incarnations.answer` — the table that a change leads to, unless it is refused

## Design Notes

A deployment is in progress exactly while there is init code to show for it, so the status
of an address is not stored beside its init code but read off it.

A start makes an entry for its address before it looks at the status there, and a start that
is refused leaves its table behind.
-/

namespace ExecutionTrace

/-- What is known of the deployments to one address. -/
structure Incarnation where
  number : Nat := 0
  initCode? : Option Bytes := none
  deriving DecidableEq, Inhabited

/-- **The incarnations of every address.** -/
structure Incarnations where
  table : Std.ExtTreeMap Address Incarnation := ∅

namespace Incarnations

protected def get (t : Incarnations) (a : Address) : Incarnation :=
  t.table.getD a {}

/-- The number of deployments to the address so far. -/
def number (t : Incarnations) (a : Address) : Nat :=
  (t.get a).number

/-- The init code of the deployment in progress at the address, if there is one. -/
def initCode? (t : Incarnations) (a : Address) : Option Bytes :=
  (t.get a).initCode?

/-- A deployment is in progress at the address. -/
def isDeploying (t : Incarnations) (a : Address) : Bool :=
  (t.initCode? a).isSome

/-- The table with one address changed. -/
def set (t : Incarnations) (a : Address) (incarnation : Incarnation) : Incarnations :=
  ⟨t.table.insert a incarnation⟩

/-! ## Changes -/

/-- **A change of the table**, which may be refused half-way. -/
abbrev Change := EStateM Violation Incarnations

/-- What is known of an address, which has an entry of its own from then on. -/
def touch (a : Address) : Change Incarnation := do
  modify fun t => ⟨t.table.insertIfNew a {}⟩
  return (← get).get a

/-- **Starts a deployment**: the number rises.  With init code a constructor is about to run,
and without any none ever does. -/
def start (a : Address) (initCode? : Option Bytes) : Change Unit := do
  let found ← touch a
  if found.initCode?.isSome then throw (.deploymentInProgress a)
  modify (·.set a { number := found.number + 1, initCode? })

/-- **Ends the deployment** in progress at an address. -/
def stop (a : Address) : Change Unit := do
  let found := (← get).get a
  if found.initCode?.isNone then throw (.notDeploying a)
  modify (·.set a { number := found.number })

/-- The table that a change leads to, unless it is refused. -/
def answer (change : Change Unit) (t : Incarnations) : Except Violation Incarnations :=
  match change t with
  | .ok _ t' => .ok t'
  | .error v _ => .error v

/-- Starts a deployment whose constructor is about to run. -/
def startExecuting (t : Incarnations) (a : Address) (initCode : Bytes) :
    Except Violation Incarnations :=
  answer (start a (some initCode)) t

/-- Counts a deployment with empty init code. -/
def startSkipped (t : Incarnations) (a : Address) : Except Violation Incarnations :=
  answer (start a none) t

/-- Ends the deployment in progress at an address. -/
def finish (t : Incarnations) (a : Address) : Except Violation Incarnations :=
  answer (stop a) t

/-- The table of transactions that nothing has been traced before. -/
def reset (_ : Incarnations) : Incarnations :=
  {}

/-! ## Look-ups -/

theorem get_set (t : Incarnations) (a b : Address) (incarnation : Incarnation) :
    (t.set a incarnation).get b = if a = b then incarnation else t.get b := by
  simp [Incarnations.get, set, Std.ExtTreeMap.getD_insert]

@[simp]
theorem get_empty (a : Address) : ({} : Incarnations).get a = {} := by
  simp [Incarnations.get]

end Incarnations

end ExecutionTrace
