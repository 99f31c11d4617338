import ExecutionTrace.Arithmetic.Word

/-!
# Contexts and their events

One execution context: where it was spawned, what it acts on, and what became of it.  Sections wait
for what happens to contexts, and for the end of the instruction or the transaction they are about.

## Main Definitions

* `ContextEntry`, `ContextOutcome`, `Frame`
* `Event` — what a section may wait for
-/

namespace ExecutionTrace

/-- **The announcement of a new context.** -/
structure ContextEntry where
  /-- The account whose balance and storage the context acts on. -/
  address : Address := 0
  /-- The account whose code the context executes. -/
  codeAddress : Address := 0
  caller : Address := 0
  value : Word := 0
  isDeployment : Bool := false
  deriving DecidableEq, Inhabited

/-- **How a context ended.** -/
structure ContextOutcome where
  success : Bool
  output : Bytes := []
  deriving DecidableEq, Inhabited

namespace ContextOutcome

/-- Success, with an output. -/
def succeeded (output : Bytes) : ContextOutcome :=
  { success := true, output }

/-- Failure.  A failed context provides no data. -/
def failed : ContextOutcome :=
  { success := false }

/-- What the caller receives: the output of a success, nothing from a failure. -/
def returnData (outcome : ContextOutcome) : Bytes :=
  if outcome.success then outcome.output else []

end ContextOutcome

/-- **An execution context.** -/
structure Frame where
  id : Nat
  /-- The context it was spawned from; the root has none. -/
  parent? : Option Nat
  /-- The contexts spawned from it, in order. -/
  children : List Nat := []
  /-- The number of contexts above it. -/
  depth : Nat
  entry : ContextEntry
  /-- The stamp at which it, or a context above it, was first rolled back. -/
  revertStamp? : Option Nat := none
  /-- How it ended, once it has. -/
  outcome? : Option ContextOutcome := none
  deriving DecidableEq, Inhabited

namespace Frame

def lastChild? (f : Frame) : Option Nat :=
  f.children.getLast?

/-- The stamp of the first rollback, zero if there was none. -/
def revertStamp (f : Frame) : Nat :=
  f.revertStamp?.getD 0

def hasReverted (f : Frame) : Bool :=
  f.revertStamp?.isSome

/-- The context has ended in failure. -/
def hasFailed (f : Frame) : Bool :=
  f.outcome?.any fun outcome => !outcome.success

/-- Stamps the frame, unless it carries a stamp already. -/
def stampReverted (f : Frame) (stamp : Nat) : Frame :=
  { f with revertStamp? := some (f.revertStamp?.getD stamp) }

def addChild (f : Frame) (id : Nat) : Frame :=
  { f with children := f.children ++ [id] }

end Frame

/-- **An event** that a section may wait for. -/
inductive Event
  /-- The transaction is over, and sections complete their own rows. -/
  | transactionEnd
  /-- The next context to be spawned has become active. -/
  | contextEntry
  /-- The given context is about to terminate. -/
  | contextExit (context : Nat)
  /-- Control is back in the given context after one of its children finished. -/
  | contextReEntry (context : Nat)
  /-- The instruction being traced has finished executing. -/
  | opcodeEnd
  /-- The given context, or one of its ancestors, was rolled back. -/
  | rollback (context : Nat)
  /-- Follows the end of the transaction. -/
  | transactionClosed
  deriving DecidableEq, Repr

namespace Event

/-- An event as messages spell it. -/
def name : Event → String
  | transactionEnd => "EndTransaction"
  | contextEntry => "ContextEntry"
  | contextExit c => s!"ContextExit({c})"
  | contextReEntry c => s!"ContextReEntry({c})"
  | opcodeEnd => "PostOpcode"
  | rollback c => s!"PostRollback({c})"
  | transactionClosed => "PostTransaction"

end Event

end ExecutionTrace
