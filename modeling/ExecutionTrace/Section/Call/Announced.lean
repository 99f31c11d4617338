import ExecutionTrace.Section.Call

/-!
# Announced calls

What is known of a call when it is announced, just before it executes.

## Main Definitions

* `Destination` — where an unexceptional call goes
* `CallSection.awaited` — the events that a fresh section waits for
* `CallSection.announce` — constructs the section of an announced call, or finds the disagreement

## Design Notes

The checks come in a fixed order, and the first that applies decides: stack and static
exceptions, memory expansion, gas, and then whether the call aborts.  Each of the last
three is also predicted by another module, and a prediction that disagrees with the
announced signal is a violation.  The first rows are only written when it is known which
modules had to be asked, so an exceptional section shows no more than that.  A section that
got through all checks puts itself on the agenda last.

A set of exception flags can be nonempty without any of the declared flags.  Such a call
passes every check as an unexceptional one and is turned away at the end, where an
exceptional scenario can go no further.
-/

namespace ExecutionTrace

/-- **Where an unexceptional call goes.** -/
inductive Destination
  /-- The call aborts and goes nowhere. -/
  | nowhere
  | precompile (target : Precompile)
  /-- An account with code. -/
  | contract
  /-- An account without code, existing or not. -/
  | external
  deriving DecidableEq

/-- The destination of a call that does not abort. -/
def Destination.of (chain : Chain) (world : WorldState) (callee : Address) : Destination :=
  match Precompile.at? chain callee with
  | some p => .precompile p
  | none => if world.hasCode callee then .contract else .external

namespace CallSection

/-- What the module row of a call shows before any module has been asked. -/
def blankMisc (i : Invocation) : MiscRow where
  bounds? := if i.exceptions.any then some (.exceptional (i.value.toOption.getD 0)) else none

/-- A section that shows its first rows, and otherwise only knows what the instruction is and
where it was announced. -/
def blank (stamp : Nat) (frame : Frame) (i : Invocation) (misc : MiscRow) : CallSection :=
  let scenario : Scenario := if i.exceptions.any then .exception else .undefined
  { trace :=
      { shared := { stamp, context := frame.id }
        rows := opening i.kind i.stack none scenario frame.id misc }
    kind := i.kind
    scenario
    opens := ⟨i.stack, none, misc, [], rfl⟩
    caller := frame.entry.address }

/-- Hands the stipend back to the caller. -/
def collectStipend (c : CallSection) (stipend : UInt64) : Except Violation CallSection :=
  match collected : c.shared.collectStipend stipend with
  | .ok shared => pure (c.withShared shared (SharedValues.context_collectStipend collected))
  | .error v => throw v

/-- **Whether an unexceptional call aborts**: its caller cannot pay for it, or the stack of
contexts is too deep. -/
def abortsAt (kind : CallKind) (value balance : Word) (depth : Nat) : Bool :=
  kind.takesValue && balance.toNat < value.toNat || maxCallDepth ≤ depth

/-- The call aborts: the callee becomes warm, nothing else happens, and the caller collects
the stipend. -/
def abort (c : CallSection) (before : Parties) (gas : GasVerdict) :
    Except Violation CallSection := do
  let c ← c.advance .abortWontRevert
  let after : Parties := { before with callee := before.callee.warmedUp }
  let rows := c.forwardRows ⟨before.caller, after.caller⟩ ⟨before.callee, after.callee⟩ false
  let c := { c.append (rows.map .account) with
    after? := some after
    closing? := some (.emptyReturnData c.shared.context) }
  c.collectStipend gas.stipend

/-- The call goes to an account without code.  No context executes, and the caller collects
the stipend. -/
def toExternal (c : CallSection) (gas : GasVerdict) : Except Violation CallSection := do
  let c ← c.advance .externalUndefined
  let c ← c.collectStipend gas.stipend
  return { c with closing? := some (.emptyReturnData c.shared.context) }

/-- The call goes to a contract, whose context will have the number given. -/
def toContract (c : CallSection) (child : Nat) (gas : GasVerdict) :
    Except Violation CallSection := do
  let c ← c.advance .contractUndefined
  let c := c.withShared (c.shared.payForwardedGas gas.forwarded) rfl
  return { c with closing? := some (.initializeChild child) }

/-- The call goes to a precompile. -/
def toPrecompile (c : CallSection) (precompile : Precompile) (callData : Bytes) :
    Except Violation CallSection := do
  let c ← c.advance .precompileUndefined
  return { c with run? := PrecompileRun.start? precompile callData c.returnSpan }

/-- Sends an unexceptional call to its destination. -/
def dispatch (c : CallSection) (destination : Destination) (before : Parties) (child : Nat)
    (i : Invocation) : Except Violation CallSection :=
  match destination with
  | .nowhere => c.abort before i.gas
  | .precompile p => c.toPrecompile p i.callData
  | .contract => c.toContract child i.gas
  | .external => c.toExternal i.gas

/-- **The events that a fresh section waits for.** Exceptional calls are dealt with on the
spot.  All others are sensitive to a rollback of their context and complete their rows after
the transaction; what else they wait for depends on where they go. -/
def awaited (c : CallSection) (child : Nat) : List Event :=
  let always : List Event := [.rollback c.shared.context, .transactionClosed]
  match c.scenario with
  | .abortWontRevert => always ++ [.opcodeEnd]
  | .externalUndefined => always ++ [.contextReEntry c.shared.context]
  | .precompileUndefined => always ++ [.contextEntry, .contextReEntry c.shared.context]
  | .contractUndefined =>
      always ++ [.contextEntry, .contextExit child, .contextReEntry c.shared.context]
  | _ => []

/-- **An announced call whose exceptions are settled**: reads the rest of the stack, decides
where the call goes, and lets its section wait for what happens there. -/
def announceUnexceptional (chain : Chain) (id : Nat) (world : WorldState) (frame : Frame)
    (rawCallee : Word) (before : Parties) (misc : MiscRow) (i : Invocation) :
    Construction CallSection := do
  let desk ← get
  let value ← ofExcept i.value
  let callDataSpan ← ofExcept i.callDataSpan
  let returnSpan ← ofExcept i.returnSpan
  let aborts := abortsAt i.kind value before.caller.balance frame.depth
  let bounds := .unexceptional value before.caller.balance frame.depth aborts
  if aborts != i.aborts.any then
    throw (.conflictingPrediction .abort desk.stamp)
  let callee := rawCallee.toAddress
  let c := { blank desk.stamp frame i { misc with bounds? := some bounds } with
    rawCallee, callee, value, callDataSpan, returnSpan }
  let destination := if aborts then .nowhere else Destination.of chain world callee
  let child := desk.contexts.nextId
  let c ← ofExcept (c.dispatch destination before child i)
  let c := { c with before? := some before }
  Construction.register id (c.awaited child)
  return c

/-- **Constructs the section of an announced call.** -/
def announce (chain : Chain) (id : Nat) (world : WorldState) (i : Invocation) :
    Construction CallSection := do
  let desk ← get
  let frame ← ofExcept desk.contexts.currentFrame
  let misc := blankMisc i
  if i.exceptions.hasStackException || i.exceptions.hasStaticFault then
    return blank desk.stamp frame i misc
  let misc := { misc with memory? := some i.memory }
  if i.memory.exceeded != i.exceptions.hasMemoryExpansion then
    throw (.conflictingPrediction .memoryExpansion desk.stamp)
  if i.memory.exceeded then
    return blank desk.stamp frame i misc
  let misc := { misc with gas? := some i.gas }
  if i.gas.outOfGas != i.exceptions.hasOutOfGas then
    throw (.conflictingPrediction .outOfGas desk.stamp)
  let rawCallee ← ofExcept i.rawCallee
  let callee := rawCallee.toAddress
  let before := Parties.canonical chain world desk.incarnations frame.entry.address callee
  if i.exceptions.hasOutOfGas then
    let c := { blank desk.stamp frame i misc with rawCallee, callee }
    let rows := c.forwardRows ⟨before.caller, before.caller⟩ ⟨before.callee, before.callee⟩ false
    return { c.append (rows.map .account) with before? := some before }
  announceUnexceptional chain id world frame rawCallee before misc i

end CallSection

end ExecutionTrace
