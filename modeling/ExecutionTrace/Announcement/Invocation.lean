import ExecutionTrace.Announcement.Flags
import ExecutionTrace.Announcement.Span
import ExecutionTrace.Violation

/-!
# Invocations

A call instruction as the driver announces it, just before it executes: its stack, the
signals predicted for it, the verdicts of the memory and gas modules, and its call data.

## Main Definitions

* `Invocation` — the announcement
* `Slot`, `Slot.index` — where an instruction finds each of its stack items
* `Invocation.callee`, `Invocation.value`, `Invocation.callDataSpan`,
  `Invocation.returnSpan` — what the stack says, or `missingStackItem`
* `Invocation.make` and the `with…` functions — well-formed announcements

## Design Notes

`CALL` and `CALLCODE` find a value between the callee and the spans; for the other two
kinds everything below that place moves up by one.  Readers and writers of the stack share
`Slot.index`, so the layout is written once.
-/

namespace ExecutionTrace

/-- The verdict of the memory expansion module. -/
structure MemoryVerdict where
  exceeded : Bool := false
  gas : UInt64 := 0
  deriving DecidableEq, Inhabited

/-- The verdict of the gas module on what a call costs and forwards. -/
structure GasVerdict where
  upfrontCost : UInt64 := 0
  /-- Gas forwarded to the child context, the stipend not included. -/
  forwarded : UInt64 := 0
  stipend : UInt64 := 0
  outOfGas : Bool := false
  deriving DecidableEq, Inhabited

/-- **The places of a call instruction's stack**, as far as they are read. -/
inductive Slot
  | address
  | value
  | dataOffset
  | dataLength
  | returnOffset
  | returnLength
  deriving DecidableEq

/-- The position of a slot below the top of the stack, where the gas is.  Only an
instruction that takes a value has a value slot. -/
def Slot.index (kind : CallKind) : Slot → Nat
  | address => 1
  | value => 2
  | dataOffset => if kind.takesValue then 3 else 2
  | dataLength => if kind.takesValue then 4 else 3
  | returnOffset => if kind.takesValue then 5 else 4
  | returnLength => if kind.takesValue then 6 else 5

/-- **An announced call instruction.** -/
structure Invocation where
  kind : CallKind
  /-- Stack items, top of the stack first. -/
  stack : List Word
  exceptions : ExceptionFlags := {}
  aborts : AbortFlags := {}
  memory : MemoryVerdict := {}
  gas : GasVerdict := {}
  /-- What the caller's memory holds in the call data span. -/
  callData : Bytes := []
  deriving DecidableEq

namespace Invocation

/-! ## Well-formed announcements -/

/-- The gas that `make` puts on the stack and forwards. -/
def defaultGas : UInt64 := 0xffff

/-- A well-formed, unexceptional announcement with empty call data, whose result goes to 32
bytes at offset zero. -/
def make (kind : CallKind) (callee : Address) (value : Word) : Invocation where
  kind := kind
  stack :=
    [Word.ofUInt64 defaultGas, callee.toWord] ++ (if kind.takesValue then [value] else []) ++
      [0, 0, 0, 32]
  gas :=
    { upfrontCost := 100
      forwarded := defaultGas
      stipend := kind.stipend value }

/-- Overwrites a stack item, which has to exist. -/
def setItem (i : Invocation) (slot : Slot) (item : Word) : Option Invocation :=
  let index := slot.index i.kind
  if index < i.stack.length then some { i with stack := i.stack.set index item } else none

/-- Supplies the call data, and its length on the stack. -/
def withCallData (i : Invocation) (callData : Bytes) : Option Invocation :=
  { i with callData }.setItem .dataLength (BitVec.ofNat 256 callData.length)

/-- Says where the result goes. -/
def withReturnSpan (i : Invocation) (offset length : UInt64) : Option Invocation := do
  (← i.setItem .returnOffset (Word.ofUInt64 offset)).setItem .returnLength
    (Word.ofUInt64 length)

/-- Announces exceptions, and verdicts of the memory and gas modules that agree. -/
def withExceptions (i : Invocation) (exceptions : ExceptionFlags) : Invocation :=
  { i with
    exceptions
    memory := { i.memory with exceeded := exceptions.hasMemoryExpansion }
    gas := { i.gas with outOfGas := exceptions.hasOutOfGas } }

/-- Announces aborting conditions. -/
def withAborts (i : Invocation) (aborts : AbortFlags) : Invocation :=
  { i with aborts }

/-! ## What the stack says -/

/-- The stack item in a slot. -/
def item (i : Invocation) (slot : Slot) : Except Violation Word :=
  match i.stack[slot.index i.kind]? with
  | some w => pure w
  | none => throw (.missingStackItem i.kind)

/-- The callee as it stands on the stack, before trimming. -/
def rawCallee (i : Invocation) : Except Violation Word :=
  i.item .address

/-- The account that is called. -/
def callee (i : Invocation) : Except Violation Address :=
  return Word.toAddress (← i.rawCallee)

/-- The value of the call; zero for instructions that take none. -/
def value (i : Invocation) : Except Violation Word :=
  if i.kind.takesValue then i.item .value else pure 0

/-- Where the call data comes from. -/
def callDataSpan (i : Invocation) : Except Violation Span :=
  return Span.ofWords (← i.item .dataOffset) (← i.item .dataLength)

/-- Where the result goes. -/
def returnSpan (i : Invocation) : Except Violation Span :=
  return Span.ofWords (← i.item .returnOffset) (← i.item .returnLength)

end Invocation

end ExecutionTrace
