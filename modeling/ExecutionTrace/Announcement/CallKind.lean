import ExecutionTrace.Chain.Precompile

/-!
# The four call instructions

`CALL`, `CALLCODE`, `DELEGATECALL` and `STATICCALL`: which of them take a value from the
stack, which move it, and what they grant to their callee.
-/

namespace ExecutionTrace

/-- One of the four call instructions. -/
inductive CallKind
  | call
  | callCode
  | delegateCall
  | staticCall
  deriving DecidableEq, Repr

namespace CallKind

def mnemonic : CallKind → String
  | call => "CALL"
  | callCode => "CALLCODE"
  | delegateCall => "DELEGATECALL"
  | staticCall => "STATICCALL"

/-- The instruction takes a value from the stack. -/
def takesValue : CallKind → Bool
  | call | callCode => true
  | delegateCall | staticCall => false

theorem takesValue_iff {k : CallKind} : k.takesValue = true ↔ k = call ∨ k = callCode := by
  cases k <;> decide

/-- The instruction moves its value from one account to another. -/
def movesValue : CallKind → Bool
  | call => true
  | _ => false

/-- The number of stack items that the instruction consumes. -/
def arity (k : CallKind) : Nat :=
  if k.takesValue then 7 else 6

/-- The gas granted to the callee on top of what the caller forwards. -/
def stipend (k : CallKind) (value : Word) : UInt64 :=
  if k.takesValue && value != 0 then callStipend else 0

end CallKind

end ExecutionTrace
