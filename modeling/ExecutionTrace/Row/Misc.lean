import ExecutionTrace.Announcement.Invocation
import ExecutionTrace.Chain.Precompile

/-!
# Module rows

Rows that call on the auxiliary modules: the out-of-bounds checks, the memory and gas
verdicts, and the dispatch of a precompile.
-/

namespace ExecutionTrace

/-- **A check of the out-of-bounds module.** -/
inductive BoundsCheck
  /-- For an exceptional call. -/
  | exceptional (value : Word)
  /-- For an unexceptional call, deciding whether it aborts. -/
  | unexceptional (value balance : Word) (depth : Nat) (aborts : Bool)
  deriving DecidableEq

/-- The check found a condition under which the call aborts. -/
def BoundsCheck.aborts : BoundsCheck → Bool
  | exceptional _ => false
  | unexceptional _ _ _ aborts => aborts

/-- The sizes that modular exponentiation reads off its call data. -/
structure ModexpParameters where
  baseSize : Word
  exponentSize : Word
  modulusSize : Word
  /-- Each of the three sizes is one that can be proved. -/
  withinBounds : Bool
  deriving DecidableEq

/-- What the compression function reads off its call data. -/
structure BlakeParameters where
  validSize : Bool
  rounds? : Option Nat := none
  finalBlock? : Option Bool := none
  deriving DecidableEq

/-- **The parameters of a precompile**, as far as its dispatch depends on them. -/
inductive PrecompileParameters
  | none
  /-- The pairing check consumes its call data in pairs. -/
  | pairing (pairs : Nat) (wellFormed : Bool)
  | modexp (parameters : ModexpParameters)
  | blake (parameters : BlakeParameters)
  deriving DecidableEq

/-- **The dispatch of a precompile.** -/
structure PrecompileCall where
  precompile : Precompile
  callDataSize : Nat
  returnCapacity : UInt64
  success : Bool
  returnDataSize : Nat
  parameters : PrecompileParameters
  deriving DecidableEq

/-- **A module row.** -/
structure MiscRow where
  bounds? : Option BoundsCheck := none
  memory? : Option MemoryVerdict := none
  gas? : Option GasVerdict := none
  precompile? : Option PrecompileCall := none
  deriving DecidableEq, Inhabited

/-- The row calls on no module. -/
def MiscRow.isEmpty (row : MiscRow) : Bool :=
  row == {}

end ExecutionTrace
