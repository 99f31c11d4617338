import ExecutionTrace.Context.Frame
import ExecutionTrace.Row.Basic

/-!
# Precompile runs

The rows that a call to a precompile contributes beyond those of any call.  Their parameters
are read off the call data when the call is announced; the rows exist once the precompile
has returned.

## Main Definitions

* `PrecompileRun.start?` — a run, for precompiles that have a handler
* `PrecompileRun.resolve` — records what the precompile returned
* `PrecompileRun.rows` — none before that, two or three afterwards
-/

namespace ExecutionTrace

/-- What a precompile returned. -/
structure PrecompileResult where
  context : Nat
  success : Bool
  returnData : Bytes
  deriving DecidableEq

/-- **A precompile at work.** -/
structure PrecompileRun where
  precompile : Precompile
  family : Precompile.Family
  callData : Bytes
  returnSpan : Span
  parameters : PrecompileParameters
  result? : Option PrecompileResult := none
  deriving DecidableEq

namespace PrecompileRun

/-! ## Parameters -/

/-- The largest size in bytes of a modular exponentiation's operand that can be proved. -/
def operandLimit : Nat := 512

/-- The only valid size of the compression function's call data. -/
def blakeSize : Nat := 213

/-- The number of bytes that the pairing check takes for one pair. -/
def pairSize : Nat := 192

/-- The three operand sizes, at the head of the zero-extended call data. -/
def modexpParameters (callData : Bytes) : ModexpParameters :=
  let baseSize := Bytes.wordAt callData 0
  let exponentSize := Bytes.wordAt callData 32
  let modulusSize := Bytes.wordAt callData 64
  { baseSize
    exponentSize
    modulusSize
    withinBounds :=
      [baseSize, exponentSize, modulusSize].all fun size => size.toNat ≤ operandLimit }

/-- The number of rounds in the first four bytes, and whether the last byte marks the final
block, provided that the call data has the valid size. -/
def blakeParameters (callData : Bytes) : BlakeParameters :=
  if callData.length = blakeSize then
    { validSize := true
      rounds? := some (Bytes.bigEndian (callData.take 4))
      finalBlock? := match callData.getLast? with
        | some 0 => some false
        | some 1 => some true
        | _ => none }
  else { validSize := false }

/-- The parameters that a precompile reads off its call data. -/
def parametersOf (precompile : Precompile) (callData : Bytes) : PrecompileParameters :=
  match precompile with
  | .bn128Pairing =>
      .pairing (callData.length / pairSize) (callData.length % pairSize == 0)
  | .modexp => .modexp (modexpParameters callData)
  | .blake2f => .blake (blakeParameters callData)
  | _ => .none

/-! ## Running -/

/-- **Starts a run**, unless the precompile has no handler. -/
def start? (precompile : Precompile) (callData : Bytes) (returnSpan : Span) :
    Option PrecompileRun :=
  precompile.family?.map fun family =>
    { precompile
      family
      callData
      returnSpan
      parameters := parametersOf precompile callData }

/-- **Records what the precompile returned** in the context it ran in.  A failed precompile
returns no data, whatever it put out. -/
def resolve (run : PrecompileRun) (context : Nat) (outcome : ContextOutcome) :
    PrecompileRun :=
  { run with
    result? := some
      { context
        success := outcome.success
        returnData := outcome.returnData } }

def isResolved (run : PrecompileRun) : Bool :=
  run.result?.isSome

/-- The families whose pricing depends on extracted parameters take a further row. -/
def needsPricingRow : Precompile.Family → Bool
  | .modexp | .blake => true
  | _ => false

/-- **The rows of a run**: the dispatch, a row for the pricing where one is needed, and the
data handed back. -/
def rows (run : PrecompileRun) : List Row :=
  match run.result? with
  | none => []
  | some result =>
      .misc
          { precompile? := some
              { precompile := run.precompile
                callDataSize := run.callData.length
                returnCapacity := run.returnSpan.length
                success := result.success
                returnDataSize := result.returnData.length
                parameters := run.parameters } } ::
        (if needsPricingRow run.family then [.misc {}] else []) ++
        [.context (.provideReturnData result.context result.returnData)]

end PrecompileRun

end ExecutionTrace
