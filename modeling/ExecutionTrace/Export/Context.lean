import ExecutionTrace.Chain.Precompile
import ExecutionTrace.Export.Value
import ExecutionTrace.Violation

/-!
# Exported contexts and calls

The exported form of contexts, of the events that happen to them, and of what they call.

## Main Definitions

* `Frame.toValue`, `Event.toValue`
* `Precompile.toValue` — the entry of a precompile in the catalogue of a chain
-/

namespace ExecutionTrace

open Value

def ContextOutcome.toValue (outcome : ContextOutcome) : Value :=
  record [("success", bool outcome.success), ("output", ofByteList outcome.output)]

/-- The exported form of a context: where it was spawned, what it acts on, and what became
of it. -/
def Frame.toValue (f : Frame) : Value :=
  record
    [("id", number f.id),
     ("parent", ofOption number f.parent?),
     ("children", ofList number f.children),
     ("last_child", ofOption number f.lastChild?),
     ("depth", number f.depth),
     ("address", ofAddress f.entry.address),
     ("code_address", ofAddress f.entry.codeAddress),
     ("caller", ofAddress f.entry.caller),
     ("value", ofWord f.entry.value),
     ("is_deployment", bool f.entry.isDeployment),
     ("revert_stamp", number f.revertStamp),
     ("has_reverted", bool f.hasReverted),
     ("outcome", ofOption ContextOutcome.toValue f.outcome?)]

/-- The exported form of an event: a name, with the context where it is about one. -/
def Event.toValue : Event → Value
  | contextExit c => variant "ContextExit" (number c)
  | contextReEntry c => variant "ContextReEntry" (number c)
  | rollback c => variant "PostRollback" (number c)
  | e => text e.name

/-! ## Calls -/

/-- The name of an instruction's variant, beside its mnemonic. -/
def CallKind.variantName : CallKind → String
  | call => "Call"
  | callCode => "CallCode"
  | delegateCall => "DelegateCall"
  | staticCall => "StaticCall"

/-- The name of a precompile's variant, beside its column name. -/
def Precompile.variantName : Precompile → String
  | ecrecover => "Ecrecover"
  | sha256 => "Sha256"
  | ripemd160 => "Ripemd160"
  | identity => "Identity"
  | modexp => "Modexp"
  | bn128Add => "AltBn128Add"
  | bn128Mul => "AltBn128Mul"
  | bn128Pairing => "AltBn128Pairing"
  | blake2f => "Blake2fCompression"
  | pointEvaluation => "PointEvaluation"
  | p256Verify => "P256Verify"

def Precompile.Family.variantName : Precompile.Family → String
  | ellipticCurve => "EllipticCurve"
  | shaTwoOrRipemd => "ShaTwoOrRipemd"
  | identity => "Identity"
  | modexp => "Modexp"
  | blake => "Blake"

/-- The entry of a precompile in the catalogue of a chain. -/
def Precompile.toValue (chain : Chain) (p : Precompile) : Value :=
  record
    [("display", text p.name),
     ("serialized", text p.variantName),
     ("index", number p.index),
     ("address", ofAddress p.address),
     ("is_live", bool (p.IsLive chain)),
     ("family", ofOption (fun f => text f.variantName) p.family?)]

/-- The name of a scenario's variant, beside its column name. -/
def Scenario.variantName : Scenario → String
  | undefined => "Undefined"
  | exception => "Exception"
  | abortWontRevert => "AbortWontRevert"
  | abortWillRevert => "AbortWillRevert"
  | externalUndefined => "EoaUndefined"
  | externalSuccessWontRevert => "EoaSuccessWontRevert"
  | externalSuccessWillRevert => "EoaSuccessWillRevert"
  | precompileUndefined => "PrcUndefined"
  | precompileSuccessWontRevert => "PrcSuccessWontRevert"
  | precompileSuccessWillRevert => "PrcSuccessWillRevert"
  | precompileFailure => "PrcFailure"
  | contractUndefined => "SmcUndefined"
  | contractSuccessWontRevert => "SmcSuccessWontRevert"
  | contractSuccessWillRevert => "SmcSuccessWillRevert"
  | contractFailureWontRevert => "SmcFailureWontRevert"
  | contractFailureWillRevert => "SmcFailureWillRevert"

end ExecutionTrace
