import ExecutionTrace.Export.Context
import ExecutionTrace.Row.Basic

/-!
# Exported rows

The exported form of everything that rows are made of, down to the names of their fields.

## Main Definitions

* `Snapshot.toValue`, `AccountRow.toValue`, `MiscRow.toValue`, `ContextRow.toValue`
* `Row.toValue`
-/

namespace ExecutionTrace

open Value

/-! ## Accounts -/

def Bytecode.toValue (code : Bytecode) : Value :=
  record [("hash", ofDigest code.hash), ("size", number code.size)]

def Snapshot.toValue (s : Snapshot) : Value :=
  record
    [("address", ofAddress s.address),
     ("balance", ofWord s.balance),
     ("nonce", ofUInt64 s.nonce),
     ("code", s.code.toValue),
     ("is_warm", bool s.isWarm),
     ("deployment_number", number s.deploymentNumber),
     ("deployment_status", bool s.deploymentStatus)]

def RowStamp.toValue (s : RowStamp) : Value :=
  record [("dom_stamp", number s.dominant), ("sub_stamp", number s.subordinate)]

def AccountRow.toValue (row : AccountRow) : Value :=
  record
    [("before", row.before.toValue),
     ("after", row.after.toValue),
     ("trimmed_from", ofOption ofWord row.trimmedFrom?),
     ("requires_romlex", bool row.requiresCode),
     ("dom_sub_stamps", row.stamp.toValue)]

/-! ## Module calls -/

def Span.toValue (s : Span) : Value :=
  record [("offset", ofUInt64 s.offset), ("length", ofUInt64 s.length)]

def MemoryVerdict.toValue (v : MemoryVerdict) : Value :=
  record [("mxpx", bool v.exceeded), ("gas_mxp", ofUInt64 v.gas)]

def GasVerdict.toValue (v : GasVerdict) : Value :=
  record
    [("upfront_gas_cost", ofUInt64 v.upfrontCost),
     ("gas_paid_out_of_pocket", ofUInt64 v.forwarded),
     ("stipend", ofUInt64 v.stipend),
     ("out_of_gas", bool v.outOfGas)]

def BoundsCheck.toValue : BoundsCheck → Value
  | exceptional value => variant "XCall" (record [("value", ofWord value)])
  | unexceptional value balance depth aborts =>
      variant "Call" (record
        [("value", ofWord value),
         ("balance", ofWord balance),
         ("call_stack_depth", number depth),
         ("aborts", bool aborts)])

def PrecompileParameters.toValue : PrecompileParameters → Value
  | none => text "None"
  | pairing pairs wellFormed =>
      variant "Pairing" (record [("pairs", number pairs), ("well_formed", bool wellFormed)])
  | modexp p =>
      variant "Modexp" (record
        [("bbs", ofWord p.baseSize),
         ("ebs", ofWord p.exponentSize),
         ("mbs", ofWord p.modulusSize),
         ("within_bounds", bool p.withinBounds)])
  | blake p =>
      variant "Blake" (record
        [("valid_input_size", bool p.validSize),
         ("rounds", ofOption number p.rounds?),
         ("final_block", ofOption bool p.finalBlock?)])

def PrecompileCall.toValue (c : PrecompileCall) : Value :=
  record
    [("precompile", text c.precompile.variantName),
     ("call_data_size", number c.callDataSize),
     ("return_at_capacity", ofUInt64 c.returnCapacity),
     ("success", bool c.success),
     ("return_data_size", number c.returnDataSize),
     ("metadata", c.parameters.toValue)]

def MiscRow.toValue (row : MiscRow) : Value :=
  record
    [("oob", ofOption BoundsCheck.toValue row.bounds?),
     ("mxp", ofOption MemoryVerdict.toValue row.memory?),
     ("stp", ofOption GasVerdict.toValue row.gas?),
     ("precompile", ofOption PrecompileCall.toValue row.precompile?)]

/-! ## Stacks, contexts and transactions -/

def StackRow.toValue (row : StackRow) : Value :=
  record
    [("mnemonic", text row.mnemonic),
     ("items", ofList ofWord row.items),
     ("pushed", ofOption ofWord row.pushed?)]

def ContextRow.toValue : ContextRow → Value
  | readCurrent c => variant "ReadCurrentContext" (record [("context", number c)])
  | initializeRoot c a code =>
      variant "InitializeExecutionContext" (record
        [("context", number c), ("address", ofAddress a), ("code_address", ofAddress code)])
  | initializeChild c =>
      variant "InitializeNewExecutionContext" (record [("context", number c)])
  | emptyReturnData c =>
      variant "NonExecutionProvidesEmptyReturnData" (record [("context", number c)])
  | updateReturnData c source data =>
      variant "UpdateReturnData" (record
        [("context", number c), ("source", number source), ("return_data", ofByteList data)])
  | provideReturnData c data =>
      variant "ProvideReturnData" (record
        [("context", number c), ("return_data", ofByteList data)])

def TransactionRow.toValue (row : TransactionRow) : Value :=
  record
    [("sender", ofAddress row.sender),
     ("recipient", ofAddress row.recipient),
     ("coinbase", ofAddress row.coinbase),
     ("value", ofWord row.value),
     ("gas_limit", ofUInt64 row.gasLimit),
     ("gas_price", ofWord row.gasPrice),
     ("is_deployment", bool row.isDeployment),
     ("requires_evm_execution", bool row.requiresExecution),
     ("success", bool row.success),
     ("gas_used", ofUInt64 row.gasUsed),
     ("coinbase_reward", ofWord row.coinbaseReward)]

/-! ## Rows -/

/-- **The exported form of a row.** -/
def Row.toValue : Row → Value
  | stack row => variant "Stack" row.toValue
  | scenario s => variant "Scenario" (text s.name)
  | context row => variant "Context" row.toValue
  | misc row => variant "Misc" row.toValue
  | account row => variant "Account" row.toValue
  | transaction row => variant "Transaction" row.toValue

end ExecutionTrace
