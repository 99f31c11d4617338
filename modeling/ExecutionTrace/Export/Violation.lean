import ExecutionTrace.Machine.Script

/-!
# Exported violations and faults

A violation is exported as the name of its cause, beside its wording; a fault by its wording only.

## Main Definitions

* `Violation.variantName` — the causes
* `Violation.message`, `Fault.message` — the wordings
-/

namespace ExecutionTrace

/-- The name of the cause of a violation. -/
def Violation.variantName : Violation → String
  | balanceUnderflow _ _ _ => "BalanceUnderflow"
  | balanceOverflow _ _ _ => "BalanceOverflow"
  | nonceOverflow _ => "NonceOverflow"
  | deploymentInProgress _ => "DeploymentInProgress"
  | notDeploying _ => "NotDeploying"
  | nonEmptyDeploymentTarget _ => "NonEmptyDeploymentTarget"
  | recipientIsPrecompile _ => "RecipientIsPrecompile"
  | invalidSkippedSender _ => "InvalidSkippedSender"
  | unsuccessfulSkippedTransaction => "UnsuccessfulSkippedTransaction"
  | illegalTransition _ _ _ => "IllegalScenarioTransition"
  | unresolvedScenario _ _ => "UnresolvedScenario"
  | conflictingPrediction _ _ => "ConflictingPrediction"
  | invalidSuccessBit _ => "InvalidSuccessBit"
  | successBitMismatch _ _ => "SuccessBitMismatch"
  | unexpectedEvent _ _ => "UnexpectedCallback"
  | stipendAlreadyCollected _ => "StipendAlreadyCollected"
  | noCurrentContext => "NoCurrentContext"
  | unknownContext _ => "UnknownContext"
  | rollbackOfSuccessfulContext _ => "RollbackOfSuccessfulContext"
  | noActiveTransaction => "NoActiveTransaction"
  | missingStackItem _ => "MalformedStack"
  | unknownSection _ => "UnknownSection"

/-! ## Wordings -/

def SectionKind.name : SectionKind → String
  | launch => "TX_INIT"
  | settlement => "TX_SKIP"
  | call => "CALL"

/-- The module that makes the other prediction. -/
def Prediction.predictor : Prediction → String
  | memoryExpansion => "MXP"
  | outOfGas => "STP"
  | abort => "OOB"

/-- The signal that is predicted. -/
def Prediction.signal : Prediction → String
  | memoryExpansion => "MXPX"
  | outOfGas => "OOGX"
  | abort => "aborting conditions"

/-- **The wording of a violation.** Addresses are 40 hexadecimal digits, numbers decimal,
scenarios and events go by their names. -/
def Violation.message : Violation → String
  | balanceUnderflow address balance amount =>
      s!"balance underflow at {address.hex}: " ++
        s!"balance {balance.toNat} cannot be decremented by {amount.toNat}"
  | balanceOverflow address balance amount =>
      s!"balance overflow at {address.hex}: " ++
        s!"balance {balance.toNat} cannot be incremented by {amount.toNat}"
  | nonceOverflow address => s!"nonce overflow at {address.hex}"
  | deploymentInProgress address => s!"{address.hex} is already undergoing deployment"
  | notDeploying address => s!"{address.hex} is not undergoing deployment"
  | nonEmptyDeploymentTarget address =>
      s!"deployment target {address.hex} must have empty code and zero nonce"
  | recipientIsPrecompile address =>
      s!"recipient {address.hex} of a skipped transaction is a precompile"
  | invalidSkippedSender address =>
      s!"sender {address.hex} of a skipped transaction must exist and have no code"
  | unsuccessfulSkippedTransaction => "skipped transactions must be successful"
  | illegalTransition source target stamp =>
      s!"illegal call scenario transition {source.name} -> {target.name} (hub stamp {stamp})"
  | unresolvedScenario scenario stamp =>
      s!"call scenario {scenario.name} still unresolved at transaction end (hub stamp {stamp})"
  | conflictingPrediction prediction stamp =>
      s!"the {prediction.predictor} and the hub have conflicting predictions " ++
        s!"of {prediction.signal} (hub stamp {stamp})"
  | invalidSuccessBit top =>
      s!"caller stack top {top.toNat} at context re-entry is not a success bit"
  | successBitMismatch child bit =>
      s!"success bit {bit} at re-entry contradicts the outcome of context {child}"
  | unexpectedEvent receiver event =>
      s!"section {receiver.name} cannot resolve trigger {event.name}"
  | stipendAlreadyCollected stamp => s!"child stipend collected twice (hub stamp {stamp})"
  | noCurrentContext => "no execution context is currently active"
  | unknownContext id => s!"unknown execution context {id}"
  | rollbackOfSuccessfulContext id =>
      s!"execution context {id} did not fail and cannot be rolled back"
  | noActiveTransaction => "no transaction is being traced"
  | missingStackItem kind => s!"malformed stack for {kind.mnemonic}: missing stack item"
  | unknownSection id => s!"unknown section {id}"

/-- **The wording of a fault.** -/
def Fault.message : Fault → String
  | violation v => v.message
  | cannotPay address amount balance =>
      s!"{address.hex} cannot pay {amount.toNat} out of {balance.toNat}"
  | noCheckpoint => "no checkpoint for the context being finished"
  | noTransaction => "no transaction in progress"
  | rootRunning => "the root context is still running"

end ExecutionTrace
