import ExecutionTrace.Announcement.CallKind
import ExecutionTrace.Context.Frame
import ExecutionTrace.Section.Scenario

/-!
# Violations

The ways in which what a driver announces can contradict itself or the trace.

None of them is an outcome of the machine: exceptions, aborts, reverts and failing
precompiles are scenarios.  A violation means that tracer and driver disagree about what
happened, and the construction of the trace must stop.
-/

namespace ExecutionTrace

/-- The three kinds of section. -/
inductive SectionKind
  | launch
  | settlement
  | call
  deriving DecidableEq, Repr

/-- The signals that are predicted twice, by the tracer and by another module. -/
inductive Prediction
  | memoryExpansion
  | outOfGas
  | abort
  deriving DecidableEq, Repr

/-- **A violation.** -/
inductive Violation
  /-- The balance of a snapshot would have become negative. -/
  | balanceUnderflow (address : Address) (balance amount : Word)
  /-- The balance of a snapshot would have exceeded the largest word. -/
  | balanceOverflow (address : Address) (balance amount : Word)
  | nonceOverflow (address : Address)
  /-- A deployment was found in progress where none may be. -/
  | deploymentInProgress (address : Address)
  | notDeploying (address : Address)
  /-- The target of a deployment has code or a nonzero nonce. -/
  | nonEmptyDeploymentTarget (address : Address)
  | recipientIsPrecompile (address : Address)
  /-- The sender of a skipped transaction has code or does not exist. -/
  | invalidSkippedSender (address : Address)
  | unsuccessfulSkippedTransaction
  /-- A scenario was to change in a way that the refinement order does not allow. -/
  | illegalTransition (source target : Scenario) (stamp : Nat)
  /-- A call is still undefined at the end of its transaction. -/
  | unresolvedScenario (scenario : Scenario) (stamp : Nat)
  /-- Two predictions of one signal disagree. -/
  | conflictingPrediction (prediction : Prediction) (stamp : Nat)
  /-- What the caller finds on its stack after a call is neither zero nor one. -/
  | invalidSuccessBit (top : Word)
  | successBitMismatch (child : Nat) (bit : Bool)
  /-- An event reached a section that does not wait for it. -/
  | unexpectedEvent (receiver : SectionKind) (event : Event)
  | stipendAlreadyCollected (stamp : Nat)
  | noCurrentContext
  | unknownContext (id : Nat)
  | rollbackOfSuccessfulContext (id : Nat)
  | noActiveTransaction
  /-- The stack of an instruction is shorter than its arity. -/
  | missingStackItem (kind : CallKind)
  | unknownSection (id : Nat)
  deriving DecidableEq, Repr

end ExecutionTrace
