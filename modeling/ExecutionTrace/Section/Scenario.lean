/-!
# Call scenarios

How a call turned out, as far as is known.  A call starts undefined, is refined to one of
five classes when it is announced, to a terminal scenario when control returns to its
caller, and from there possibly once more, when the context it was made from is rolled
back.

## Main Definitions

* `Scenario` and its column name `Scenario.name`
* `Scenario.refines` — the refinement order, one step at a time
* `Scenario.willRevert?` — the counterpart after a rollback

## Design Notes

A failed precompile has no counterpart after a rollback: its value transfer is already
undone when it fails, and precompiles are warm by definition, so nothing remains to undo.
-/

namespace ExecutionTrace

/-- **The scenario of a call.** -/
inductive Scenario
  | undefined
  | exception
  | abortWontRevert
  | abortWillRevert
  | externalUndefined
  | externalSuccessWontRevert
  | externalSuccessWillRevert
  | precompileUndefined
  | precompileSuccessWontRevert
  | precompileSuccessWillRevert
  | precompileFailure
  | contractUndefined
  | contractSuccessWontRevert
  | contractSuccessWillRevert
  | contractFailureWontRevert
  | contractFailureWillRevert
  deriving DecidableEq, Repr

namespace Scenario

/-- Every scenario, in order of declaration. -/
def all : List Scenario :=
  [undefined, exception, abortWontRevert, abortWillRevert, externalUndefined,
   externalSuccessWontRevert, externalSuccessWillRevert, precompileUndefined,
   precompileSuccessWontRevert, precompileSuccessWillRevert, precompileFailure,
   contractUndefined, contractSuccessWontRevert, contractSuccessWillRevert,
   contractFailureWontRevert, contractFailureWillRevert]

/-- The name of the column that a scenario sets. -/
def name : Scenario → String
  | undefined => "UNDEFINED"
  | exception => "CALL_EXCEPTION"
  | abortWontRevert => "CALL_ABORT_WONT_REVERT"
  | abortWillRevert => "CALL_ABORT_WILL_REVERT"
  | externalUndefined => "CALL_EOA_UNDEFINED"
  | externalSuccessWontRevert => "CALL_EOA_SUCCESS_WONT_REVERT"
  | externalSuccessWillRevert => "CALL_EOA_SUCCESS_WILL_REVERT"
  | precompileUndefined => "CALL_PRC_UNDEFINED"
  | precompileSuccessWontRevert => "CALL_PRC_SUCCESS_WONT_REVERT"
  | precompileSuccessWillRevert => "CALL_PRC_SUCCESS_WILL_REVERT"
  | precompileFailure => "CALL_PRC_FAILURE"
  | contractUndefined => "CALL_SMC_UNDEFINED"
  | contractSuccessWontRevert => "CALL_SMC_SUCCESS_WONT_REVERT"
  | contractSuccessWillRevert => "CALL_SMC_SUCCESS_WILL_REVERT"
  | contractFailureWontRevert => "CALL_SMC_FAILURE_WONT_REVERT"
  | contractFailureWillRevert => "CALL_SMC_FAILURE_WILL_REVERT"

/-- What a terminal scenario becomes once the context of its call is rolled back. -/
def willRevert? : Scenario → Option Scenario
  | abortWontRevert => some abortWillRevert
  | externalSuccessWontRevert => some externalSuccessWillRevert
  | precompileSuccessWontRevert => some precompileSuccessWillRevert
  | contractSuccessWontRevert => some contractSuccessWillRevert
  | contractFailureWontRevert => some contractFailureWillRevert
  | _ => none

/-- The scenarios that are one step ahead in the refinement order. -/
def successors : Scenario → List Scenario
  | undefined =>
      [exception, abortWontRevert, externalUndefined, precompileUndefined,
       contractUndefined]
  | externalUndefined => [externalSuccessWontRevert]
  | precompileUndefined => [precompileSuccessWontRevert, precompileFailure]
  | contractUndefined => [contractSuccessWontRevert, contractFailureWontRevert]
  | s => s.willRevert?.toList

/-- **The refinement order**, one step at a time. -/
def refines (source target : Scenario) : Bool :=
  source.successors.contains target

/-- The call is still to be resolved. -/
def isUndefined : Scenario → Bool
  | undefined | externalUndefined | precompileUndefined | contractUndefined => true
  | _ => false

def isAbort : Scenario → Bool
  | abortWontRevert | abortWillRevert => true
  | _ => false

/-- The call went to a precompile, whatever became of it. -/
def isPrecompileCall : Scenario → Bool
  | precompileUndefined | precompileSuccessWontRevert | precompileSuccessWillRevert
  | precompileFailure => true
  | _ => false

/-- The effects of the call are undone together with its context. -/
def isWillRevert : Scenario → Bool
  | abortWillRevert | externalSuccessWillRevert | precompileSuccessWillRevert
  | contractSuccessWillRevert | contractFailureWillRevert => true
  | _ => false

end Scenario

end ExecutionTrace
