import ExecutionTrace.State.WorldState

/-!
# Transactions

A transaction as the driver announces it, the gas it pays for, and its outcome.  Amounts of
gas are priced by saturating arithmetic, so a price beyond all balances stays one.
-/

namespace ExecutionTrace

/-- **A transaction.** -/
structure Transaction where
  sender : Address := 0
  /-- The account called, or the address of the contract being deployed. -/
  recipient : Address := 0
  /-- The beneficiary of the block. -/
  coinbase : Address := 0
  value : Word := 0
  gasLimit : UInt64 := 0
  gasPrice : Word := 0
  baseFee : Word := 0
  isDeployment : Bool := false
  /-- The init code of a deployment, the call data of a message call. -/
  payload : Bytes := []
  /-- The sender is warm before the transaction starts. -/
  senderPreWarmed : Bool := false
  /-- The recipient is warm before the transaction starts. -/
  recipientPreWarmed : Bool := false
  deriving DecidableEq, Inhabited

namespace Transaction

/-- **Whether any code runs at all**: init code for a deployment, the recipient's code for a
message call. -/
def requiresExecution (tx : Transaction) (world : WorldState) : Bool :=
  if tx.isDeployment then !tx.payload.isEmpty else world.hasCode tx.recipient

/-- What the sender pays before execution starts. -/
def upfrontGasCost (tx : Transaction) : Word :=
  Word.saturatingMul tx.gasPrice (Word.ofUInt64 tx.gasLimit)

/-- What the gas used costs. -/
def gasCost (tx : Transaction) (gasUsed : UInt64) : Word :=
  Word.saturatingMul tx.gasPrice (Word.ofUInt64 gasUsed)

/-- The part of the gas cost above the base fee, which goes to the beneficiary. -/
def coinbaseReward (tx : Transaction) (gasUsed : UInt64) : Word :=
  Word.saturatingMul (Word.saturatingSub tx.gasPrice tx.baseFee) (Word.ofUInt64 gasUsed)

end Transaction

/-- How a transaction ended. -/
structure TransactionOutcome where
  success : Bool
  gasUsed : UInt64
  deriving DecidableEq, Inhabited

end ExecutionTrace
