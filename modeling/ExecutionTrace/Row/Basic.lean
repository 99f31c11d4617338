import ExecutionTrace.Announcement.Transaction
import ExecutionTrace.Row.Misc
import ExecutionTrace.Row.Stamp
import ExecutionTrace.State.Snapshot

/-!
# Rows

The atomic effects that a trace is made of.

## Main Definitions

* `StackRow`, `ContextRow`, `AccountRow`, `TransactionRow`, `MiscRow`
* `Row` — any of them, or a scenario
* `Row.account?` — the account row, where the row is one
-/

namespace ExecutionTrace

/-- **The stack effect of an instruction.** What a call pushes is only known once it has been
carried out, and is absent until then. -/
structure StackRow where
  mnemonic : String
  /-- The items consumed, top of the stack first. -/
  items : List Word
  pushed? : Option Word := none
  deriving DecidableEq

/-- Fills in what was pushed. -/
def StackRow.push (row : StackRow) (pushed : Word) : StackRow :=
  { row with pushed? := some pushed }

/-- **What is read or written of a context.** -/
inductive ContextRow
  | readCurrent (context : Nat)
  /-- The root context of a transaction that requires execution. -/
  | initializeRoot (context : Nat) (address codeAddress : Address)
  /-- A child context spawned by a call to a contract. -/
  | initializeChild (context : Nat)
  /-- The call spawned no execution, and the return data of the caller is wiped. -/
  | emptyReturnData (context : Nat)
  /-- The caller receives what a precompile returned. -/
  | updateReturnData (context source : Nat) (returnData : Bytes)
  /-- The context of a precompile hands back what it returned. -/
  | provideReturnData (context : Nat) (returnData : Bytes)
  deriving DecidableEq

/-- The context that a row is about. -/
def ContextRow.context : ContextRow → Nat
  | readCurrent c | initializeRoot c _ _ | initializeChild c | emptyReturnData c
  | updateReturnData c _ _ | provideReturnData c _ => c

/-- **A transition of one account.** -/
structure AccountRow where
  before : Snapshot
  after : Snapshot
  /-- The word that the address was trimmed from, if that is requested. -/
  trimmedFrom? : Option Word := none
  /-- The code of the account has to be looked up. -/
  requiresCode : Bool := false
  stamp : RowStamp
  deriving DecidableEq

/-- The account that a row is about. -/
def AccountRow.address (row : AccountRow) : Address :=
  row.before.address

/-- **The settlement of a transaction.** -/
structure TransactionRow where
  sender : Address
  recipient : Address
  coinbase : Address
  value : Word
  gasLimit : UInt64
  gasPrice : Word
  isDeployment : Bool
  requiresExecution : Bool
  success : Bool
  gasUsed : UInt64
  coinbaseReward : Word
  deriving DecidableEq

/-- The row of a transaction that ended as given. -/
def TransactionRow.ofOutcome (tx : Transaction) (requiresExecution : Bool)
    (outcome : TransactionOutcome) : TransactionRow where
  sender := tx.sender
  recipient := tx.recipient
  coinbase := tx.coinbase
  value := tx.value
  gasLimit := tx.gasLimit
  gasPrice := tx.gasPrice
  isDeployment := tx.isDeployment
  requiresExecution := requiresExecution
  success := outcome.success
  gasUsed := outcome.gasUsed
  coinbaseReward := tx.coinbaseReward outcome.gasUsed

/-- **A row of the trace.** -/
inductive Row
  | stack (row : StackRow)
  | scenario (scenario : Scenario)
  | context (row : ContextRow)
  | misc (row : MiscRow)
  | account (row : AccountRow)
  | transaction (row : TransactionRow)
  deriving DecidableEq

/-- The account row, where the row is one. -/
def Row.account? : Row → Option AccountRow
  | account row => some row
  | _ => none

end ExecutionTrace
