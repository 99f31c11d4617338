import ExecutionTrace.Chain.Precompile
import ExecutionTrace.State.Incarnations
import ExecutionTrace.State.WorldState

/-!
# Snapshots

The observable state of one account at one instant.  Snapshots are values: a transition
yields another snapshot, so one captured at a decision point stays what it was.

## Main Definitions

* `Snapshot`
* `Snapshot.canonical`, `Snapshot.capture` — an address as world and incarnations show it
* the transitions `Snapshot.credit`, `Snapshot.debit`, `Snapshot.raiseNonce`, …
-/

namespace ExecutionTrace

/-- **One account at one instant.** -/
structure Snapshot where
  address : Address
  balance : Word
  nonce : UInt64
  code : Bytecode
  isWarm : Bool
  deploymentNumber : Nat
  deploymentStatus : Bool
  deriving DecidableEq

namespace Snapshot

/-! ## Capturing -/

/-- The snapshot of an account with the remaining observations given. -/
def ofAccount (a : Address) (account : Account) (isWarm : Bool) (number : Nat)
    (status : Bool) : Snapshot where
  address := a
  balance := account.balance
  nonce := account.nonce
  code := ⟨account.code⟩
  isWarm := isWarm
  deploymentNumber := number
  deploymentStatus := status

/-- **An address as it is now**, its warmth being given.  While a deployment is in progress
there, its code is the init code being executed. -/
def capture (world : WorldState) (incarnations : Incarnations) (a : Address)
    (isWarm : Bool) : Snapshot :=
  let found := ofAccount a (world.account a) isWarm (incarnations.number a)
    (incarnations.isDeploying a)
  match incarnations.initCode? a with
  | some initCode => { found with code := ⟨initCode⟩ }
  | none => found

/-- **An address as it is now.** Precompiles are warm by definition. -/
def canonical (chain : Chain) (world : WorldState) (incarnations : Incarnations)
    (a : Address) : Snapshot :=
  capture world incarnations a (a.isPrecompile chain || world.isWarm a)

/-! ## Transitions -/

/-- Adds an amount to the balance. -/
def credit (s : Snapshot) (amount : Word) : Except Violation Snapshot :=
  match Word.checkedAdd s.balance amount with
  | some balance => pure { s with balance }
  | none => throw (.balanceOverflow s.address s.balance amount)

/-- Takes an amount from the balance. -/
def debit (s : Snapshot) (amount : Word) : Except Violation Snapshot :=
  match Word.checkedSub s.balance amount with
  | some balance => pure { s with balance }
  | none => throw (.balanceUnderflow s.address s.balance amount)

/-- Raises the nonce by one, unless it is the largest of 64 bits. -/
def raiseNonce (s : Snapshot) : Except Violation Snapshot :=
  if s.nonce.toNat + 1 < UInt64.size then pure { s with nonce := s.nonce + 1 }
  else throw (.nonceOverflow s.address)

def withWarmth (s : Snapshot) (isWarm : Bool) : Snapshot :=
  { s with isWarm }

def warmedUp (s : Snapshot) : Snapshot :=
  s.withWarmth true

def withCode (s : Snapshot) (code : Bytecode) : Snapshot :=
  { s with code }

/-- Takes the deployment number that the address has now, keeping the status. -/
def withNumberFrom (s : Snapshot) (incarnations : Incarnations) : Snapshot :=
  { s with deploymentNumber := incarnations.number s.address }

/-- Takes the deployment number and status that the address has now. -/
def withDeploymentFrom (s : Snapshot) (incarnations : Incarnations) : Snapshot :=
  { s.withNumberFrom incarnations with
    deploymentStatus := incarnations.isDeploying s.address }

/-- Takes the deployment number and status of another snapshot, typically one captured after
a rollback. -/
def withDeploymentOf (s other : Snapshot) : Snapshot :=
  { s with
    deploymentNumber := other.deploymentNumber
    deploymentStatus := other.deploymentStatus }

end Snapshot

end ExecutionTrace
