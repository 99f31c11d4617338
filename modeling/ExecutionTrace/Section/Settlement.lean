import ExecutionTrace.Section.Setting
import ExecutionTrace.Section.Trace

/-!
# Settlement sections

The section of a transaction that runs no code at all: a message call to an account without
code, or a deployment with empty init code.

## Main Definitions

* `SettlementSection` — sender, recipient and beneficiary before the transaction
* `SettlementSection.announce` — constructs the section, and counts the deployment if it deploys
* `SettlementSection.settle` — the three transitions once the transaction is over
* `SettlementSection.finish` — its only reaction

## Design Notes

Three transitions lead from the snapshots captured at the announcement to the accounts of the
final world, and they share accounts whenever two of the addresses coincide.  The sender's
transition comes first, so where the sender coincides with another its end is computed
forwards.  The beneficiary's comes last, so where it coincides with another its start is
computed backwards, by taking the reward away from its end.
-/

namespace ExecutionTrace

/-- **A settlement section.** -/
structure SettlementSection where
  trace : Trace
  sender : Snapshot
  recipient : Snapshot
  coinbase : Snapshot
  deriving DecidableEq

namespace SettlementSection

def senderIsRecipient (s : SettlementSection) : Bool :=
  s.sender.address == s.recipient.address

def senderIsCoinbase (s : SettlementSection) : Bool :=
  s.sender.address == s.coinbase.address

def recipientIsCoinbase (s : SettlementSection) : Bool :=
  s.recipient.address == s.coinbase.address

/-- Two of the three addresses coincide. -/
def addressesCollide (s : SettlementSection) : Bool :=
  s.senderIsRecipient || s.senderIsCoinbase || s.recipientIsCoinbase

/-- An address as it is now.  Nothing but a precompile is warm outside of execution. -/
def capture (chain : Chain) (world : WorldState) (incarnations : Incarnations)
    (a : Address) : Snapshot :=
  Snapshot.capture world incarnations a (a.isPrecompile chain)

/-! ## Announcement -/

/-- The events that a fresh section waits for. -/
def awaited : List Event :=
  [.transactionEnd]

/-- **Constructs the section of a transaction that runs no code.** Its recipient is no
precompile, its sender exists and has no code, and nothing is being deployed at any of its
addresses. -/
def announce (chain : Chain) (id : Nat) (world : WorldState) :
    Construction SettlementSection := do
  let desk ← get
  let tx ← ofExcept desk.transaction
  if tx.recipient.isPrecompile chain then
    throw (.recipientIsPrecompile tx.recipient)
  if (world.account? tx.sender).all (·.hasCode) then
    throw (.invalidSkippedSender tx.sender)
  let sender := capture chain world desk.incarnations tx.sender
  let recipient := capture chain world desk.incarnations tx.recipient
  let coinbase := capture chain world desk.incarnations tx.coinbase
  if let some found := [sender, recipient, coinbase].find? (·.deploymentStatus) then
    throw (.deploymentInProgress found.address)
  if tx.isDeployment then
    Construction.onIncarnations (Incarnations.start tx.recipient none)
  Construction.register id awaited
  let trace := Trace.start desk.stamp 0
  return { trace, sender, recipient, coinbase }

/-! ## Settlement -/

/-- The transition of the sender: to its account in the final world, or, where it coincides
with another party, to what paying makes of it. -/
def settleSender (s : SettlementSection) (tx : Transaction) (gasUsed : UInt64)
    (final : Snapshot) : Except Violation Transition := do
  if s.senderIsRecipient || s.senderIsCoinbase then
    let paid ← s.sender.debit tx.value
    let charged ← paid.debit (tx.gasCost gasUsed)
    return ⟨s.sender, ← charged.raiseNonce⟩
  else
    return ⟨s.sender, final⟩

/-- The transition of the recipient.  Where it is the sender it goes on from the sender's;
where it is the beneficiary it leads up to the reward. -/
def settleRecipient (s : SettlementSection) (tx : Transaction) (reward : Word)
    (sender : Transition) (final coinbase : Snapshot) : Except Violation Transition := do
  if s.senderIsRecipient then
    return ⟨sender.after, ← sender.after.credit tx.value⟩
  else if s.recipientIsCoinbase then
    let unrewarded ← coinbase.debit reward
    return ⟨← unrewarded.debit tx.value, unrewarded⟩
  else
    return ⟨s.recipient, final⟩

/-- The transition of the beneficiary to its account in the final world. -/
def settleCoinbase (s : SettlementSection) (reward : Word) (final : Snapshot) :
    Except Violation Transition := do
  if s.senderIsCoinbase || s.recipientIsCoinbase then
    return ⟨← final.debit reward, final⟩
  else
    return ⟨s.coinbase, final⟩

/-- **The transitions of sender, recipient and beneficiary**, in this order. -/
def settle (chain : Chain) (world : WorldState) (incarnations : Incarnations)
    (tx : Transaction) (gasUsed : UInt64) (s : SettlementSection) :
    Except Violation (List Transition) := do
  let final := fun snapshot : Snapshot => capture chain world incarnations snapshot.address
  let reward := tx.coinbaseReward gasUsed
  let sender ← s.settleSender tx gasUsed (final s.sender)
  let recipient ← s.settleRecipient tx reward sender (final s.recipient) (final s.coinbase)
  let coinbase ← s.settleCoinbase reward (final s.coinbase)
  return [sender, recipient, coinbase]

/-- **The transaction is over.** -/
def finish (chain : Chain) (setting : Setting) (world : WorldState)
    (outcome : TransactionOutcome) (s : SettlementSection) :
    Except Violation SettlementSection := do
  unless outcome.success do
    throw .unsuccessfulSkippedTransaction
  let tx ← setting.transaction
  let transitions ← s.settle chain world setting.incarnations tx outcome.gasUsed
  let rows := transitions.zipIdx.map fun (t, offset) =>
    t.trimmedRow t.before.address.toWord (.forward s.trace.shared.stamp offset)
  let summary := TransactionRow.ofOutcome tx false outcome
  return { s with trace := s.trace.append (rows.map .account ++ [.transaction summary]) }

end SettlementSection

end ExecutionTrace
