import ExecutionTrace.Section.Setting
import ExecutionTrace.Section.Trace

/-!
# Launch sections

The section of a transaction that executes code.  What the transaction does to its sender and
recipient before any code runs is captured when it is announced; the rows are appended once
it is over and it is known whether the transfer has to be undone.

## Main Definitions

* `LaunchSection` and its three transitions
* `LaunchSection.announce` — constructs the section, and starts the deployment if it deploys
* `LaunchSection.enterRoot`, `LaunchSection.finish` — its two reactions

## Design Notes

A transaction sent to oneself receives its value on top of the debited snapshot, so the
recipient's transition starts where the sender's ended, and has to be undone first.
-/

namespace ExecutionTrace

/-- **A launch section.** -/
structure LaunchSection where
  trace : Trace
  /-- The sender before it pays for gas. -/
  sender : Snapshot
  /-- The sender after it paid for gas, warm and with its nonce raised. -/
  charged : Snapshot
  /-- The sender after the value left it. -/
  debited : Snapshot
  /-- The recipient before the value reaches it. -/
  recipient : Snapshot
  /-- The recipient after the value reached it, created if it is being deployed. -/
  credited : Snapshot
  /-- The row of the root context, from its entry to the end of the transaction. -/
  root? : Option ContextRow := none
  deriving DecidableEq

namespace LaunchSection

/-- The sender pays for gas. -/
def gasPayment (s : LaunchSection) : Transition where
  before := s.sender
  after := s.charged

/-- The value leaves the sender. -/
def valueTransfer (s : LaunchSection) : Transition where
  before := s.charged
  after := s.debited

/-- The value reaches the recipient. -/
def valueReception (s : LaunchSection) : Transition where
  before := s.recipient
  after := s.credited

/-! ## Announcement -/

/-- The events that a fresh section waits for. -/
def awaited : List Event :=
  [.contextEntry, .transactionEnd]

/-- The recipient of a deployment comes into existence with the init code as its code, and
its deployment starts. -/
def deploy (world : WorldState) (tx : Transaction) (recipient : Snapshot) :
    Construction Snapshot := do
  if recipient.nonce != 0 || world.hasCode tx.recipient then
    throw (.nonEmptyDeploymentTarget tx.recipient)
  let raised ← ofExcept recipient.raiseNonce
  let received ← ofExcept (raised.credit tx.value)
  let created := (received.withCode ⟨tx.payload⟩).warmedUp
  Construction.onIncarnations (Incarnations.start tx.recipient (some tx.payload))
  return created.withDeploymentFrom (← get).incarnations

/-- **Constructs the section of a transaction that executes code**, announced before its sender
pays for gas. -/
def announce (id : Nat) (world : WorldState) : Construction LaunchSection := do
  let desk ← get
  let tx ← ofExcept desk.transaction
  let sender := Snapshot.capture world desk.incarnations tx.sender tx.senderPreWarmed
  if sender.deploymentStatus then
    throw (.deploymentInProgress tx.sender)
  let paid ← ofExcept (sender.debit tx.upfrontGasCost)
  let charged ← ofExcept paid.warmedUp.raiseNonce
  let debited ← ofExcept (charged.debit tx.value)
  let recipient :=
    if tx.sender = tx.recipient then debited
    else Snapshot.capture world desk.incarnations tx.recipient tx.recipientPreWarmed
  if recipient.deploymentStatus then
    throw (.deploymentInProgress tx.recipient)
  let credited ←
    if tx.isDeployment then deploy world tx recipient
    else do
      let received ← ofExcept (recipient.credit tx.value)
      pure received.warmedUp
  Construction.register id awaited
  let trace := Trace.start desk.stamp 0
  return { trace, sender, charged, debited, recipient, credited }

/-! ## Reactions -/

/-- The number of the context that a transaction starts in. -/
def rootContext : Nat := 1

/-- **The root context has become active.** -/
def enterRoot (setting : Setting) (s : LaunchSection) : Except Violation LaunchSection := do
  let root ← setting.contexts.currentFrame
  if root.parent?.isSome then
    throw (.unexpectedEvent .launch .contextEntry)
  let row := .initializeRoot root.id root.entry.address root.entry.codeAddress
  return { s with root? := some row }

/-- The rows of what the transaction did before any code ran. -/
def forwardRows (s : LaunchSection) (tx : Transaction) : List AccountRow :=
  let stamp := RowStamp.forward s.trace.shared.stamp
  [s.gasPayment.trimmedRow tx.sender.toWord (stamp 0),
   s.valueTransfer.row (stamp 1),
   { s.valueReception.trimmedRow tx.recipient.toWord (stamp 2) with requiresCode := true }]

/-- **The rows that undo the transfer, and only the transfer.** The recipient stays warm, and
every snapshot carries the deployment number of now. -/
def undoingRows (s : LaunchSection) (incarnations : Incarnations) (tx : Transaction)
    (revertStamp : Nat) : List AccountRow :=
  let current := fun snapshot : Snapshot => snapshot.withNumberFrom incarnations
  let sender := (s.valueTransfer.map current).reverse
  let recipient := (s.valueReception.map current).reverse
  let recipient := { recipient with after := recipient.after.warmedUp }
  let (first, second) :=
    if tx.sender = tx.recipient then (recipient, sender) else (sender, recipient)
  let stamp := RowStamp.undoing s.trace.shared.stamp revertStamp
  [first.row (stamp 3), second.row (stamp 4)]

/-- **The transaction is over.** -/
def finish (setting : Setting) (outcome : TransactionOutcome) :
    EStateM Violation LaunchSection Unit := do
  let s ← get
  let tx ← ofExcept setting.transaction
  let append := fun rows : List Row =>
    modify fun s : LaunchSection => { s with trace := s.trace.append rows }
  match s.root? with
  | none => throw .noCurrentContext
  | some root =>
      set { s with root? := none }
      append [.misc {}, .transaction (TransactionRow.ofOutcome tx true outcome)]
      append ((s.forwardRows tx).map .account)
      unless outcome.success do
        let frame ← ofExcept (setting.contexts.get rootContext)
        append ((s.undoingRows setting.incarnations tx frame.revertStamp).map .account)
      append [.context root]

end LaunchSection

end ExecutionTrace
