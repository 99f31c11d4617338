import ExecutionTrace.Tracer

/-!
# The scripted machine

A machine that carries out a script of transactions and calls against a world state, and
announces to a tracer everything it goes through.

## Main Definitions

* `Fault` — what can go wrong: the tracer finds a violation, or the script asks for something
  that the machine cannot do
* `Machine` — the tracer, the world and what the machine remembers
* `Machine.beginTransaction`, `Machine.call`, `Machine.finishContext`,
  `Machine.endTransaction` — the steps of a script
* `Machine.abortingConditions` — what the machine announces of a call by itself
* `Script.messageCall`, `Script.deployment` — the transactions that scripts are made of unless
  they say otherwise

## Design Notes

The machine executes no code.  The contexts of precompiles and of accounts without code end
as soon as they are entered; the context of a contract stays active until the script finishes
it.  A checkpoint of the world is kept for every context from just before the transfer that
starts it, and a failed context puts its checkpoint back.

A step that fails leaves behind what it had done by then.
-/

namespace ExecutionTrace

/-- **A fault.** -/
inductive Fault
  /-- The tracer refused an announcement. -/
  | violation (violation : Violation)
  | cannotPay (address : Address) (amount balance : Word)
  /-- A context is being finished that the machine did not start. -/
  | noCheckpoint
  | noTransaction
  /-- The transaction is to end while its root context is active. -/
  | rootRunning
  deriving DecidableEq, Repr

/-- **The scripted machine.** -/
structure Machine where
  tracer : Tracer := {}
  world : WorldState := {}
  /-- The world before the transfer of each active context, the innermost first. -/
  checkpoints : List WorldState := []
  /-- How given precompiles end, instead of handing back their call data. -/
  precompileOutcomes : Std.TreeMap Address ContextOutcome := ∅
  /-- The transaction in progress. -/
  transaction? : Option Transaction := none
  /-- The transaction in progress, or the last one, runs no code. -/
  skipped : Bool := false

/-- A step of a script: it changes the machine, and may fail half-way. -/
abbrev Step := EStateM Fault Machine

namespace Machine

/-- A machine in a world of the accounts listed, with no transaction in progress. -/
def ofAccounts (accounts : List (Address × Account)) : Machine :=
  { world := WorldState.ofList accounts }

/-- Lets a precompile end as given. -/
def withPrecompileOutcome (m : Machine) (a : Address) (outcome : ContextOutcome) : Machine :=
  { m with precompileOutcomes := m.precompileOutcomes.insert a outcome }

/-! ## The parts of a step -/

/-- Makes an announcement to the tracer. -/
def announce {α : Type} (announcement : Announcement α) : Step α := fun m =>
  match announcement m.tracer with
  | .ok a tracer => .ok a { m with tracer }
  | .error v tracer => .error (.violation v) { m with tracer }

/-- Continues with a result, unless it is a violation. -/
def ofResult {α : Type} : Except Violation α → Step α
  | .ok a => pure a
  | .error v => throw (.violation v)

/-- Changes the world. -/
def modifyWorld (change : WorldState → WorldState) : Step Unit :=
  modify fun m => { m with world := change m.world }

/-- Takes an amount from a balance, which has to suffice. -/
def debit (a : Address) (amount : Word) : Step Unit := do
  let world := (← get).world
  match world.debit? a amount with
  | some debited => modifyWorld fun _ => debited
  | none => throw (.cannotPay a amount (world.balance a))

/-- Adds an amount to a balance. -/
def credit (a : Address) (amount : Word) : Step Unit :=
  modifyWorld (·.credit a amount)

/-- Keeps the present world for the context about to start. -/
def pushCheckpoint : Step Unit :=
  modify fun m => { m with checkpoints := m.world :: m.checkpoints }

/-- The world kept for the context that has just ended. -/
def popCheckpoint : Step WorldState := do
  match (← get).checkpoints with
  | [] => throw .noCheckpoint
  | checkpoint :: rest =>
      modify fun m => { m with checkpoints := rest }
      return checkpoint

/-- The frame of the active context. -/
def currentFrame : Step Frame := do
  ofResult (← get).tracer.contexts.currentFrame

/-- The number of the active context. -/
def currentContext : Step Nat :=
  return (← currentFrame).id

/-! ## Starting a transaction -/

/-- **Starts a transaction.** One that runs code pays for its gas, moves its value and enters
its root context; one that runs none waits for its end. -/
def beginTransaction (chain : Chain) (tx : Transaction) : Step Nat := do
  let id ← announce (Tracer.beginTransaction chain (← get).world tx)
  let skipped := !tx.requiresExecution (← get).world
  modify fun m => { m with skipped, transaction? := some tx }
  if skipped then
    return id
  modifyWorld (·.warmUp tx.sender)
  modifyWorld (·.warmUp tx.recipient)
  debit tx.sender tx.upfrontGasCost
  modifyWorld (·.raiseNonce tx.sender)
  pushCheckpoint
  debit tx.sender tx.value
  credit tx.recipient tx.value
  if tx.isDeployment then
    modifyWorld (·.raiseNonce tx.recipient)
  let entry : ContextEntry :=
    { address := tx.recipient
      codeAddress := tx.recipient
      caller := tx.sender
      value := tx.value
      isDeployment := tx.isDeployment }
  let _ ← announce (Tracer.enterContext chain entry)
  return id

/-! ## Finishing a context -/

/-- **Finishes the active context.** The effects of a failed context are undone; then control
returns to its parent.  The output of a deployment's root context becomes the code of its
account. -/
def finishContext (chain : Chain) (outcome : ContextOutcome) : Step Nat := do
  let id ← announce (Tracer.exitContext chain (← get).world outcome)
  let checkpoint ← popCheckpoint
  unless outcome.success do
    modifyWorld fun _ => checkpoint
    announce (Tracer.rollBack chain checkpoint id)
  let frame ← ofResult ((← get).tracer.contexts.get id)
  if frame.parent?.isSome then
    let top := Word.ofBool outcome.success
    announce (Tracer.reEnterContext chain (← get).world top)
  else if outcome.success && frame.entry.isDeployment then
    modifyWorld (·.setCode frame.entry.address outcome.output)
  return id

/-! ## Calling -/

/-- **The aborting conditions** of an instruction in the active context. -/
def abortingConditions (i : Invocation) : Step AbortFlags := do
  let frame ← currentFrame
  let balance := (← get).world.balance frame.entry.address
  let value ← ofResult i.value
  let unaffordable := AbortFlags.insufficientBalance.when (balance.toNat < value.toNat)
  let tooDeep := AbortFlags.callStackOverflow.when (maxCallDepth ≤ frame.depth)
  return unaffordable.union tooDeep

/-- How the context of a call ends without the script finishing it: a precompile ends as it
has been told or hands back its call data, and an account without code puts out nothing.  The
context of a contract does not end by itself. -/
def immediateOutcome? (chain : Chain) (m : Machine) (callee : Address) (callData : Bytes) :
    Option ContextOutcome :=
  if callee.isPrecompile chain then
    some (m.precompileOutcomes.getD callee (.succeeded callData))
  else if m.world.hasCode callee then none
  else some (.succeeded [])

/-- The account that the context of a call acts on. -/
def actingAddress (kind : CallKind) (caller callee : Address) : Address :=
  match kind with
  | .call | .staticCall => callee
  | .callCode | .delegateCall => caller

/-- Carries out an unexceptional call that does not abort. -/
def spawn (chain : Chain) (i : Invocation) (caller callee : Address) (value : Word) :
    Step Unit := do
  pushCheckpoint
  if i.kind.movesValue then
    debit caller value
    credit callee value
  let entry : ContextEntry :=
    { address := actingAddress i.kind caller callee
      codeAddress := callee
      caller
      value }
  let _ ← announce (Tracer.enterContext chain entry)
  match (← get).immediateOutcome? chain callee i.callData with
  | some outcome => let _ ← finishContext chain outcome
  | none => pure ()

/-- **Carries out a call instruction** in the active context.  An instruction without
exceptions is announced with the aborting conditions that the machine finds. -/
def call (chain : Chain) (announced : Invocation) : Step Nat := do
  let i ←
    if announced.exceptions.any then pure announced
    else do
      let found ← abortingConditions announced
      pure { announced with aborts := announced.aborts.union found }
  let id ← announce (Tracer.announceCall chain (← get).world i)
  if i.exceptions.any then
    return id
  let caller := (← currentFrame).entry.address
  let callee ← ofResult i.callee
  let value ← ofResult i.value
  modifyWorld (·.warmUp callee)
  if i.aborts.any then
    announce (Tracer.finishOpcode chain (some 0))
  else
    spawn chain i caller callee value
  return id

/-! ## Ending a transaction -/

/-- The whole effect of a transaction that runs no code. -/
def settle (tx : Transaction) (gasUsed : UInt64) : Step Unit := do
  debit tx.sender (Word.saturatingAdd tx.value (tx.gasCost gasUsed))
  modifyWorld (·.raiseNonce tx.sender)
  credit tx.recipient tx.value
  if tx.isDeployment then
    modifyWorld (·.setNonce tx.recipient 1)

/-- Refunds what a transaction paid for gas without using it, and returns how its root
context ended. -/
def refund (tx : Transaction) (gasUsed : UInt64) : Step Bool := do
  let root ← ofResult ((← get).tracer.contexts.get LaunchSection.rootContext)
  match root.outcome? with
  | none => throw .rootRunning
  | some outcome =>
      credit tx.sender (Word.saturatingSub tx.upfrontGasCost (tx.gasCost gasUsed))
      return outcome.success

/-- **Ends the transaction in progress**: settles gas, rewards the beneficiary and closes the
transaction, after which nothing is warm. -/
def endTransaction (chain : Chain) (gasUsed : UInt64) : Step Unit := do
  match (← get).transaction? with
  | none => throw .noTransaction
  | some tx =>
      modify fun m => { m with transaction? := none }
      let success ←
        if (← get).skipped then do
          settle tx gasUsed
          pure true
        else refund tx gasUsed
      credit tx.coinbase (tx.coinbaseReward gasUsed)
      announce (Tracer.endTransaction chain (← get).world { success, gasUsed })
      modifyWorld (·.coolDown)

end Machine

/-! ## Sample transactions -/

namespace Script


/-- The account that sends transactions. -/
def sender : Address := 0x2c7536e3605d9c16a7a3d7b1898e529396a65c23

/-- The beneficiary of every block. -/
def coinbase : Address := 0x8943545177806ed17b9f23f0a21ee5948ecaa776

/-- A price in gwei. -/
def gwei (amount : Word) : Word :=
  (Denomination.gweiToWei amount).getD 0

/-- A message call with a gas limit of 100 000 at 10 gwei, 3 of which go to the
beneficiary. -/
def messageCall (sender recipient : Address) (value : Word) : Transaction where
  sender := sender
  recipient := recipient
  coinbase := coinbase
  value := value
  gasLimit := 100000
  gasPrice := gwei 10
  baseFee := gwei 7

/-- A deployment without value, on the same terms. -/
def deployment (sender recipient : Address) (initCode : Bytes) : Transaction :=
  { messageCall sender recipient 0 with
    isDeployment := true
    payload := initCode }

end Script

end ExecutionTrace
