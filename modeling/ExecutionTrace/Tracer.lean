import ExecutionTrace.Context.Agenda
import ExecutionTrace.Section.Basic

/-!
# The tracer

The state that a driver builds a trace in, and the announcements it makes in order of
execution.

## Main Definitions

* `Tracer` — the desk that sections are constructed on, and the sections so far
* `Tracer.beginTransaction`, `Tracer.announceCall` — construct sections
* `Tracer.enterContext`, `Tracer.exitContext`, `Tracer.rollBack`, `Tracer.reEnterContext`,
  `Tracer.finishOpcode`, `Tracer.endTransaction` — let sections react
* `Tracer.fire` — hands an occurrence to every section that waits for its event

## Design Notes

An announcement that fails leaves behind whatever it had changed before it failed, so
announcements are state transformers whose failure carries the state along.  In particular
the sections waiting for an event are taken off the agenda before the first of them reacts,
and a failing reaction is the last one: each section waiting for an event sees it at most
once.

Every announcement that constructs a section raises the stamp first, even when it is rejected
afterwards.  The section goes under construction with the number that it is about to get, puts
itself on the agenda under that number, and joins the others when it is complete.
-/

namespace ExecutionTrace

/-- **The tracer.** Sections are known by their position among all sections. -/
structure Tracer extends Desk where
  sections : Array Section := Array.empty

/-- An announcement: it changes the tracer, and may fail half-way. -/
abbrev Announcement := EStateM Violation Tracer

namespace Tracer

/-! ## Reading a tracer -/

/-- The section with a given number. -/
def section? (t : Tracer) (id : Nat) : Except Violation Section :=
  match t.sections[id]? with
  | some s => pure s
  | none => throw (.unknownSection id)

/-- **The trace so far**, section after section. -/
def rows (t : Tracer) : List Row :=
  t.sections.toList.flatMap Section.rows

/-- A section waits for no further event. -/
def isResolved (t : Tracer) (id : Nat) : Bool :=
  t.agenda.pending id == 0

/-! ## Handing occurrences to sections -/

/-- Lets the sections listed react one after the other, up to the first failure. -/
def reactAll (reaction : EStateM Violation Section Unit) :
    List Nat → EStateM Violation (Array Section) Unit
  | [] => pure ()
  | id :: rest => fun sections =>
      if h : id < sections.size then
        match reaction sections[id] with
        | .ok _ s => reactAll reaction rest (sections.set id s)
        | .error e s => .error e (sections.set id s)
      else .error (.unknownSection id) sections

/-- **Hands an occurrence to every section that waits for its event**, in the order in which
they started to wait. -/
def fire (chain : Chain) (occurrence : Occurrence) : Announcement Unit := fun t =>
  let (waiting, agenda) := t.agenda.take occurrence.event
  match reactAll (Section.react chain t.toSetting occurrence) waiting t.sections with
  | .ok _ sections => .ok () { t with agenda, sections }
  | .error e sections => .error e { t with agenda, sections }

/-- **Constructs a section**, which changes nothing but the desk. -/
def construct {α : Type} (construction : Construction α) : Announcement α :=
  onPart (fun t : Tracer => t.toDesk) (fun t desk => { t with toDesk := desk }) construction

/-- Lets a section join the others. -/
def addSection (s : Section) : Announcement Unit :=
  modify fun t => { t with sections := t.sections.push s }

/-- Fails unless a transaction is being traced. -/
def requireTransaction : Announcement Unit := do
  let _ ← ofExcept (← get).transaction

/-! ## Transactions -/

/-- **Forgets everything**, the numbers of deployments included. -/
def startConflation : Announcement Unit :=
  set ({} : Tracer)

/-- **A transaction starts.** `world` is the state before its sender pays for gas. -/
def beginTransaction (chain : Chain) (world : WorldState) (tx : Transaction) :
    Announcement Nat := do
  modify fun t =>
    { t with
      stamp := t.stamp + 1
      contexts := t.contexts.reset
      transaction? := some tx }
  let id := (← get).sections.size
  if tx.requiresExecution world then
    let s ← construct (LaunchSection.announce id world)
    addSection (.launch s)
  else
    let s ← construct (SettlementSection.announce chain id world)
    addSection (.settlement s)
  return id

/-- **A transaction is over.** `world` is the state with refunds and rewards paid.  What is
still on the agenda afterwards, rollbacks that never happened for the most part, is
dropped. -/
def endTransaction (chain : Chain) (world : WorldState) (outcome : TransactionOutcome) :
    Announcement Unit := do
  requireTransaction
  fire chain (.transactionEnd world outcome)
  fire chain .transactionClosed
  modify fun t => { t with agenda := t.agenda.clear.2, transaction? := none }

/-! ## Calls -/

/-- **A call instruction is about to execute.** `world` is the state before it does. -/
def announceCall (chain : Chain) (world : WorldState) (i : Invocation) :
    Announcement Nat := do
  requireTransaction
  modify fun t => { t with stamp := t.stamp + 1 }
  let id := (← get).sections.size
  let c ← construct (CallSection.announce chain id world i)
  addSection (.call c)
  return id

/-- **The instruction being traced has executed**, leaving a word on the stack or none. -/
def finishOpcode (chain : Chain) (pushed? : Option Word) : Announcement Unit :=
  fire chain (.opcodeEnd pushed?)

/-! ## Contexts -/

/-- **A context has become active**, as a child of the one active before, if any. -/
def enterContext (chain : Chain) (entry : ContextEntry) : Announcement Nat := do
  requireTransaction
  let id := (← get).contexts.nextId
  modify fun t => { t with contexts := t.contexts.enter entry }
  fire chain .contextEntry
  return id

/-- **The active context is about to terminate.** `world` is the state before any of its
effects are undone.  A deployment ends with the context that runs its constructor. -/
def exitContext (chain : Chain) (world : WorldState) (outcome : ContextOutcome) :
    Announcement Nat := do
  let frame ← ofExcept (← get).contexts.currentFrame
  fire chain (.contextExit world frame.id)
  let (contexts, id) ← ofExcept ((← get).contexts.exit outcome)
  modify fun t => { t with contexts }
  let address := frame.entry.address
  if frame.entry.isDeployment && (← get).incarnations.isDeploying address then
    construct (Construction.onIncarnations (Incarnations.stop address))
  return id

/-- **A failed context has had its effects undone**, with those of all contexts below it.
`world` is the state after that. -/
def rollBack (chain : Chain) (world : WorldState) (context : Nat) : Announcement Unit := do
  let frame ← ofExcept ((← get).contexts.get context)
  unless frame.hasFailed do
    throw (.rollbackOfSuccessfulContext context)
  let contexts ← ofExcept ((← get).contexts.markReverted context (← get).stamp)
  modify fun t => { t with contexts }
  let undone ← ofExcept (contexts.subtree context)
  undone.forM fun id => do
    let frame ← ofExcept (contexts.get id)
    fire chain (.rollback world frame)

/-- The word on a stack as a success bit. -/
def successBit (top : Word) : Except Violation Bool :=
  if top = 0 then pure false
  else if top = 1 then pure true
  else throw (.invalidSuccessBit top)

/-- The child that the active context has just got control back from, and how it ended. -/
def returnedChild (contexts : ContextTree) (frame : Frame) :
    Except Violation (Frame × ContextOutcome) := do
  match frame.lastChild? with
  | none => throw (.unknownContext contexts.nextId)
  | some id =>
      let child ← contexts.get id
      match child.outcome? with
      | some outcome => return (child, outcome)
      | none => throw (.unknownContext id)

/-- **Control is back in the active context** after its last child ended.  The success bit
must be on the caller's stack already, and is compared with the outcome of the child. -/
def reEnterContext (chain : Chain) (world : WorldState) (top : Word) :
    Announcement Unit := do
  let bit ← ofExcept (successBit top)
  let contexts := (← get).contexts
  let frame ← ofExcept contexts.currentFrame
  let (child, outcome) ← ofExcept (returnedChild contexts frame)
  if outcome.success != bit then
    throw (.successBitMismatch child.id bit)
  fire chain (.contextReEntry world frame.id child outcome)

end Tracer

end ExecutionTrace
