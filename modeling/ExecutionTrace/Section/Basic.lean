import ExecutionTrace.Section.Call.Announced
import ExecutionTrace.Section.Call.Reactions
import ExecutionTrace.Section.Launch
import ExecutionTrace.Section.Settlement

/-!
# Sections

The three kinds of section under one type, and what each does when an event reaches it.

## Main Definitions

* `Section`, `Section.trace`
* `Occurrence` — an event with everything that a section may need to know about it
* `Section.react` — the reaction of a section to an occurrence
-/

namespace ExecutionTrace

/-- **A section of the trace.** -/
inductive Section
  /-- A transaction that executes code. -/
  | launch (s : LaunchSection)
  /-- A transaction that runs no code. -/
  | settlement (s : SettlementSection)
  /-- A call instruction. -/
  | call (s : CallSection)

namespace Section

def kind : Section → SectionKind
  | launch _ => .launch
  | settlement _ => .settlement
  | call _ => .call

def trace : Section → Trace
  | launch s => s.trace
  | settlement s => s.trace
  | call s => s.trace

def rows (s : Section) : List Row :=
  s.trace.rows

/-- The stamp of a section. -/
def stamp (s : Section) : Nat :=
  s.trace.shared.stamp

end Section

/-- **Something that happened**, with what a section may need to know about it. -/
inductive Occurrence
  /-- The transaction is over, its effects on the world included. -/
  | transactionEnd (world : WorldState) (outcome : TransactionOutcome)
  | contextEntry
  /-- A context is about to terminate, none of its effects being undone yet. -/
  | contextExit (world : WorldState) (child : Nat)
  /-- Control is back in a context after a child ended as given. -/
  | contextReEntry (world : WorldState) (context : Nat) (child : Frame)
      (outcome : ContextOutcome)
  | opcodeEnd (pushed? : Option Word)
  /-- The effects of a context are undone. -/
  | rollback (world : WorldState) (frame : Frame)
  | transactionClosed

/-- The event that sections wait for when they wait for an occurrence. -/
def Occurrence.event : Occurrence → Event
  | transactionEnd _ _ => .transactionEnd
  | contextEntry => .contextEntry
  | contextExit _ child => .contextExit child
  | contextReEntry _ context _ _ => .contextReEntry context
  | opcodeEnd _ => .opcodeEnd
  | rollback _ frame => .rollback frame.id
  | transactionClosed => .transactionClosed

namespace Section

/-- Carries a change of a value that a section holds over to the section. -/
def within {σ : Type} (wrap : σ → Section) (s : σ) (change : EStateM Violation σ Unit) :
    EStateM.Result Violation Section Unit :=
  match change s with
  | .ok _ s => .ok () (wrap s)
  | .error e s => .error e (wrap s)

/-- Carries the result of a function over to the section, which a failure leaves alone. -/
def replace {σ : Type} (wrap : σ → Section) (s : σ) (result : Except Violation σ) :
    EStateM.Result Violation Section Unit :=
  match result with
  | .ok s => .ok () (wrap s)
  | .error e => .error e (wrap s)

/-- **The reaction of a section to an occurrence.** An event that a kind of section never
waits for is a violation. -/
def react (chain : Chain) (setting : Setting) (occurrence : Occurrence) :
    EStateM Violation Section Unit := fun s =>
  match s, occurrence with
  | launch l, .contextEntry => replace launch l (l.enterRoot setting)
  | launch l, .transactionEnd _ outcome =>
      within launch l (LaunchSection.finish setting outcome)
  | settlement t, .transactionEnd world outcome =>
      replace settlement t (t.finish chain setting world outcome)
  | call c, .contextEntry => replace call c c.enterChild
  | call c, .contextExit world child =>
      replace call c (c.exitChild chain setting world child)
  | call c, .contextReEntry world _ child outcome =>
      within call c (CallSection.reEnter chain setting world child outcome)
  | call c, .opcodeEnd pushed? => replace call c (c.finishOpcode pushed?)
  | call c, .rollback world frame =>
      within call c (CallSection.rollBack chain setting world frame)
  | call c, .transactionClosed => within call c CallSection.close
  | s, occurrence => .error (.unexpectedEvent s.kind occurrence.event) s

end Section

end ExecutionTrace
