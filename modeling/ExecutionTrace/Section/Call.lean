import ExecutionTrace.Section.PrecompileRun
import ExecutionTrace.Section.Setting
import ExecutionTrace.Section.Trace

/-!
# Call sections

The section of one call instruction: what it knows, and the rows it shows.

## Main Definitions

* `Parties` — caller and callee at one instant
* `CallSection.Opens`, `CallSection` — a section, whose rows open as those of every call do
* `CallSection.append`, `CallSection.push`, `CallSection.withScenario` — what becomes of the rows
* `CallSection.forwardRows`, `CallSection.undoingRows` — the account rows of the parties
* `CallSection.advance` — a step in the refinement order of scenarios

## Design Notes

A section keeps its scenario twice: beside its rows, where its reactions look, and in the second of
them, which is rewritten whenever the scenario moves on.  The first row is rewritten once it is
known what the instruction pushed.  That the two copies agree is part of what a section is, so
every change of one has to prove that it changes the other.
-/

namespace ExecutionTrace

/-- **Caller and callee**, seen at the same instant. -/
structure Parties where
  caller : Snapshot
  callee : Snapshot
  deriving DecidableEq

/-- The parties of a call as they are now. -/
def Parties.canonical (chain : Chain) (world : WorldState) (incarnations : Incarnations)
    (caller callee : Address) : Parties where
  caller := Snapshot.canonical chain world incarnations caller
  callee := Snapshot.canonical chain world incarnations callee

namespace CallSection

/-! ## The first rows -/

/-- The four rows that every call section starts with. -/
def opening (kind : CallKind) (items : List Word) (pushed? : Option Word) (scenario : Scenario)
    (context : Nat) (misc : MiscRow) : List Row :=
  [.stack { mnemonic := kind.mnemonic, items, pushed? },
   .scenario scenario,
   .context (.readCurrent context),
   .misc misc]

/-- **A trace opens as that of a call**: with the stack of the instruction, the scenario, the
current context and the module calls. -/
def Opens (kind : CallKind) (scenario : Scenario) (t : Trace) : Prop :=
  ∃ items pushed? misc body,
    t.rows = opening kind items pushed? scenario t.shared.context misc ++ body

/-- The index of the row that shows the stack. -/
def stackIndex : Nat := 0

/-- The index of the row that shows the scenario. -/
def scenarioIndex : Nat := 1

/-- Fills in what was pushed, where the row shows the stack. -/
def pushing (w : Word) : Row → Row
  | .stack row => .stack (row.push w)
  | row => row

/-- Replaces the scenario, where the row shows it. -/
def showing (scenario : Scenario) : Row → Row
  | .scenario _ => .scenario scenario
  | row => row

namespace Opens

variable {kind : CallKind} {scenario : Scenario} {t : Trace}

theorem append (opens : Opens kind scenario t) (rows : List Row) :
    Opens kind scenario (t.append rows) := by
  obtain ⟨items, pushed?, misc, body, shown⟩ := opens
  exact ⟨items, pushed?, misc, body ++ rows, by simp [Trace.append, shown]⟩

theorem push (opens : Opens kind scenario t) (w : Word) :
    Opens kind scenario (t.update stackIndex (pushing w)) := by
  obtain ⟨items, pushed?, misc, body, shown⟩ := opens
  exact ⟨items, some w, misc, body, by rw [Trace.update, shown]; rfl⟩

theorem withScenario (opens : Opens kind scenario t) (target : Scenario) :
    Opens kind target (t.update scenarioIndex (showing target)) := by
  obtain ⟨items, pushed?, misc, body, shown⟩ := opens
  exact ⟨items, pushed?, misc, body, by rw [Trace.update, shown]; rfl⟩

theorem withShared (opens : Opens kind scenario t) {shared : SharedValues}
    (same : shared.context = t.shared.context) : Opens kind scenario { t with shared } := by
  obtain ⟨items, pushed?, misc, body, shown⟩ := opens
  exact ⟨items, pushed?, misc, body, by rw [shown, same]⟩

end Opens

end CallSection

/-- **A call section.** -/
structure CallSection where
  trace : Trace
  kind : CallKind
  scenario : Scenario
  opens : CallSection.Opens kind scenario trace
  caller : Address
  callee : Address := 0
  /-- The callee as it stands on the stack. -/
  rawCallee : Word := 0
  value : Word := 0
  callDataSpan : Span := {}
  returnSpan : Span := {}
  run? : Option PrecompileRun := none
  /-- The last row, until it is appended. -/
  closing? : Option ContextRow := none
  /-- The parties just before the instruction. -/
  before? : Option Parties := none
  /-- The parties just after the instruction. -/
  after? : Option Parties := none
  /-- The parties when the child context is about to terminate. -/
  childExit? : Option Parties := none
  /-- The parties when control is back in the caller. -/
  reEntry? : Option Parties := none
  /-- The parties after a rollback of the caller. -/
  rolledBack? : Option Parties := none
  deriving DecidableEq

namespace CallSection

/-! ## Rows -/

/-- The values that all rows of the section share. -/
def shared (c : CallSection) : SharedValues :=
  c.trace.shared

/-- **The rows of a call section.** -/
def rows (c : CallSection) : List Row :=
  c.trace.rows

/-- The four rows that the section starts with. -/
def prequel (c : CallSection) : List Row :=
  c.rows.take 4

/-- The rows after the fourth. -/
def body (c : CallSection) : List Row :=
  c.rows.drop 4

/-- The first row. -/
def stackRow (c : CallSection) : StackRow :=
  match c.rows with
  | .stack row :: _ => row
  | _ => { mnemonic := c.kind.mnemonic, items := [] }

/-- The stack of the instruction, top first. -/
def stack (c : CallSection) : List Word :=
  c.stackRow.items

/-- What the instruction pushed, once it is known. -/
def pushed? (c : CallSection) : Option Word :=
  c.stackRow.pushed?

/-- The module calls of the fourth row. -/
def misc (c : CallSection) : MiscRow :=
  match c.rows with
  | _ :: _ :: _ :: .misc row :: _ => row
  | _ => {}

/-- Appends rows. -/
def append (c : CallSection) (rows : List Row) : CallSection :=
  { c with trace := c.trace.append rows, opens := c.opens.append rows }

/-- Fills in what the instruction pushed. -/
def push (c : CallSection) (w : Word) : CallSection :=
  { c with trace := c.trace.update stackIndex (pushing w), opens := c.opens.push w }

/-- Changes the scenario, and with it the row that shows it. -/
def withScenario (c : CallSection) (target : Scenario) : CallSection :=
  { c with
    scenario := target
    trace := c.trace.update scenarioIndex (showing target)
    opens := c.opens.withScenario target }

/-- Changes the shared values, but not the context. -/
def withShared (c : CallSection) (shared : SharedValues)
    (same : shared.context = c.shared.context) : CallSection :=
  { c with trace := { c.trace with shared }, opens := c.opens.withShared same }

/-! ### What the rows say -/

theorem rows_eq (c : CallSection) : c.rows = c.prequel ++ c.body :=
  (List.take_append_drop 4 c.rows).symm

/-- **The first rows show the instruction, the scenario and the context.** -/
theorem prequel_eq (c : CallSection) :
    c.prequel = opening c.kind c.stack c.pushed? c.scenario c.shared.context c.misc := by
  obtain ⟨items, pushed?, misc, body, shown⟩ := c.opens
  simp [prequel, stack, CallSection.pushed?, CallSection.misc, stackRow, rows, shared, opening,
    shown]

/-- What appended rows leave of the first ones. -/
@[simp]
theorem append_shows (c : CallSection) (appended : List Row) :
    (c.append appended).stack = c.stack ∧ (c.append appended).pushed? = c.pushed? ∧
      (c.append appended).misc = c.misc ∧ (c.append appended).body = c.body ++ appended := by
  obtain ⟨items, pushed?, misc, body, shown⟩ := c.opens
  simp [stack, CallSection.pushed?, CallSection.misc, CallSection.body, stackRow, rows, append,
    Trace.append, opening, shown]

/-- What is pushed shows in the first row and nowhere else. -/
@[simp]
theorem push_shows (c : CallSection) (w : Word) :
    (c.push w).stack = c.stack ∧ (c.push w).pushed? = some w ∧ (c.push w).misc = c.misc ∧
      (c.push w).body = c.body := by
  obtain ⟨items, pushed?, misc, body, shown⟩ := c.opens
  simp [stack, CallSection.pushed?, CallSection.misc, CallSection.body, stackRow, rows, push,
    Trace.update, opening, stackIndex, pushing, StackRow.push, shown]

/-- A change of the scenario shows in the second row and nowhere else. -/
@[simp]
theorem withScenario_shows (c : CallSection) (target : Scenario) :
    (c.withScenario target).stack = c.stack ∧ (c.withScenario target).pushed? = c.pushed? ∧
      (c.withScenario target).misc = c.misc ∧ (c.withScenario target).body = c.body := by
  obtain ⟨items, pushed?, misc, body, shown⟩ := c.opens
  simp [stack, CallSection.pushed?, CallSection.misc, CallSection.body, stackRow, rows,
    withScenario, Trace.update, opening, scenarioIndex, shown]

@[simp]
theorem append_nil (c : CallSection) : c.append [] = c := by
  cases c
  simp [append, Trace.append]

theorem append_append (c : CallSection) (rows rows' : List Row) :
    (c.append rows).append rows' = c.append (rows ++ rows') := by
  simp [append, Trace.append]

theorem withScenario_self (c : CallSection) : c.withScenario c.scenario = c := by
  have same : c.trace.update scenarioIndex (showing c.scenario) = c.trace := by
    obtain ⟨items, pushed?, misc, body, shown⟩ := c.opens
    rw [Trace.update, shown]
    refine congrArg (Trace.mk c.trace.shared) ?_
    exact Eq.trans rfl shown.symm
  cases c
  simp only [withScenario] at same ⊢
  simp only [same]

/-! ## Account rows -/

/-- The call moves a nonzero value from an account to itself. -/
def isSelfTransfer (c : CallSection) : Bool :=
  c.kind.movesValue && c.caller == c.callee && c.value != 0

/-- **The callee's side of a transfer.** In a self-transfer the callee is the caller, already
debited, and is credited back to where it started. -/
def calleeTransition (c : CallSection) (before after : Parties) : Transition :=
  if c.isSelfTransfer then { before := after.caller, after := before.caller }
  else { before := before.callee, after := after.callee }

/-- **The two rows that show what the call did to its parties.** The callee's row requests
the trimming of the word it was called by and, where its code is about to execute, the
look-up of that code. -/
def forwardRows (c : CallSection) (caller callee : Transition) (executes : Bool) :
    List AccountRow :=
  [caller.row (.forward c.shared.stamp 0),
   { callee.trimmedRow c.rawCallee (.forward c.shared.stamp 1) with
     requiresCode := executes }]

/-- **The two rows that undo what the call did**, given the undoing transitions.  In a
self-transfer the callee's comes first, since it undoes the later of two effects on one
account. -/
def undoingRows (c : CallSection) (revertStamp : Nat) (caller callee : Transition) :
    List AccountRow :=
  let (first, second) := if c.isSelfTransfer then (callee, caller) else (caller, callee)
  [first.row (.undoing c.shared.stamp revertStamp 2),
   second.row (.undoing c.shared.stamp revertStamp 3)]

/-! ## Failures -/

/-- The failure of a section that an unexpected event reached. -/
def unexpected (event : Event) : Violation :=
  .unexpectedEvent .call event

/-- A pair of snapshots that the handling of an event relies on. -/
def captured (parties? : Option Parties) (event : Event) : Except Violation Parties :=
  match parties? with
  | some parties => pure parties
  | none => throw (unexpected event)

/-- **Moves the scenario one step forward**, as far as the refinement order allows. -/
def advance (c : CallSection) (target : Scenario) : Except Violation CallSection :=
  if c.scenario.refines target then pure (c.withScenario target)
  else throw (.illegalTransition c.scenario target c.shared.stamp)

end CallSection

end ExecutionTrace
