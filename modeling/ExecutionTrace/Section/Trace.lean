import ExecutionTrace.Row.Basic

/-!
# The trace of one section

A growing list of rows, and the values that all of them share.  Rows are appended in order;
of a row that is there already, only a latched value may be filled in.
-/

namespace ExecutionTrace

/-- **Values shared by the rows of a section.** -/
structure SharedValues where
  stamp : Nat := 0
  /-- The context that the section is traced in, zero outside of any. -/
  context : Nat := 0
  /-- Gas that the caller forwards to a child context. -/
  forwardedGas : UInt64 := 0
  /-- The stipend of a child context that never executes, handed back to the caller. -/
  stipend? : Option UInt64 := none
  deriving DecidableEq, Inhabited

namespace SharedValues

def payForwardedGas (v : SharedValues) (gas : UInt64) : SharedValues :=
  { v with forwardedGas := gas }

/-- Hands the stipend back to the caller, which happens at most once. -/
def collectStipend (v : SharedValues) (stipend : UInt64) : Except Violation SharedValues :=
  match v.stipend? with
  | none => pure { v with stipend? := some stipend }
  | some _ => throw (.stipendAlreadyCollected v.stamp)

theorem context_collectStipend {v w : SharedValues} {stipend : UInt64}
    (collected : v.collectStipend stipend = .ok w) : w.context = v.context := by
  unfold collectStipend at collected
  split at collected
  · cases collected
    rfl
  · cases collected

end SharedValues

/-- **The trace of one section.** -/
structure Trace where
  shared : SharedValues
  rows : List Row := []
  deriving DecidableEq, Inhabited

namespace Trace

/-- An empty trace at a stamp and in a context. -/
def start (stamp context : Nat) : Trace where
  shared := { stamp, context }

/-- Appends rows. -/
def append (t : Trace) (rows : List Row) : Trace :=
  { t with rows := t.rows ++ rows }

/-- Changes the row at an index in place, if there is one. -/
def update (t : Trace) (index : Nat) (change : Row → Row) : Trace :=
  { t with rows := t.rows.modify index change }

def length (t : Trace) : Nat :=
  t.rows.length

def isEmpty (t : Trace) : Bool :=
  t.rows.isEmpty

end Trace

end ExecutionTrace
