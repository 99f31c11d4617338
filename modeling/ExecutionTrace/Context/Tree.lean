import ExecutionTrace.Context.Frame
import ExecutionTrace.Violation

/-!
# The tree of contexts

The execution contexts of one transaction, numbered from one in the order in which they
were entered, and the one that is active.

## Main Definitions

* `ContextTree.get`, `ContextTree.currentFrame` — look-ups
* `ContextTree.enter`, `ContextTree.exit` — the active context spawns a child, or ends
* `ContextTree.subtree` — a context and everything below it, in preorder
* `ContextTree.markReverted` — stamps a subtree, the first stamp of each frame counting

## Design Notes

Frames are stored in order of their numbers and refer to one another by number.  A frame is
entered after its parent and before whatever its parent spawns next, so the numbering is the
preorder numbering of the tree, and a traversal from any frame visits each of the frames
below it once.  That bounds the traversal by the number of frames.
-/

namespace ExecutionTrace

/-- **The contexts of one transaction.** -/
structure ContextTree where
  frames : Array Frame := Array.empty
  /-- The active context. -/
  current? : Option Nat := none
  deriving DecidableEq, Inhabited

namespace ContextTree

/-! ## Look-ups -/

/-- The number that the next context will receive. -/
def nextId (t : ContextTree) : Nat :=
  t.frames.size + 1

/-- The frame with a given number, if there is one. -/
def frame? (t : ContextTree) : Nat → Option Frame
  | 0 => none
  | i + 1 => t.frames[i]?

def get (t : ContextTree) (id : Nat) : Except Violation Frame :=
  match t.frame? id with
  | some f => pure f
  | none => throw (.unknownContext id)

/-- The frame of the active context. -/
def currentFrame (t : ContextTree) : Except Violation Frame :=
  match t.current? with
  | some id => t.get id
  | none => throw .noCurrentContext

/-- The tree with the frame of one context changed. -/
def modify (t : ContextTree) (id : Nat) (change : Frame → Frame) : ContextTree :=
  match id with
  | 0 => t
  | i + 1 => { t with frames := t.frames.modify i change }

theorem frame?_modify (t : ContextTree) (id other : Nat) (change : Frame → Frame) :
    (t.modify id change).frame? other =
      if id = other then (t.frame? other).map change else t.frame? other := by
  cases id with
  | zero => cases other <;> simp [modify, frame?]
  | succ i => cases other <;> simp [modify, frame?, Array.getElem?_modify]

@[simp]
theorem nextId_modify (t : ContextTree) (id : Nat) (change : Frame → Frame) :
    (t.modify id change).nextId = t.nextId := by
  cases id <;> simp [modify, nextId]

/-! ## Entering and leaving -/

/-- **Enters a context**, as a child of the active one or as a root if none is active.
Returns the tree in which it is active. -/
def enter (t : ContextTree) (entry : ContextEntry) : ContextTree :=
  let id := t.nextId
  let parent? := t.current?.bind t.frame?
  let linked := match t.current? with
    | some parent => t.modify parent (·.addChild id)
    | none => t
  { frames := linked.frames.push
      { id
        parent? := t.current?
        depth := (parent?.map (·.depth + 1)).getD 0
        entry }
    current? := some id }

/-- **Ends the active context**, making its parent active.  Returns its number too. -/
def exit (t : ContextTree) (outcome : ContextOutcome) :
    Except Violation (ContextTree × Nat) :=
  match t.current? with
  | none => throw .noCurrentContext
  | some id => do
      let frame ← t.get id
      let ended := t.modify id fun f => { f with outcome? := some outcome }
      return ({ ended with current? := frame.parent? }, id)

/-! ## Rolling back -/

/-- The frames that a worklist leads to, each before its children and these in order.  The
first argument bounds the number of frames visited. -/
def preorder (t : ContextTree) : Nat → List Nat → List Nat
  | 0, _ => []
  | _ + 1, [] => []
  | n + 1, id :: rest =>
      match t.frame? id with
      | some f => id :: t.preorder n (f.children ++ rest)
      | none => t.preorder n rest

/-- **A context and all contexts below it**, in preorder. -/
def subtree (t : ContextTree) (id : Nat) : Except Violation (List Nat) := do
  let _ ← t.get id
  return t.preorder t.frames.size [id]

/-- Stamps a context and all contexts below it that carry no stamp yet. -/
def markReverted (t : ContextTree) (id stamp : Nat) : Except Violation ContextTree :=
  return (← t.subtree id).foldl (fun t id => t.modify id (·.stampReverted stamp)) t

/-- The empty tree, as at the start of a transaction. -/
def reset (_ : ContextTree) : ContextTree :=
  {}

end ContextTree

end ExecutionTrace
