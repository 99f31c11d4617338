import ExecutionTrace.Machine.Script
import ExecutionTrace.Row.History

/-!
# Runs of the scripted machine

A script is a sequence of transactions, each started, carried out by calls and by finishing
contexts, and ended.  A run is what a machine goes through while every step of its script
succeeds.

## Main Definitions

* `Action`, `Action.carryOut` — the steps of a script
* `Machine.Allows` — the order in which a script may take them
* `Reachable`, `Later` — the machines between the steps of a run, and those that come after one
* `Episode` — one transaction of a run that executes code, from before its start to its end

## Design Notes

An episode names the machine at each of the instants that statements about transactions speak
of, in particular the one at which its root context has just been finished.
-/

namespace ExecutionTrace

/-- **A step of a script.** -/
inductive Action
  | start (tx : Transaction)
  | call (i : Invocation)
  | finish (outcome : ContextOutcome)
  | settle (gasUsed : UInt64)

/-- What a machine does at a step of its script. -/
def Action.carryOut (chain : Chain) : Action → Step Unit
  | start tx => discard (Machine.beginTransaction chain tx)
  | call i => discard (Machine.call chain i)
  | finish outcome => discard (Machine.finishContext chain outcome)
  | settle gasUsed => Machine.endTransaction chain gasUsed

/-- Every exception that an instruction of the step raises is a declared one. -/
def Action.Declared : Action → Prop
  | call i => i.exceptions.Declared
  | _ => True

/-- The step belongs between the start of a transaction and its end. -/
def Action.isInner : Action → Bool
  | .call _ | .finish _ => true
  | _ => false

/-- **The order of a script**: transactions do not overlap, and everything else happens during
one. -/
def Machine.Allows (m : Machine) : Action → Prop
  | .start _ => m.transaction? = none
  | _ => m.transaction?.isSome

instance (m : Machine) (a : Action) : Decidable (m.Allows a) := by
  cases a <;> unfold Machine.Allows <;> infer_instance

/-- A machine before the first step of a script: the accounts it starts with, and the
precompiles that are told how to end. -/
def Machine.initial (accounts : List (Address × Account))
    (outcomes : List (Address × ContextOutcome)) : Machine :=
  outcomes.foldl (fun m (a, outcome) => m.withPrecompileOutcome a outcome) (.ofAccounts accounts)

/-- **The machines that a run goes through.** -/
inductive Reachable (chain : Chain) : Machine → Prop
  | initial (accounts : List (Address × Account)) (outcomes : List (Address × ContextOutcome)) :
      Reachable chain (.initial accounts outcomes)
  | step {m m' : Machine} {a : Action} (before : Reachable chain m) (allowed : m.Allows a)
      (succeeds : a.carryOut chain m = .ok () m') : Reachable chain m'

/-- **The machines that come later in a run** than a given one, which may be that one itself. -/
inductive Later (chain : Chain) : Machine → Machine → Prop
  | refl (m : Machine) : Later chain m m
  | step {m m' m'' : Machine} {a : Action} (first : Later chain m m') (allowed : m'.Allows a)
      (succeeds : a.carryOut chain m' = .ok () m'') : Later chain m m''

theorem Later.trans {chain : Chain} {m m' m'' : Machine} (first : Later chain m m')
    (second : Later chain m' m'') : Later chain m m'' := by
  induction second with
  | refl => exact first
  | step _ allowed succeeds ih => exact ih.step allowed succeeds

theorem Reachable.later {chain : Chain} {m m' : Machine} (reachable : Reachable chain m)
    (later : Later chain m m') : Reachable chain m' := by
  induction later with
  | refl => exact reachable
  | step _ allowed succeeds ih => exact .step ih allowed succeeds

/-- **The machine after a script**, unless one of its steps is out of order or fails. -/
def Machine.play (chain : Chain) : List Action → Machine → Option Machine
  | [], m => some m
  | a :: script, m =>
      if m.Allows a then
        match a.carryOut chain m with
        | .ok _ m' => play chain script m'
        | .error _ _ => none
      else none

theorem Later.play {chain : Chain} {script : List Action} {m m' : Machine}
    (played : m.play chain script = some m') : Later chain m m' := by
  induction script generalizing m with
  | nil =>
      obtain rfl := Option.some.inj played
      exact .refl m
  | cons a script ih =>
      unfold Machine.play at played
      split at played
      · rename_i allowed
        split at played
        · rename_i succeeds
          exact ((Later.refl m).step allowed succeeds).trans (ih played)
        · cases played
      · cases played

theorem Reachable.play {chain : Chain} {script : List Action} {m m' : Machine}
    (reachable : Reachable chain m) (played : m.play chain script = some m') :
    Reachable chain m' :=
  reachable.later (.play played)

/-- **Part of a transaction**: calls and finished contexts in any order, all of them successful. -/
inductive Executes (chain : Chain) : Machine → Machine → Prop
  | refl (m : Machine) : Executes chain m m
  | call {m m' m'' : Machine} {i : Invocation} (first : Executes chain m m')
      (succeeds : (Action.call i).carryOut chain m' = .ok () m'') : Executes chain m m''
  | finish {m m' m'' : Machine} {outcome : ContextOutcome} (first : Executes chain m m')
      (succeeds : (Action.finish outcome).carryOut chain m' = .ok () m'') : Executes chain m m''

theorem Executes.trans {chain : Chain} {m m' m'' : Machine} (first : Executes chain m m')
    (second : Executes chain m' m'') : Executes chain m m'' := by
  induction second with
  | refl => exact first
  | call _ succeeds ih => exact ih.call succeeds
  | finish _ succeeds ih => exact ih.finish succeeds

/-- **A transaction of a run that executes code.** -/
structure Episode (chain : Chain) where
  tx : Transaction
  /-- Before the transaction starts. -/
  idle : Machine
  /-- After it has started. -/
  begun : Machine
  /-- Before its root context is finished. -/
  leaving : Machine
  outcome : ContextOutcome
  /-- After its root context has been finished. -/
  left : Machine
  /-- Before it is ended. -/
  closing : Machine
  gasUsed : UInt64
  /-- After it has been ended. -/
  closed : Machine
  reachable : Reachable chain idle
  free : idle.Allows (.start tx)
  executing : tx.requiresExecution idle.world = true
  starts : (Action.start tx).carryOut chain idle = .ok () begun
  runs : Executes chain begun leaving
  atRoot : leaving.tracer.contexts.current? = some LaunchSection.rootContext
  leaves : (Action.finish outcome).carryOut chain leaving = .ok () left
  lingers : Executes chain left closing
  ends : (Action.settle gasUsed).carryOut chain closing = .ok () closed

/-- **The rows of a transaction**: those of the sections it has added to the trace. -/
def Episode.rows {chain : Chain} (run : Episode chain) : List Row :=
  (run.closed.tracer.sections.toList.drop run.idle.tracer.sections.size).flatMap Section.rows

/-- The calls of a transaction. -/
def Episode.calls {chain : Chain} (run : Episode chain) : List CallSection :=
  (run.closed.tracer.sections.toList.drop run.idle.tracer.sections.size).filterMap fun
    | .call c => some c
    | _ => none

end ExecutionTrace
