import ExecutionTrace.Machine.Script
import ExecutionTrace.Proofs.Run.Basic

/-!
# Scripted transactions

A script decides everything about a transaction, so whether it can be carried out, and what its
machine is like before, when its root context has been left and at its end, can be computed.

## Main Definitions

* `Machine.rehearse` — carries out a transaction and looks at its machines
* `Machine.exists_episode` — a successful rehearsal is a transaction of a run
* `Script.stage`, `Script.calledTwice`, `Script.selfPayment`, `Script.constructor` — samples
-/

namespace ExecutionTrace

variable {chain : Chain} {m m' m'' : Machine}

/-- **A script of calls and finished contexts** is part of a transaction. -/
theorem Executes.play {script : List Action} (inner : script.all Action.isInner = true)
    (played : m.play chain script = some m') : Executes chain m m' := by
  induction script generalizing m with
  | nil =>
      obtain rfl := Option.some.inj played
      exact .refl m
  | cons a script ih =>
      obtain ⟨own, rest⟩ := Bool.and_eq_true_iff.1 inner
      unfold Machine.play at played
      split at played
      · split at played
        · rename_i succeeds
          have further := ih rest played
          cases a with
          | call i => exact ((Executes.refl m).call succeeds).trans further
          | finish outcome => exact ((Executes.refl m).finish succeeds).trans further
          | start tx => cases own
          | settle gasUsed => cases own
        · cases played
      · cases played

namespace Machine

/-- **Carries out a transaction** whose root context is left after the given steps, and looks at
the machine before it, when the root context has been left and at the end. -/
def rehearse (chain : Chain) (tx : Transaction) (script : List Action) (outcome : ContextOutcome)
    (gasUsed : UInt64) (look : Machine → Machine → Machine → Bool) (m : Machine) : Bool :=
  script.all Action.isInner && tx.requiresExecution m.world &&
    ((m.play chain [.start tx]).any fun begun =>
      (begun.play chain script).any fun leaving =>
        leaving.tracer.contexts.current? == some LaunchSection.rootContext &&
          (leaving.play chain [.finish outcome]).any fun left =>
            (left.play chain [.settle gasUsed]).any fun closed => look m left closed)

/-- A script of one step that has been played. -/
theorem carryOut_of_play {a : Action} (played : m.play chain [a] = some m') :
    m.Allows a ∧ a.carryOut chain m = .ok () m' := by
  unfold play at played
  split at played
  · rename_i allowed
    split at played
    · rename_i succeeds
      obtain rfl := Option.some.inj played
      exact ⟨allowed, succeeds⟩
    · cases played
  · cases played

/-- A successful rehearsal is a transaction of a run, which is ended as soon as its root context
has been left. -/
theorem exists_prompt_episode (reachable : Reachable chain m) {tx : Transaction}
    {script : List Action} {outcome : ContextOutcome} {gasUsed : UInt64}
    {look : Machine → Machine → Machine → Bool}
    (rehearsed : m.rehearse chain tx script outcome gasUsed look = true) :
    ∃ run : Episode chain, run.tx = tx ∧ run.outcome = outcome ∧ run.closing = run.left ∧
      look run.idle run.left run.closed = true := by
  simp only [rehearse, Bool.and_eq_true, Option.any_eq_true, beq_iff_eq] at rehearsed
  obtain ⟨⟨inner, executing⟩, begun, starts, leaving, runs, atRoot, left, leaves, closed, ends,
    seen⟩ := rehearsed
  obtain ⟨free, starts⟩ := carryOut_of_play starts
  obtain ⟨-, leaves⟩ := carryOut_of_play leaves
  obtain ⟨-, ends⟩ := carryOut_of_play ends
  exact ⟨⟨tx, m, begun, leaving, outcome, left, left, gasUsed, closed, reachable, free, executing,
    starts, .play inner runs, atRoot, leaves, .refl left, ends⟩, rfl, rfl, rfl, seen⟩

/-- **A successful rehearsal is a transaction of a run.** -/
theorem exists_episode (reachable : Reachable chain m) {tx : Transaction} {script : List Action}
    {outcome : ContextOutcome} {gasUsed : UInt64} {look : Machine → Machine → Machine → Bool}
    (rehearsed : m.rehearse chain tx script outcome gasUsed look = true) :
    ∃ run : Episode chain, run.tx = tx ∧ look run.idle run.left run.closed = true := by
  obtain ⟨run, sameTx, -, -, seen⟩ := exists_prompt_episode reachable rehearsed
  exact ⟨run, sameTx, seen⟩

end Machine

/-- The calls that a machine has traced since it was like another one. -/
def Machine.callsSince (idle closed : Machine) : List CallSection :=
  (closed.tracer.sections.toList.drop idle.tracer.sections.size).filterMap fun
    | .call c => some c
    | _ => none

/-! ## Samples -/

namespace Script

/-- A machine with a sender, two contracts and an account without code. -/
def stage : Machine :=
  .initial [(sender, { balance := gwei 1000000000 }), (0xc0de, { balance := 1000, code := [0x00] }),
    (0xbeef, { code := [0x00] }), (0xe0a, { balance := 7 })] []

theorem reachable_stage : Reachable chain stage :=
  .initial _ _

/-- A contract pays another one twice, and the second time fails. -/
def calledTwice : List Action :=
  [.call (.make .call 0xbeef 5), .finish (.succeeded []), .call (.make .call 0xbeef 3),
    .finish .failed]

/-- **A rehearsal in which a call gets a scenario** is a transaction that has such a call. -/
theorem exists_call (outcome : ContextOutcome) (scenario : Scenario)
    (rehearsed : stage.rehearse .ethereum (messageCall sender 0xc0de 1) calledTwice outcome 30000
      (fun idle _ closed =>
        (idle.callsSince closed).any fun c => c.scenario = scenario) = true) :
    ∃ run : Episode .ethereum, ∃ c ∈ run.calls, c.scenario = scenario := by
  obtain ⟨run, -, seen⟩ := Machine.exists_episode reachable_stage rehearsed
  obtain ⟨c, made, same⟩ := List.any_eq_true.1 seen
  exact ⟨run, c, made, of_decide_eq_true same⟩

/-- A sender pays itself in a block of its own. -/
def selfPayment : Transaction :=
  { messageCall sender sender 5 with coinbase := sender }

/-- A contract is deployed. -/
def constructor : Transaction :=
  deployment sender 0xdec0 [0x60, 0x01]

end Script

end ExecutionTrace
