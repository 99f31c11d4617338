import ExecutionTrace.Machine.Script
import ExecutionTrace.Proofs.Run.Steps

/-!
# The machine and the tracer agree

Between two steps of a run the machine is idle, runs no code, has active contexts, or has finished
its root context.  Every step that is allowed leads from one of these to another, and where it
fails its script is to blame.

## Main Definitions

* `Poised` — what a machine can be like between two steps
* `Poised.carryOut_yields` — a step keeps it, and fails for a reason
* `Taken`, `Reachable.taken` — what a step of a run leads to
* `Reachable.exists_episode` — a transaction that executes code is an episode once it is ended
* `Reachable.fails_without_disagreement` — the faults of a step of a run
-/

namespace ExecutionTrace

/-- **What a machine is like between two steps of a run.** -/
inductive Poised (m : Machine) : Prop
  | idle (idle : Idle m)
  | skipping {tx : Transaction} {older : List Section} {settlement : SettlementSection}
      (skipping : Skipping m tx older settlement)
  | running {tx : Transaction} {older : List Section} {launch : LaunchSection} {l : Level}
      {outer : List Level} (running : Running m tx older launch l outer) (scripted : l.Scripted)
  | ended {tx : Transaction} {older : List Section} {launch : LaunchSection}
      {calls : List CallSection} {outcome : ContextOutcome}
      (ended : Ended m tx older launch calls outcome)

/-! ## Steps of a run -/

variable {chain : Chain} {m m' : Machine} {a : Action}

/-- A call leaves the transaction running. -/
theorem Running.Called.running {tx : Transaction} {older : List Section} {launch : LaunchSection}
    {l : Level} {outer : List Level} {frame : Frame} {i : Invocation} {c : CallSection}
    (called : Running.Called chain m tx older launch l outer frame i c m') (scripted : l.Scripted) :
    ∃ l' outer', Running m' tx older launch l' outer' ∧ l'.Scripted := by
  cases called.effect with
  | dismissed _ running => exact ⟨_, _, running, scripted⟩
  | aborted _ _ running => exact ⟨_, _, running, scripted⟩
  | immediate _ _ _ _ _ running => exact ⟨_, _, running, scripted⟩
  | spawned _ _ scenario enters running => exact ⟨_, _, running, enters.scripted scenario rfl⟩

/-- **A step that is allowed** leads from one such machine to another. -/
theorem Poised.carryOut_yields (poised : Poised m) (chain : Chain) (allowed : m.Allows a) :
    Yields (a.carryOut chain m) (fun _ m' => Poised m') a.Fails := by
  cases poised with
  | idle idle =>
      refine (idle.carryOut_yields allowed).mono ?_ fun _ h => h
      rintro _ m' ⟨tx, rfl, ⟨-, skipping⟩ | ⟨-, -, running⟩⟩
      · exact .skipping skipping
      · exact .running running fun _ h => by cases h
  | skipping skipping =>
      refine (skipping.carryOut_yields allowed).mono ?_ fun _ h => h
      rintro _ _ ⟨_, -, closed⟩
      exact .idle closed.idle
  | running running scripted =>
      refine (running.carryOut_yields scripted allowed).mono ?_ fun _ h => h
      rintro _ m' (⟨_, _, _, _, -, called⟩ | ⟨_, rfl, finished⟩)
      · obtain ⟨_, _, running', scripted'⟩ := called.running scripted
        exact .running running' scripted'
      · cases finished with
        | nested _ _ running' =>
            exact .running running' fun c spawner => running.scripted _ (.head _) c spawner
        | root ended => exact .ended ended
  | ended ended =>
      refine (ended.carryOut_yields allowed).mono ?_ fun _ h => h
      rintro _ _ ⟨_, _, rfl, closed⟩
      exact .idle closed.idle

/-- A machine that has been told how precompiles end is as idle as before. -/
theorem Idle.withPrecompileOutcome (idle : Idle m) (a : Address) (outcome : ContextOutcome) :
    Idle (m.withPrecompileOutcome a outcome) :=
  ⟨idle.transaction, idle.attuned, idle.silent, idle.checkpoints, idle.quiet⟩

/-- A run starts with an idle machine. -/
theorem Idle.initial (accounts : List (Address × Account))
    (outcomes : List (Address × ContextOutcome)) : Idle (.initial accounts outcomes) := by
  have start : Idle (.ofAccounts accounts) := by
    have none : ∀ s ∈ (Machine.ofAccounts accounts).tracer.sections, s.awaits = [] := by
      intro s hs
      exact absurd hs (Array.not_mem_empty s)
    refine ⟨rfl, Tracer.attuned_of_silent rfl none, none, rfl, fun a => ?_⟩
    show (({} : Incarnations).get a).initCode?.isSome = false
    rw [Incarnations.get_empty]
    rfl
  unfold Machine.initial
  generalize Machine.ofAccounts accounts = m at start
  induction outcomes generalizing m with
  | nil => exact start
  | cons outcome outcomes ih => exact ih _ (start.withPrecompileOutcome ..)

/-- **Every machine that a run goes through** is idle or in the middle of a transaction. -/
theorem Reachable.poised (reachable : Reachable chain m) : Poised m := by
  induction reachable with
  | initial accounts outcomes => exact .idle (.initial accounts outcomes)
  | step before allowed succeeds ih =>
      have yields := ih.carryOut_yields chain allowed
      rw [succeeds] at yields
      exact yields

/-- **A step of a run**, by what the machine is like before it. -/
inductive Taken (chain : Chain) (m : Machine) (a : Action) (m' : Machine) : Prop
  | starts {tx : Transaction} (idle : Idle m) (action : a = .start tx)
      (begun : Idle.Begun chain m tx m')
  | settles {tx : Transaction} {older : List Section} {settlement : SettlementSection}
      {gasUsed : UInt64} (skipping : Skipping m tx older settlement) (action : a = .settle gasUsed)
      (closed : Skipping.Closed chain m tx older settlement gasUsed m')
  | calls {tx : Transaction} {older : List Section} {launch : LaunchSection} {l : Level}
      {outer : List Level} {i : Invocation} {aborts : AbortFlags} {frame : Frame} {c : CallSection}
      (running : Running m tx older launch l outer) (scripted : l.Scripted) (action : a = .call i)
      (called : Running.Called chain m tx older launch l outer frame { i with aborts } c m')
  | finishes {tx : Transaction} {older : List Section} {launch : LaunchSection} {l : Level}
      {outer : List Level} {outcome : ContextOutcome}
      (running : Running m tx older launch l outer) (scripted : l.Scripted)
      (action : a = .finish outcome)
      (finished : Running.Finished chain m tx older launch outcome l outer m')
  | ends {tx : Transaction} {older : List Section} {launch : LaunchSection}
      {calls : List CallSection} {outcome : ContextOutcome} {gasUsed : UInt64} {revertStamp : Nat}
      (ended : Ended m tx older launch calls outcome) (action : a = .settle gasUsed)
      (closed : Ended.Closed m tx older launch calls outcome gasUsed revertStamp m')

/-- **Every step of a run is one of these.** -/
theorem Reachable.taken (reachable : Reachable chain m) (allowed : m.Allows a)
    (succeeds : a.carryOut chain m = .ok () m') : Taken chain m a m' := by
  cases reachable.poised with
  | idle idle =>
      have yields : Yields (a.carryOut chain m) _ _ := idle.carryOut_yields allowed
      obtain ⟨tx, action, begun⟩ := yields.value succeeds
      exact .starts idle action begun
  | skipping skipping =>
      have yields : Yields (a.carryOut chain m) _ _ := skipping.carryOut_yields allowed
      obtain ⟨gasUsed, action, closed⟩ := yields.value succeeds
      exact .settles skipping action closed
  | running running scripted =>
      have yields : Yields (a.carryOut chain m) _ _ := running.carryOut_yields scripted allowed
      rcases yields.value succeeds with ⟨i, aborts, frame, c, action, called⟩ |
        ⟨outcome, action, finished⟩
      · exact .calls running scripted action called
      · exact .finishes running scripted action finished
  | ended ended =>
      have yields : Yields (a.carryOut chain m) _ _ := ended.carryOut_yields allowed
      obtain ⟨gasUsed, revertStamp, action, closed⟩ := yields.value succeeds
      exact .ends ended action closed

/-! ## The transactions of a run -/

section Transactions

variable {tx : Transaction} {older : List Section} {launch : LaunchSection} {l : Level}
  {outer : List Level} {calls : List CallSection} {outcome : ContextOutcome}

theorem Running.not_idle (running : Running m tx older launch l outer) : ¬Idle m := by
  intro idle
  have transaction := running.transaction
  rw [idle.transaction] at transaction
  cases transaction

theorem Ended.not_idle (ended : Ended m tx older launch calls outcome) : ¬Idle m := by
  intro idle
  have transaction := ended.transaction
  rw [idle.transaction] at transaction
  cases transaction

theorem Ended.not_running (ended : Ended m tx older launch calls outcome) :
    ¬∃ tx older launch l outer, Running m tx older launch l outer := by
  rintro ⟨_, _, _, _, _, running⟩
  have current := running.current
  rw [ended.current] at current
  cases current

/-- A transaction that executes code does not run none. -/
theorem Skipping.executing {settlement : SettlementSection}
    (skipping : Skipping m tx older settlement) : ¬m.skipped = false := by
  rw [skipping.skipped]
  exact nofun

/-- **A transaction that is executing code has been started**, and nothing but calls and finished
contexts has happened since. -/
theorem Reachable.exists_start (reachable : Reachable chain m)
    (running : Running m tx older launch l outer) :
    ∃ idle begun tx, Reachable chain idle ∧ idle.Allows (.start tx) ∧
      tx.requiresExecution idle.world = true ∧
      (Action.start tx).carryOut chain idle = .ok () begun ∧ Executes chain begun m := by
  induction reachable generalizing tx older launch l outer with
  | initial accounts outcomes => exact absurd (Idle.initial accounts outcomes) running.not_idle
  | @step m m' a before allowed succeeds ih =>
      cases before.taken allowed succeeds with
      | starts _ action begun =>
          subst action
          cases begun with
          | skipping _ skipping => exact absurd running.executing skipping.executing
          | running executes => exact ⟨m, m', _, before, allowed, executes, succeeds, .refl m'⟩
      | settles _ _ closed => exact absurd closed.idle running.not_idle
      | calls running' _ action =>
          subst action
          obtain ⟨idle, begun, tx, first, free, executes, starts, further⟩ := ih running'
          exact ⟨idle, begun, tx, first, free, executes, starts, further.call succeeds⟩
      | finishes running' _ action =>
          subst action
          obtain ⟨idle, begun, tx, first, free, executes, starts, further⟩ := ih running'
          exact ⟨idle, begun, tx, first, free, executes, starts, further.finish succeeds⟩
      | ends _ _ closed => exact absurd closed.idle running.not_idle

/-- **A transaction has nothing left to execute** since the step before, in which its root context
has been finished. -/
theorem Reachable.exists_leaving (reachable : Reachable chain m)
    (ended : Ended m tx older launch calls outcome) :
    ∃ leaving tx older launch l outcome, Reachable chain leaving ∧
      Running leaving tx older launch l [] ∧ leaving.Allows (.finish outcome) ∧
      (Action.finish outcome).carryOut chain leaving = .ok () m := by
  cases reachable with
  | initial accounts outcomes => exact absurd (Idle.initial accounts outcomes) ended.not_idle
  | @step before _ a first allowed succeeds =>
      cases first.taken allowed succeeds with
      | starts _ _ begun =>
          cases begun with
          | skipping _ skipping => exact absurd ended.executing skipping.executing
          | running _ _ running => exact absurd ⟨_, _, _, _, _, running⟩ ended.not_running
      | settles _ _ closed => exact absurd closed.idle ended.not_idle
      | calls _ scripted _ called =>
          obtain ⟨_, _, running, -⟩ := called.running scripted
          exact absurd ⟨_, _, _, _, _, running⟩ ended.not_running
      | finishes running _ action finished =>
          subst action
          cases finished with
          | nested _ _ running => exact absurd ⟨_, _, _, _, _, running⟩ ended.not_running
          | root => exact ⟨before, _, _, _, _, _, first, running, allowed, succeeds⟩
      | ends _ _ closed => exact absurd closed.idle ended.not_idle

/-- **Every transaction of a run that executes code and is ended** is an episode. -/
theorem Reachable.exists_episode {gasUsed : UInt64} (reachable : Reachable chain m)
    (executing : m.skipped = false) (allowed : m.Allows (.settle gasUsed))
    (settles : (Action.settle gasUsed).carryOut chain m = .ok () m') :
    ∃ run : Episode chain, run.closing = m ∧ run.gasUsed = gasUsed ∧ run.closed = m' := by
  cases reachable.taken allowed settles with
  | starts _ action => cases action
  | settles skipping => exact absurd executing skipping.executing
  | calls _ _ action => cases action
  | finishes _ _ action => cases action
  | ends ended =>
      obtain ⟨leaving, _, _, _, l, outcome, before, running, -, leaves⟩ :=
        reachable.exists_leaving ended
      obtain ⟨idle, begun, tx, first, free, executes, starts, further⟩ :=
        before.exists_start running
      have atRoot : leaving.tracer.contexts.current? = some LaunchSection.rootContext := by
        cases running.stacked with
        | root _ _ number => exact number ▸ running.current
      exact ⟨⟨tx, idle, begun, leaving, outcome, m, m, gasUsed, m', first, free, executes, starts,
        further, atRoot, leaves, .refl m, settles⟩, rfl, rfl, rfl⟩

end Transactions

/-! ## The faults of a step -/

/-- **The machine and the tracer never disagree.** Whatever step a script takes next: if it fails,
its fault is none that would mean that the two understand the run differently, and nobody fails
to pay for anything but the settlement of a transaction that ran no code. -/
theorem Reachable.fails_without_disagreement {f : Fault} (reachable : Reachable chain m)
    (allowed : m.Allows a) (declared : a.Declared) (fails : a.carryOut chain m = .error f m') :
    ¬f.IsDisagreement ∧ (a.IsPrepaid → ¬f.IsCannotPay) := by
  have yields := reachable.poised.carryOut_yields chain allowed
  rw [fails] at yields
  exact ⟨yields.1 declared, yields.2⟩

/-- Once its root context has been finished a transaction makes no more calls: an attempt fails, but
not with a disagreement. -/
theorem call_after_root_fails_without_disagreement :
    ∃ m f m', Reachable .ethereum m ∧
      (Action.call (.make .call 0xc0de 0)).carryOut .ethereum m = .error f m' ∧
      ¬f.IsDisagreement ∧ ¬f.IsCannotPay := by
  let start := Machine.initial [(Script.sender, { balance := Script.gwei 1000000000 }),
    (0xc0de, { code := [0x00] })] []
  let script : List Action :=
    [.start (Script.messageCall Script.sender 0xc0de 1), .finish (.succeeded [])]
  let next : Action := .call (.make .call 0xc0de 0)
  have evaluated : ((start.play .ethereum script).any fun m => decide (m.Allows next) &&
      (m.play .ethereum [next]).isNone) = true := by decide +kernel
  obtain ⟨m, played, holds⟩ := (Option.any_eq_true _ _).1 evaluated
  obtain ⟨allowed, fails⟩ := Bool.and_eq_true_iff.1 holds
  have allowed : m.Allows next := of_decide_eq_true allowed
  have reachable : Reachable .ethereum m := (Reachable.initial _ _).play played
  cases result : next.carryOut .ethereum m with
  | ok value m' => simp [Machine.play, allowed, result] at fails
  | error f m' =>
      have blameless := reachable.fails_without_disagreement allowed
        (by decide : (0 : UInt8) < 32) result
      exact ⟨m, f, m', reachable, result, blameless.1, blameless.2 trivial⟩

end ExecutionTrace
