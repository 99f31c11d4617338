import ExecutionTrace.Proofs.Run.Driving
import ExecutionTrace.Proofs.Run.Rehearsal
import ExecutionTrace.Proofs.Run.Stages

/-!
# Deployments over whole runs

The table of incarnations after any script.  An address is deployed to exactly while the transaction
in progress is a deployment there whose root context has not ended, and the table then shows the
init code that the transaction carries.  Its number counts the deployments that have been started
there, whether they ran a constructor or not and whatever became of them.

## Main Definitions

* `Machine.Constructs` — the transaction whose constructor a machine is running
* `Action.deploysTo` — the steps that start a deployment
* `Reachable.initCode?_eq_some_iff` — what is deployed where, at every instant of a run
* `Taken.number_eq`, `Reachable.number_play` — numbers from one step to the next, and over a script
* `Machine.incarnations_after_script` — the whole table

## Design Notes

The constructor of a deployment may call its own address, and contexts that act on that address come
and go while the constructor runs.  Only the end of the root context ends a deployment, since the
contexts that calls spawn are never marked as deployments.
-/

namespace ExecutionTrace

variable {chain : Chain} {m m' : Machine} {a : Action}

/-- **A machine is running the constructor of a transaction**: the transaction is a deployment that
executes code, and its root context has not ended. -/
structure Machine.Constructs (m : Machine) (tx : Transaction) : Prop where
  transaction : m.transaction? = some tx
  executing : m.skipped = false
  deployment : tx.isDeployment = true
  running : ∃ root, m.tracer.contexts.frame? LaunchSection.rootContext = some root ∧
    root.outcome? = none

/-- The step starts a deployment to an address. -/
def Action.deploysTo (b : Address) : Action → Bool
  | .start tx => tx.isDeployment && tx.recipient == b
  | _ => false

namespace Incarnations.Quiet

theorem initCode?_eq {t : Incarnations} (quiet : t.Quiet) (b : Address) : t.initCode? b = none :=
  Option.isNone_iff_eq_none.1 (by simpa [isDeploying] using quiet b)

end Incarnations.Quiet

/-! ## What is being deployed -/

section Stages

variable {tx : Transaction} {older : List Section} {launch : LaunchSection} {l : Level}
  {outer : List Level}

/-- Nothing is constructed where no code is executed, or none any more. -/
theorem Idle.not_constructs (idle : Idle m) : ¬m.Constructs tx := by
  intro constructs
  have transaction := constructs.transaction
  rw [idle.transaction] at transaction
  cases transaction

theorem Skipping.not_constructs {settlement : SettlementSection} {tx' : Transaction}
    (skipping : Skipping m tx older settlement) : ¬m.Constructs tx' :=
  fun constructs => skipping.executing constructs.executing

theorem Ended.not_constructs {calls : List CallSection} {outcome : ContextOutcome}
    {tx' : Transaction} (ended : Ended m tx older launch calls outcome) : ¬m.Constructs tx' := by
  intro constructs
  obtain ⟨root, found, unended⟩ := constructs.running
  obtain ⟨f, there, finished, -⟩ := ended.root
  obtain rfl := Option.some.inj (found.symm.trans there)
  rw [unended] at finished
  cases finished

/-- A transaction that executes code runs a constructor if it is a deployment. -/
theorem Running.constructs_iff {tx' : Transaction} (running : Running m tx older launch l outer) :
    m.Constructs tx' ↔ tx' = tx ∧ tx.isDeployment = true := by
  constructor
  · intro constructs
    obtain rfl := Option.some.inj (constructs.transaction.symm.trans running.transaction)
    exact ⟨rfl, constructs.deployment⟩
  · rintro ⟨rfl, deployment⟩
    exact ⟨running.transaction, running.executing, deployment, running.stacked.root_active⟩

/-- **The init code on the table while code is executed** is the payload of the transaction, if that
is a deployment. -/
theorem Reachable.initCode?_of_running (reachable : Reachable chain m)
    (running : Running m tx older launch l outer) (b : Address) :
    m.tracer.incarnations.initCode? b =
      if tx.isDeployment = true ∧ tx.recipient = b then some tx.payload else none := by
  induction reachable generalizing tx older launch l outer with
  | initial accounts outcomes => exact absurd (Idle.initial accounts outcomes) running.not_idle
  | @step m m' a before allowed succeeds ih =>
      cases before.taken allowed succeeds with
      | starts idle _ begun =>
          cases begun with
          | skipping _ skipping => exact absurd running.executing skipping.executing
          | running _ announced running' _ _ kept =>
              obtain rfl := Option.some.inj (running.transaction.symm.trans running'.transaction)
              have effect := announced.incarnations
              have none : m.tracer.incarnations.initCode? b = none := idle.quiet.initCode?_eq b
              rw [kept]
              split at effect
              · rename_i deployment
                rw [effect.2, Incarnations.initCode?_set]
                simp only [deployment, true_and]
                exact congrArg _ none
              · rename_i message
                rw [effect, if_neg fun deploys => message deploys.1]
                exact none
      | settles _ _ closed => exact absurd closed.idle running.not_idle
      | calls running' scripted _ called =>
          obtain ⟨_, _, running'', -⟩ := called.running scripted
          obtain rfl := Option.some.inj (running.transaction.symm.trans running''.transaction)
          rw [called.incarnations]
          exact ih running'
      | finishes running' _ _ finished =>
          cases finished with
          | nested _ _ running'' _ _ kept =>
              -- The context that ended may have acted on the recipient, but it did not deploy it.
              obtain rfl := Option.some.inj (running.transaction.symm.trans running''.transaction)
              rw [kept]
              exact ih running'
          | root ended => exact absurd ⟨_, _, _, _, _, running⟩ ended.not_running
      | ends _ _ closed => exact absurd closed.idle running.not_idle

end Stages

/-- **What is deployed where**, at every instant of a run. -/
theorem Reachable.initCode?_eq_some_iff (reachable : Reachable chain m) (b : Address)
    (code : Bytes) : m.tracer.incarnations.initCode? b = some code ↔
      ∃ tx, m.Constructs tx ∧ tx.recipient = b ∧ tx.payload = code := by
  have nothing : m.tracer.incarnations.Quiet → (∀ tx, ¬m.Constructs tx) →
      (m.tracer.incarnations.initCode? b = some code ↔
        ∃ tx, m.Constructs tx ∧ tx.recipient = b ∧ tx.payload = code) := by
    intro quiet rests
    rw [quiet.initCode?_eq b]
    exact ⟨nofun, fun ⟨tx, constructs, _⟩ => absurd constructs (rests tx)⟩
  cases reachable.poised with
  | idle idle => exact nothing idle.quiet fun _ => idle.not_constructs
  | skipping skipping => exact nothing skipping.quiet fun _ => skipping.not_constructs
  | ended ended => exact nothing ended.quiet fun _ => ended.not_constructs
  | @running tx older launch l outer running =>
      rw [reachable.initCode?_of_running running b]
      constructor
      · intro shown
        split at shown
        · rename_i deploys
          exact ⟨tx, running.constructs_iff.2 ⟨rfl, deploys.1⟩, deploys.2, Option.some.inj shown⟩
        · cases shown
      · rintro ⟨tx', constructs, rfl, rfl⟩
        obtain ⟨rfl, deployment⟩ := running.constructs_iff.1 constructs
        rw [if_pos ⟨deployment, rfl⟩]

/-! ## How often an address has been deployed to -/

/-- The start of a transaction changes the table where it deploys to, if anywhere. -/
theorem Idle.Begun.exists_incarnations {tx : Transaction} (begun : Idle.Begun chain m tx m') :
    ∃ initCode?, m'.tracer.incarnations = if tx.isDeployment then
      m.tracer.incarnations.set tx.recipient
        { number := m.tracer.incarnations.number tx.recipient + 1, initCode? }
      else m.tracer.incarnations := by
  cases begun with
  | skipping _ _ announced _ _ kept =>
      rw [kept]
      exact ⟨none, announced.incarnations⟩
  | running _ announced _ _ _ kept =>
      have effect := announced.incarnations
      refine ⟨some tx.payload, ?_⟩
      rw [kept]
      split at effect
      · rename_i deployment
        rw [if_pos deployment]
        exact effect.2
      · rename_i message
        rw [if_neg message]
        exact effect

/-- A deployment counts as soon as it starts. -/
theorem Idle.Begun.number_eq {tx : Transaction} (begun : Idle.Begun chain m tx m') (b : Address) :
    m'.tracer.incarnations.number b = m.tracer.incarnations.number b +
      if (Action.start tx).deploysTo b then 1 else 0 := by
  obtain ⟨initCode?, effect⟩ := begun.exists_incarnations
  rw [effect]
  cases deployment : tx.isDeployment with
  | false => simp [Action.deploysTo, deployment]
  | true =>
      rw [if_pos rfl, Incarnations.number_set]
      simp only [Action.deploysTo, deployment, Bool.true_and, beq_iff_eq]
      split
      · rename_i own
        rw [own]
      · rfl

/-- **A step counts the deployment that it starts**, and gives no number back. -/
theorem Taken.number_eq (taken : Taken chain m a m') (b : Address) :
    m'.tracer.incarnations.number b =
      m.tracer.incarnations.number b + if a.deploysTo b then 1 else 0 := by
  cases taken with
  | starts _ action begun =>
      subst action
      exact begun.number_eq b
  | settles _ action closed =>
      subst action
      rw [closed.incarnations]
      rfl
  | calls _ _ action called =>
      subst action
      rw [called.incarnations]
      rfl
  | finishes _ _ action finished =>
      subst action
      cases finished with
      | nested _ _ _ _ _ kept =>
          rw [kept]
          rfl
      | root _ _ _ ends =>
          -- The constructor ends, whether it has failed or not, and its number stays.
          rw [ends, Level.incarnationsAfter]
          split
          · rw [Incarnations.number_ended]
            rfl
          · rfl
  | ends _ action closed =>
      subst action
      rw [closed.incarnations]
      rfl

/-- **A script counts the deployments that it starts.** -/
theorem Reachable.number_play {script : List Action} (reachable : Reachable chain m)
    (played : m.play chain script = some m') (b : Address) :
    m'.tracer.incarnations.number b =
      m.tracer.incarnations.number b + script.countP (·.deploysTo b) := by
  induction script generalizing m with
  | nil =>
      obtain rfl := Option.some.inj played
      rfl
  | cons a script ih =>
      unfold Machine.play at played
      split at played
      · rename_i allowed
        split at played
        · rename_i succeeds
          rw [ih (reachable.step allowed succeeds) played,
            (reachable.taken allowed succeeds).number_eq b, List.countP_cons, Nat.add_assoc,
            Nat.add_comm (script.countP _)]
        · cases played
      · cases played

/-! ## The whole table -/

/-- **The table of incarnations after a script**: an address is deployed to exactly while a
constructor is running there, and the init code is that of the transaction; the number is that of
the deployments started there.  So nothing is being deployed when a transaction may start, and no
number ever falls again, whatever is reverted. -/
theorem Machine.incarnations_after_script {accounts : List (Address × Account)}
    {outcomes : List (Address × ContextOutcome)} {script : List Action}
    (played : (Machine.initial accounts outcomes).play chain script = some m) (b : Address) :
    (m.tracer.incarnations.isDeploying b = true ↔ ∃ tx, m.Constructs tx ∧ tx.recipient = b) ∧
    (∀ code, m.tracer.incarnations.initCode? b = some code ↔
      ∃ tx, m.Constructs tx ∧ tx.recipient = b ∧ tx.payload = code) ∧
    m.tracer.incarnations.number b = script.countP (·.deploysTo b) ∧
    (m.transaction? = none → m.tracer.incarnations.isDeploying b = false) ∧
    ∀ further m', m.play chain further = some m' →
      m.tracer.incarnations.number b ≤ m'.tracer.incarnations.number b := by
  have start : Reachable chain (.initial accounts outcomes) := .initial ..
  have reachable := start.play played
  have shown := reachable.initCode?_eq_some_iff b
  refine ⟨?_, shown, ?_, fun free => (reachable.poised.idle_of_free free).quiet b, ?_⟩
  · rw [Incarnations.isDeploying, Option.isSome_iff_exists]
    constructor
    · rintro ⟨code, told⟩
      obtain ⟨tx, constructs, own, -⟩ := (shown code).1 told
      exact ⟨tx, constructs, own⟩
    · rintro ⟨tx, constructs, own⟩
      exact ⟨tx.payload, (shown _).2 ⟨tx, constructs, own, rfl⟩⟩
  · rw [start.number_play played b, Machine.tracer_initial, Incarnations.number]
    exact (congrArg (·.number + _) (Incarnations.get_empty b)).trans (Nat.zero_add _)
  · intro further m' goesOn
    rw [reachable.number_play goesOn b]
    exact Nat.le_add_right ..

/-- An address is deployed to, in vain, and then again: the constructor is running, and it is the
second one. -/
theorem Machine.incarnations_after_second_deployment :
    ∃ m, Script.stage.play .ethereum [.start Script.constructor, .finish .failed, .settle 30000,
        .start Script.constructor] = some m ∧
      m.tracer.incarnations.number 0xdec0 = 2 ∧
      ∃ tx, m.Constructs tx ∧ tx.recipient = 0xdec0 := by
  have evaluated : ((Script.stage.play .ethereum [.start Script.constructor, .finish .failed,
      .settle 30000, .start Script.constructor]).any
        (·.tracer.incarnations.isDeploying 0xdec0)) = true := by
    decide +kernel
  obtain ⟨m, played, deploying⟩ := (Option.any_eq_true _ _).1 evaluated
  obtain ⟨tells, -, counts, -⟩ := incarnations_after_script played 0xdec0
  exact ⟨m, played, counts, tells.1 deploying⟩

end ExecutionTrace
