import ExecutionTrace.Proofs.History.Opening
import ExecutionTrace.Proofs.Run.Agreement

/-!
# The stages of a transaction

A transaction that executes code is started, carried out, left by its root context and ended.
What holds of a running transaction from one step to the next holds when its root context is about
to be left, and from there on everything is determined.

## Main Definitions

* `Preserved` — a property of running transactions that calls and returns keep
* `Episode.Staged` — a transaction of a run, by what its machine is like at each instant
* `Episode.staged` — every transaction goes through these stages

## Design Notes

The section of the transaction, its incarnations and what came before it do not change while the
transaction executes.  They are collected in an `Opening`, which a property may depend on.
-/

namespace ExecutionTrace

variable {chain : Chain} {m m' : Machine}

/-! ## The first and the last steps -/

/-- A machine that may start a transaction is idle. -/
theorem Poised.idle_of_free (poised : Poised m) (free : m.transaction? = none) : Idle m := by
  cases poised with
  | idle idle => exact idle
  | skipping skipping =>
      rw [skipping.transaction] at free
      cases free
  | running running =>
      rw [running.transaction] at free
      cases free
  | ended ended =>
      rw [ended.transaction] at free
      cases free

/-- **What the start of a transaction leads to.** -/
theorem Reachable.begun {tx : Transaction} (reachable : Reachable chain m)
    (free : m.Allows (.start tx)) (starts : (Action.start tx).carryOut chain m = .ok () m') :
    Idle m ∧ Idle.Begun chain m tx m' := by
  have idle : Idle m := reachable.poised.idle_of_free free
  have yields : Yields ((Action.start tx).carryOut chain m) _ _ := idle.carryOut_yields free
  obtain ⟨_, same, begun⟩ := yields.value starts
  cases same
  exact ⟨idle, begun⟩

/-- Calls are made, and contexts finished, by the active context. -/
theorem Action.active_of_isInner {a : Action} (inner : a.isInner = true)
    (traced : m.tracer.transaction?.isSome) (succeeds : a.carryOut chain m = .ok () m') :
    m.tracer.contexts.current? ≠ none := by
  intro inactive
  have fails : Yields (a.carryOut chain m) (fun _ _ => False) fun _ => True := by
    cases a with
    | call i =>
        exact Ends.discard ((Machine.call_of_inactive inactive traced i).mono (fun _ _ h => h)
          fun _ _ => trivial)
    | finish outcome =>
        exact Ends.discard ((Machine.finishContext_of_inactive inactive outcome).mono
          (fun _ _ h => h) fun _ _ => trivial)
    | start tx => cases inner
    | settle gasUsed => cases inner
  exact fails.value succeeds

/-- Nothing is executed without an active context. -/
theorem Executes.eq_of_inactive (executes : Executes chain m m')
    (inactive : m.tracer.contexts.current? = none) (traced : m.tracer.transaction?.isSome) :
    m' = m := by
  induction executes with
  | refl => rfl
  | call _ succeeds ih =>
      subst ih
      exact absurd inactive (Action.active_of_isInner rfl traced succeeds)
  | finish _ succeeds ih =>
      subst ih
      exact absurd inactive (Action.active_of_isInner rfl traced succeeds)

/-- Contexts above the root have larger numbers. -/
theorem Stacked.outer_eq_nil {t : ContextTree} {tx : Transaction} {stop : Nat} {l : Level}
    {outer : List Level} (stacked : Stacked t tx stop (l :: outer))
    (atRoot : l.context = LaunchSection.rootContext) : outer = [] := by
  have least : ∀ {stop l outer}, Stacked t tx stop (l :: outer) →
      LaunchSection.rootContext ≤ l.context := by
    intro stop l outer h
    induction outer generalizing stop l with
    | nil =>
        cases h with
        | root _ _ number => exact Nat.le_of_eq number.symm
    | cons below outer ih =>
        cases h with
        | above _ _ _ _ _ rest => exact Nat.le_trans (ih rest) (Nat.le_of_lt rest.sound.inside)
  cases stacked with
  | root => rfl
  | above _ _ _ _ _ rest =>
      have below := least rest
      have inside := rest.sound.inside
      omega

/-! ## The steps in between -/

/-- The level of the root context when it is entered. -/
def Opening.rootLevel (o : Opening) : Level where
  context := LaunchSection.rootContext
  entry := o.tx.rootEntry
  checkpoint := o.charged
  spawner? := none
  settled := []

/-- **What an announced call leads to.** -/
theorem Running.call_action_yields {tx : Transaction} {older : List Section}
    {launch : LaunchSection} {l : Level} {outer : List Level}
    (running : Running m tx older launch l outer) (scripted : l.Scripted) (i : Invocation) :
    Yields ((Action.call i).carryOut chain m)
      (fun _ m' => ∃ aborts frame c,
        Called chain m tx older launch l outer frame { i with aborts } c m')
      (CallFault i) :=
  Ends.discard (running.call_yields scripted i)

/-- **What the finishing of the active context leads to.** -/
theorem Running.finish_action_yields {tx : Transaction} {older : List Section}
    {launch : LaunchSection} {l : Level} {outer : List Level}
    (running : Running m tx older launch l outer) (scripted : l.Scripted)
    (outcome : ContextOutcome) {E : Fault → Prop} :
    Yields ((Action.finish outcome).carryOut chain m)
      (fun _ m' => Finished chain m tx older launch outcome l outer m') E := by
  refine Ends.discard (running.finishContext_yields fun c spawned external => ?_)
  rw [scripted c spawned] at external
  cases external

/-- **A property of running transactions that calls and returns keep.** -/
structure Preserved (o : Opening) (P : Machine → Level → List Level → Prop) : Prop where
  running : ∀ {m l outer}, P m l outer → Running m o.tx o.older o.launch l outer ∧ l.Scripted
  called : ∀ {m l outer frame i c m'}, P m l outer →
    Running.Called o.chain m o.tx o.older o.launch l outer frame i c m' →
    ∃ l' outer', P m' l' outer'
  returned : ∀ {m l below outer outcome m'}, P m l (below :: outer) →
    Running.Finished o.chain m o.tx o.older o.launch outcome l (below :: outer) m' →
    ∃ l' outer', P m' l' outer'

/-- **It holds until the root context is left**, which is what then has happened last. -/
theorem Preserved.executes_or_finishes {o : Opening} {P : Machine → Level → List Level → Prop}
    (preserved : Preserved o P) (executes : Executes o.chain m m') {l : Level} {outer : List Level}
    (holds : P m l outer) :
    (∃ l' outer', P m' l' outer') ∨
      ∃ leaving root outcome, P leaving root [] ∧
        Running.Finished o.chain leaving o.tx o.older o.launch outcome root [] m' := by
  induction executes with
  | refl => exact .inl ⟨l, outer, holds⟩
  | @call m₁ m₂ i first succeeds ih =>
      rcases ih with ⟨l, outer, holds⟩ | ⟨leaving, root, outcome, holds, finished⟩
      · obtain ⟨running, scripted⟩ := preserved.running holds
        obtain ⟨_, _, _, called⟩ := (running.call_action_yields scripted i).value succeeds
        exact .inl (preserved.called holds called)
      · cases finished with
        | root ended =>
            exact absurd ended.current (Action.active_of_isInner rfl
              (Option.isSome_iff_exists.2 ⟨_, ended.traced⟩) succeeds)
  | @finish m₁ m₂ outcome first succeeds ih =>
      rcases ih with ⟨l, outer, holds⟩ | ⟨leaving, root, outcome', holds, finished⟩
      · obtain ⟨running, scripted⟩ := preserved.running holds
        have finished :=
          (running.finish_action_yields scripted outcome (E := fun _ => True)).value succeeds
        cases outer with
        | nil => exact .inr ⟨m₁, l, outcome, holds, finished⟩
        | cons below outer => exact .inl (preserved.returned holds finished)
      · cases finished with
        | root ended =>
            exact absurd ended.current (Action.active_of_isInner rfl
              (Option.isSome_iff_exists.2 ⟨_, ended.traced⟩) succeeds)

/-- It holds unless no context is active any more. -/
theorem Preserved.executes {o : Opening} {P : Machine → Level → List Level → Prop}
    (preserved : Preserved o P) (executes : Executes o.chain m m') {l : Level} {outer : List Level}
    (holds : P m l outer) :
    (∃ l' outer', P m' l' outer') ∨
      (m'.tracer.contexts.current? = none ∧ m'.tracer.transaction?.isSome) := by
  refine (preserved.executes_or_finishes executes holds).imp_right ?_
  rintro ⟨_, _, _, -, finished⟩
  cases finished with
  | root ended => exact ⟨ended.current, Option.isSome_iff_exists.2 ⟨_, ended.traced⟩⟩

/-! ## Whole transactions -/

namespace Episode

/-- **A transaction of a run has been started.** -/
structure Staged (run : Episode chain) (o : Opening) : Prop where
  chain : o.chain = chain
  tx : o.tx = run.tx
  older : o.older = run.idle.tracer.sections.toList
  before : o.world = run.idle.world
  idle : Idle run.idle
  opened : ∃ s row, o.Opened (run.idle.tracer.beginSetting run.tx) s row
  running : Running run.begun o.tx o.older o.launch o.rootLevel []
  world : run.begun.world = o.tx.launch o.world
  stamp : run.begun.tracer.stamp = o.stamp
  incarnations : run.begun.tracer.incarnations = o.incarnations

/-- **Every transaction of a run starts** with its root context active. -/
theorem staged (run : Episode chain) : ∃ o, run.Staged o := by
  obtain ⟨idle, begun⟩ := run.reachable.begun run.free run.starts
  cases begun with
  | skipping skips =>
      rw [run.executing] at skips
      cases skips
  | @running s row incarnations _ announced running world stamp kept =>
      refine ⟨⟨chain, run.tx, run.idle.tracer.sections.toList, { s with root? := some row },
        incarnations, run.idle.world⟩, rfl, rfl, rfl, rfl, idle, ⟨s, row, announced, rfl⟩,
        running, world, ?_, kept⟩
      rw [stamp, Opening.stamp, announced.trace]
      rfl

/-- The calls of a transaction once its root context has been left. -/
def remainder (run : Episode chain) (l : Level) : List CallSection :=
  l.remainder chain (l.incarnationsAfter run.leaving.tracer.incarnations)
    run.leaving.tracer.stamp run.outcome.success

/-- How a transaction ended. -/
def ending (run : Episode chain) : TransactionOutcome where
  success := run.outcome.success
  gasUsed := run.gasUsed

/-- **The root context is left, and the transaction is ended.** -/
structure Departs (run : Episode chain) (o : Opening) (l : Level) (revertStamp : Nat) : Prop where
  running : Running run.leaving o.tx o.older o.launch l []
  ended : Ended run.left o.tx o.older o.launch (run.remainder l) run.outcome
  world : run.left.world =
    if run.outcome.success && l.entry.isDeployment then
      run.leaving.world.setCode o.tx.recipient run.outcome.output
    else l.worldAfter run.leaving.world run.outcome.success
  stamp : run.left.tracer.stamp = run.leaving.tracer.stamp
  incarnations : run.left.tracer.incarnations =
    l.incarnationsAfter run.leaving.tracer.incarnations
  closed : Ended.Closed run.left o.tx o.older o.launch (run.remainder l) run.outcome run.gasUsed
    revertStamp run.closed

/-- **What is preserved holds when the root context is about to be left**, after which nothing but
the end of the transaction happens. -/
theorem Staged.departs {run : Episode chain} {o : Opening} (staged : run.Staged o)
    {P : Machine → Level → List Level → Prop} (preserved : Preserved o P)
    (begins : P run.begun o.rootLevel []) :
    ∃ l revertStamp, P run.leaving l [] ∧ run.Departs o l revertStamp := by
  obtain rfl := staged.chain
  rcases preserved.executes run.runs begins with ⟨l, outer, holds⟩ | ⟨inactive, -⟩
  swap
  · rw [run.atRoot] at inactive
    cases inactive
  obtain ⟨running, scripted⟩ := preserved.running holds
  have number : l.context = LaunchSection.rootContext :=
    Option.some.inj (running.current.symm.trans run.atRoot)
  obtain rfl : outer = [] := running.stacked.outer_eq_nil number
  have finished :=
    (running.finish_action_yields scripted run.outcome (E := fun _ => True)).value run.leaves
  cases finished with
  | root ended world stamp incarnations =>
      have lingers : run.closing = run.left := run.lingers.eq_of_inactive ended.current
        (Option.isSome_iff_exists.2 ⟨_, ended.traced⟩)
      have ends := run.ends
      rw [lingers] at ends
      have yields : Yields ((Action.settle run.gasUsed).carryOut o.chain run.left) _ _ :=
        ended.endTransaction_yields run.gasUsed (E := fun _ => True)
      obtain ⟨revertStamp, closed⟩ := yields.value ends
      exact ⟨l, revertStamp, holds, running, ended, world, stamp, incarnations, closed⟩

section Sections

variable {run : Episode chain} {o : Opening} {l : Level} {revertStamp : Nat}

/-- **The sections of a transaction**: its own, and those of its calls. -/
theorem Departs.sections_eq (departs : run.Departs o l revertStamp) (staged : run.Staged o) :
    run.closed.tracer.sections.toList.drop run.idle.tracer.sections.size =
      .launch (o.launch.finished o.tx run.ending run.left.tracer.incarnations revertStamp) ::
        ((run.remainder l).map CallSection.shut).map .call := by
  rw [departs.closed.sections, staged.older, ← Array.length_toList, List.drop_left]
  rfl

/-- **The calls of a transaction** have been shut. -/
theorem Departs.calls_eq (departs : run.Departs o l revertStamp) (staged : run.Staged o) :
    run.calls = (run.remainder l).map CallSection.shut := by
  rw [Episode.calls, departs.sections_eq staged, List.filterMap_cons]
  generalize (run.remainder l).map CallSection.shut = calls
  induction calls with
  | nil => rfl
  | cons c calls ih => exact congrArg (c :: ·) ih

/-- **The account rows of a transaction**: its own, and those of its calls. -/
theorem Departs.accountRows_eq (departs : run.Departs o l revertStamp) (staged : run.Staged o) :
    run.rows.filterMap Row.account? =
      (o.launch.forwardRows o.tx ++ if run.outcome.success then []
        else o.launch.undoingRows run.left.tracer.incarnations o.tx revertStamp) ++
      run.calls.flatMap (·.accountRows) := by
  obtain ⟨s, row, opened⟩ := staged.opened
  rw [Episode.rows, departs.sections_eq staged, departs.calls_eq staged, List.flatMap_cons,
    List.filterMap_append]
  congr 1
  · refine (LaunchSection.accountRows_finished ..).trans ?_
    rw [opened.accountRows_trace]
    rfl
  · rw [List.flatMap_map, List.filterMap_flatMap]
    exact List.flatMap_congr fun c _ => c.trace_accountRows

end Sections

end Episode

end ExecutionTrace
