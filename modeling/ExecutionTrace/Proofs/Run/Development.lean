import ExecutionTrace.Proofs.Run.Driving
import ExecutionTrace.Proofs.Run.Stages

/-!
# How calls develop

A transaction adds a call to its trace with every call instruction and never takes one away.  A call
that has been added changes in two ways only: it is answered when the context that it spawned is
finished, and it falls back when the context that it was made from is rolled back.

## Main Definitions

* `CallSection.Emerges` — what the step that makes a call adds to the trace
* `CallSection.Develops` — what a finished context makes of an earlier call
* `CallSection.Lasting` — a property that a call keeps however it develops
* `Episode.CalledBy` — a call and the instruction that made it
* `Episode.exists_calledBy`, `Episode.CalledBy.lasting` — every call has its instruction, and keeps
  what the instruction gave it

## Design Notes

The calls of all active contexts, in the order of their announcement, are the calls of the trace.
So the number of a section says which call it is, whatever has become of its context.
-/

namespace ExecutionTrace

variable {chain : Chain} {m m' : Machine}

namespace CallSection

/-- **What the step that makes a call adds to the trace**, by how far the call gets in that step.
Precompiles end as the outcomes given say. -/
inductive Emerges (chain : Chain) (outcomes : Std.TreeMap Address ContextOutcome)
    (setting : Setting) (world : WorldState) (frame : Frame) (i : Invocation) : CallSection → Prop
  /-- The call raised an exception. -/
  | dismissed {c : CallSection} (announced : c.Announced chain setting world frame i)
      (raised : i.exceptions.any = true) : Emerges chain outcomes setting world frame i c
  /-- The call aborted. -/
  | aborted {c : CallSection} (announced : c.Announced chain setting world frame i)
      (quiet : i.exceptions.any = false) (aborts : i.aborts.any = true) :
      Emerges chain outcomes setting world frame i (c.push 0)
  /-- The call spawned a context that has ended by itself. -/
  | immediate {c c' : CallSection} {before : Parties} {child : Frame} {outcome : ContextOutcome}
      (world' : WorldState) (incarnations : Incarnations)
      (announced : c.Announced chain setting world frame i) (quiet : i.exceptions.any = false)
      (proceeds : i.aborts.any = false) (other : c.scenario ≠ .contractUndefined)
      (enters : c.Enters before c')
      (succeeds : c.scenario = .externalUndefined → outcome.success = true)
      (told : c.scenario = .precompileUndefined →
        outcome = i.precompileOutcome outcomes c.callee) :
      Emerges chain outcomes setting world frame i
        (c'.answered chain world' incarnations child outcome)
  /-- The call spawned a context that executes code. -/
  | spawned {c c' : CallSection} {before : Parties}
      (announced : c.Announced chain setting world frame i) (quiet : i.exceptions.any = false)
      (proceeds : i.aborts.any = false) (scenario : c.scenario = .contractUndefined)
      (enters : c.Enters before c') : Emerges chain outcomes setting world frame i c'

/-- **What a finished context makes of an earlier call**, the context being left at the stamp
given. -/
inductive Develops (chain : Chain) (stamp : Nat) (outcome : ContextOutcome) :
    CallSection → CallSection → Prop
  | stays (c : CallSection) : Develops chain stamp outcome c c
  /-- The context was spawned by the call. -/
  | returns {c : CallSection} {id : Nat} {child : Frame} (world world' : WorldState)
      (incarnations : Incarnations) (pending : c.Pending id)
      (scenario : c.scenario = .contractUndefined)
      (stamped : outcome.success = false → child.revertStamp = stamp) :
      Develops chain stamp outcome c
        ((c.parting chain world incarnations id).answered chain world' incarnations child outcome)
  /-- The call was made from the context, or from one below it. -/
  | falls {c : CallSection} (world : WorldState) (incarnations : Incarnations)
      (failure : outcome.success = false) (isOver : c.Resolved) :
      Develops chain stamp outcome c (c.fallBack chain world incarnations stamp)

/-- **A property that a call keeps** however it develops. -/
def Lasting (chain : Chain) (Q : CallSection → Prop) : Prop :=
  ∀ {stamp outcome c c'}, Develops chain stamp outcome c c' → Q c → Q c'

end CallSection

/-! ## The steps of a transaction -/

/-- The calls of a transaction are read off its trace. -/
theorem Tracing.calls_unique {t : Tracer} {older : List Section} {launch : LaunchSection}
    {calls calls' : List CallSection} (h : Tracing t older launch calls)
    (h' : Tracing t older launch calls') : calls = calls' := by
  have same := h.sections.symm.trans h'.sections
  have called := List.tail_eq_of_cons_eq (List.append_cancel_left same)
  exact List.map_injective_iff.2 (fun c c' same => Section.call.inj same) called

theorem Tracing.size_eq {t : Tracer} {older : List Section} {launch : LaunchSection}
    {calls : List CallSection} (h : Tracing t older launch calls) :
    t.sections.size = older.length + 1 + calls.length := by
  rw [← Array.length_toList, h.sections, List.length_append, List.length_cons, List.length_map]
  omega

/-- What a context leaves behind has developed from what was there. -/
theorem Level.develops_remainder {t : ContextTree} {stop : Nat} {l : Level}
    (settled : SettledWithin t l.context stop l.settled) (chain : Chain)
    (incarnations : Incarnations) (stamp : Nat) (outcome : ContextOutcome) :
    List.Forall₂ (CallSection.Develops chain stamp outcome) l.settled
      (l.remainder chain incarnations stamp outcome.success) := by
  unfold Level.remainder
  split
  · exact List.forall₂_same.2 fun c _ => .stays c
  · rename_i failure
    refine List.forall₂_map_right_iff.2 (List.forall₂_same.2 fun c hc => ?_)
    exact .falls _ _ (Bool.eq_false_iff.2 failure) (settled c hc).1

namespace Running

variable {tx : Transaction} {older : List Section} {launch : LaunchSection} {l below : Level}
  {outer : List Level}

/-- **A call instruction adds one call.** -/
theorem Called.emerges {frame : Frame} {i : Invocation} {c : CallSection} (scripted : l.Scripted)
    (called : Called chain m tx older launch l outer frame i c m') :
    ∃ l' outer' c', Running m' tx older launch l' outer' ∧ l'.Scripted ∧
      callsOf (l' :: outer') = callsOf (l :: outer) ++ [c'] ∧
      c'.Emerges chain m.precompileOutcomes (callSetting m) m.world frame i := by
  have announced := called.announced
  cases called.effect with
  | dismissed raised running =>
      exact ⟨_, _, c, running, scripted, callsOf_add .., .dismissed announced raised⟩
  | aborted quiet aborts running =>
      exact ⟨_, _, _, running, scripted, callsOf_add .., .aborted announced quiet aborts⟩
  | immediate quiet proceeds other enters succeeds running _ _ _ told =>
      exact ⟨_, _, _, running, scripted, callsOf_add ..,
        .immediate _ _ announced quiet proceeds other enters succeeds told⟩
  | @spawned c' _ quiet proceeds scenario enters running =>
      exact ⟨_, _, c', running, enters.scripted scenario rfl, rfl,
        .spawned announced quiet proceeds scenario enters⟩

/-- The root context was spawned by no call. -/
theorem callsOf_root (running : Running m tx older launch l []) : callsOf [l] = l.settled := by
  cases running.stacked with
  | root _ spawner => simp [callsOf, Level.calls, spawner]

/-- **A finished context lets earlier calls develop.** -/
theorem Finished.develops (running : Running m tx older launch l (below :: outer))
    (scripted : l.Scripted) {outcome : ContextOutcome}
    (finished : Finished chain m tx older launch outcome l (below :: outer) m') :
    ∃ l', Running m' tx older launch l' outer ∧ l'.Scripted ∧
      List.Forall₂ (CallSection.Develops chain m.tracer.stamp outcome)
        (callsOf (l :: below :: outer)) (callsOf (l' :: outer)) := by
  cases finished with
  | @nested _ _ spawner child _ spawned stamped running' =>
      refine ⟨_, running', running.scripted below (.head _), ?_⟩
      have remaining := Level.develops_remainder running.stacked.sound.settled chain
        m.tracer.incarnations m.tracer.stamp outcome
      have pending := running.stacked.spawner_pending spawned
      rw [callsOf_add, callsOf, Level.calls, spawned]
      refine List.rel_append (List.forall₂_same.2 fun c _ => .stays c) (.cons ?_ remaining)
      exact .returns _ _ _ pending (scripted spawner spawned) stamped

end Running

namespace Running

variable {tx : Transaction} {older : List Section} {launch : LaunchSection} {l : Level}
  {outer : List Level}

/-- The trace has as many calls after a finished context as before. -/
theorem Finished.size_eq (running : Running m tx older launch l outer) (scripted : l.Scripted)
    {outcome : ContextOutcome} (finished : Finished chain m tx older launch outcome l outer m') :
    m'.tracer.sections.size = m.tracer.sections.size := by
  have size := running.tracing.size_eq
  cases outer with
  | nil =>
      cases finished with
      | root ended =>
          have remaining := (Level.develops_remainder running.stacked.sound.settled chain
            (l.incarnationsAfter m.tracer.incarnations) m.tracer.stamp outcome).length_eq
          have size' := ended.tracing.size_eq
          rw [running.callsOf_root] at size
          omega
  | cons below outer =>
      obtain ⟨l', running', -, develops⟩ := finished.develops running scripted
      have size' := running'.tracing.size_eq
      have remaining := develops.length_eq
      omega

end Running

/-! ## Lasting properties -/

namespace Opening

variable {o : Opening}

theorem scripted_rootLevel (o : Opening) : o.rootLevel.Scripted := by
  intro c spawned
  cases spawned

/-- A transaction keeps running until its root context is left. -/
theorem keepsRunning (o : Opening) :
    Preserved o fun m l outer => Running m o.tx o.older o.launch l outer ∧ l.Scripted where
  running := id
  called := by
    rintro m l outer frame i c m' ⟨-, scripted⟩ called
    obtain ⟨l', outer', -, running, scripted', -⟩ := called.emerges scripted
    exact ⟨l', outer', running, scripted'⟩
  returned := by
    rintro m l below outer outcome m' ⟨running, scripted⟩ finished
    obtain ⟨l', running', scripted', -⟩ := finished.develops running scripted
    exact ⟨l', outer, running', scripted'⟩

/-- **What lasts of the call at one place in the trace**, while later calls are added. -/
theorem keepsCall (o : Opening) {Q : CallSection → Prop} (lasting : CallSection.Lasting o.chain Q)
    (k : Nat) :
    Preserved o fun m l outer => (Running m o.tx o.older o.launch l outer ∧ l.Scripted) ∧
      ∃ c, (callsOf (l :: outer))[k]? = some c ∧ Q c where
  running h := h.1
  called := by
    rintro m l outer frame i c m' ⟨⟨-, scripted⟩, old, found, holds⟩ called
    obtain ⟨l', outer', c', running, scripted', calls, -⟩ := called.emerges scripted
    refine ⟨l', outer', ⟨running, scripted'⟩, old, ?_, holds⟩
    rw [calls]
    exact List.getElem?_append_left (List.getElem?_eq_some_iff.1 found).1 |>.trans found
  returned := by
    rintro m l below outer outcome m' ⟨⟨running, scripted⟩, old, found, holds⟩ finished
    obtain ⟨l', running', scripted', develops⟩ := finished.develops running scripted
    obtain ⟨inside, same⟩ := List.getElem?_eq_some_iff.1 found
    have inside' := develops.length_eq ▸ inside
    have developed := develops.get inside inside'
    rw [List.get_eq_getElem, List.get_eq_getElem, same] at developed
    exact ⟨l', outer, ⟨running', scripted'⟩, _, List.getElem?_eq_getElem inside',
      lasting developed holds⟩

end Opening

namespace Episode

/-- **A call of a transaction and the instruction that made it**: the step of the instruction added
the section. -/
def CalledBy (run : Episode chain) (i : Invocation) (c : CallSection) : Prop :=
  ∃ m m', Executes chain run.begun m ∧ (Action.call i).carryOut chain m = .ok () m' ∧
    Executes chain m' run.leaving ∧
    run.closed.tracer.sections[m.tracer.sections.size]? = some (.call c)

variable {run : Episode chain} {o : Opening}

/-- Every step of a transaction up to the end of its root context is taken by an active one. -/
theorem Staged.running_of_step (staged : run.Staged o) (executes : Executes chain run.begun m)
    {a : Action} (inner : a.isInner = true) (succeeds : a.carryOut chain m = .ok () m') :
    ∃ l outer, Running m o.tx o.older o.launch l outer ∧ l.Scripted := by
  obtain rfl := staged.chain
  rcases o.keepsRunning.executes executes ⟨staged.running, o.scripted_rootLevel⟩ with
    found | ⟨inactive, traced⟩
  · exact found
  · exact absurd inactive (Action.active_of_isInner inner traced succeeds)

/-- **Every section that was added while the transaction ran** was added by a call instruction. -/
theorem Staged.exists_call (staged : run.Staged o) (executes : Executes chain run.begun m) {n : Nat}
    (late : run.begun.tracer.sections.size ≤ n) (early : n < m.tracer.sections.size) :
    ∃ m₁ m₂ i, Executes chain run.begun m₁ ∧ (Action.call i).carryOut chain m₁ = .ok () m₂ ∧
      Executes chain m₂ m ∧ m₁.tracer.sections.size = n := by
  obtain rfl := staged.chain
  induction executes with
  | refl => omega
  | @call m₁ m₂ i first succeeds ih =>
      obtain ⟨l, outer, running, scripted⟩ := staged.running_of_step first rfl succeeds
      obtain ⟨_, _, _, called⟩ := (running.call_action_yields scripted i).value succeeds
      obtain ⟨l', outer', c', running', -, calls, -⟩ := called.emerges scripted
      have size := running.tracing.size_eq
      have size' := running'.tracing.size_eq
      rw [calls, List.length_append, List.length_singleton] at size'
      by_cases last : n = m₁.tracer.sections.size
      · exact ⟨m₁, m₂, i, first, succeeds, .refl m₂, last.symm⟩
      · obtain ⟨a, b, j, before, step, after, same⟩ := ih (by omega)
        exact ⟨a, b, j, before, step, after.call succeeds, same⟩
  | @finish m₁ m₂ outcome first succeeds ih =>
      obtain ⟨l, outer, running, scripted⟩ := staged.running_of_step first rfl succeeds
      have finished := (running.finish_action_yields scripted outcome (E := fun _ => True)).value
        succeeds
      rw [finished.size_eq running scripted] at early
      obtain ⟨a, b, j, before, step, after, same⟩ := ih early
      exact ⟨a, b, j, before, step, after.finish succeeds, same⟩

section Whole

variable {l : Level} {revertStamp : Nat}

/-- The sections at the end of a transaction, by number. -/
theorem Departs.getElem?_sections (departs : run.Departs o l revertStamp) (k : Nat) :
    run.closed.tracer.sections[o.older.length + 1 + k]? =
      (run.remainder l)[k]?.map fun c => .call c.shut := by
  rw [← Array.getElem?_toList, departs.closed.sections, List.getElem?_append_right (by omega)]
  have shift : o.older.length + 1 + k - o.older.length = k + 1 := by omega
  rw [shift, List.getElem?_cons_succ, List.map_map, List.getElem?_map]
  rfl

/-- The calls of a transaction have developed from what they were before its root context was
left. -/
theorem Departs.develops (departs : run.Departs o l revertStamp) :
    List.Forall₂ (CallSection.Develops chain run.leaving.tracer.stamp run.outcome) (callsOf [l])
      (run.remainder l) := by
  rw [departs.running.callsOf_root]
  exact Level.develops_remainder departs.running.stacked.sound.settled ..

/-- What lasts of a call until its root context is left lasts until the end of the transaction. -/
theorem Departs.remains (departs : run.Departs o l revertStamp) {Q : CallSection → Prop}
    (lasting : CallSection.Lasting chain Q) {c : CallSection} {k : Nat}
    (found : (callsOf [l])[k]? = some c) (holds : Q c) :
    ∃ c', (run.remainder l)[k]? = some c' ∧ Q c' := by
  obtain ⟨inside, same⟩ := List.getElem?_eq_some_iff.1 found
  have inside' := departs.develops.length_eq ▸ inside
  have developed := departs.develops.get inside inside'
  rw [List.get_eq_getElem, List.get_eq_getElem, same] at developed
  exact ⟨_, List.getElem?_eq_getElem inside', lasting developed holds⟩

end Whole

/-- **Precompiles end throughout a transaction as they did before it.** -/
theorem precompileOutcomes_eq (run : Episode chain) (executes : Executes chain run.begun m) :
    m.precompileOutcomes = run.idle.precompileOutcomes := by
  have started := Action.drives run.reachable.seated run.starts
  exact (started.trans (executes.drives started.1.seated)).2

/-- **What an instruction gives its call lasts** until the end of the transaction. -/
theorem CalledBy.lasting {i : Invocation} {c : CallSection} (calledBy : run.CalledBy i c)
    {Q : CallSection → Prop} (lasting : CallSection.Lasting chain Q)
    (emerges : ∀ {aborts setting world frame c},
      CallSection.Emerges chain run.idle.precompileOutcomes setting world frame
        { i with aborts } c → Q c) :
    ∃ c', c = c'.shut ∧ c'.Resolved ∧ Q c' := by
  obtain ⟨m, m', before, succeeds, after, found⟩ := calledBy
  rw [← run.precompileOutcomes_eq before] at emerges
  obtain ⟨o, staged⟩ := run.staged
  obtain rfl := staged.chain
  obtain ⟨l, outer, running, scripted⟩ := staged.running_of_step before rfl succeeds
  obtain ⟨_, _, _, called⟩ := (running.call_action_yields scripted i).value succeeds
  obtain ⟨l', outer', c', running', scripted', calls, emerged⟩ := called.emerges scripted
  let k := (callsOf (l :: outer)).length
  have number : m.tracer.sections.size = o.older.length + 1 + k := running.tracing.size_eq
  have new : (callsOf (l' :: outer'))[k]? = some c' := by
    rw [calls]
    exact List.getElem?_concat_length ..
  -- The call is still at its place when the root context is about to be left.
  obtain ⟨last, revertStamp, -, departs⟩ := staged.departs o.keepsRunning
    ⟨staged.running, o.scripted_rootLevel⟩
  rcases (o.keepsCall lasting k).executes after
    ⟨⟨running', scripted'⟩, c', new, emerges emerged⟩ with
    ⟨l'', outer'', ⟨running'', -⟩, c'', found'', holds⟩ | ⟨inactive, -⟩
  · rw [running''.tracing.calls_unique departs.running.tracing] at found''
    obtain ⟨c₀, found₀, holds₀⟩ := departs.remains lasting found'' holds
    rw [number, departs.getElem?_sections, found₀] at found
    have resolved := departs.ended.resolved c₀ (List.mem_of_getElem? found₀)
    exact ⟨c₀, (Section.call.inj (Option.some.inj found)).symm, resolved, holds₀⟩
  · rw [run.atRoot] at inactive
    cases inactive

/-- **Every call of a transaction was made by an instruction.** -/
theorem exists_calledBy {c : CallSection} (hc : c ∈ run.calls) : ∃ i, run.CalledBy i c := by
  obtain ⟨o, staged⟩ := run.staged
  obtain ⟨l, revertStamp, -, departs⟩ := staged.departs o.keepsRunning
    ⟨staged.running, o.scripted_rootLevel⟩
  rw [departs.calls_eq staged] at hc
  obtain ⟨c', listed, rfl⟩ := List.mem_map.1 hc
  obtain ⟨k, inside, found⟩ := List.getElem_of_mem listed
  have none : (callsOf [o.rootLevel]).length = 0 := rfl
  have start := staged.running.tracing.size_eq
  have size := departs.running.tracing.size_eq
  rw [departs.develops.length_eq] at size
  obtain ⟨m₁, m₂, i, before, succeeds, after, number⟩ := staged.exists_call run.runs
    (n := o.older.length + 1 + k) (by omega) (by omega)
  refine ⟨i, m₁, m₂, before, succeeds, after, ?_⟩
  rw [number, departs.getElem?_sections, List.getElem?_eq_getElem inside]
  exact congrArg (fun c => some (Section.call c.shut)) found

end Episode

end ExecutionTrace
