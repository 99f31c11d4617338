import ExecutionTrace.Proofs.Context.Ending
import ExecutionTrace.Proofs.Run.Levels

/-!
# Finishing a context

What the end of the active context leads to: the calls made from it fall back if it failed, the
call that spawned it is answered, and the level below becomes the innermost one.

## Main Definitions

* `Level.remainder`, `Level.worldAfter` — what a context leaves behind
* `Running.Exited` — a machine whose innermost context has ended, and is yet to be rolled back if it
  failed
* `Running.Left` — a machine between the end of a context and the return to its parent
* `Running.finishContext_yields` — what finishing a context leads to

## Design Notes

The end of a context and the return from it are separate announcements, and between them a
failed context is rolled back.  Up to the return everything is the same for a root context and
for one that was spawned by a call, so `Running.finishContext_of_left` settles it for both.
-/

namespace ExecutionTrace

namespace Level

/-- The calls made from a context and from those below it, once the context has ended. -/
def remainder (chain : Chain) (incarnations : Incarnations) (stamp : Nat) (success : Bool)
    (l : Level) : List CallSection :=
  if success then l.settled
  else l.settled.map (·.fallBack chain l.checkpoint incarnations stamp)

/-- The world once a context has ended. -/
def worldAfter (world : WorldState) (success : Bool) (l : Level) : WorldState :=
  if success then world else l.checkpoint

/-- The incarnations once a context has ended. -/
def incarnationsAfter (incarnations : Incarnations) (l : Level) : Incarnations :=
  if l.entry.isDeployment then incarnations.ended l.entry.address else incarnations

/-- Nothing becomes of the incarnations if no constructor has ended. -/
theorem incarnationsAfter_eq {l : Level} (plain : l.entry.isDeployment = false)
    (incarnations : Incarnations) : l.incarnationsAfter incarnations = incarnations := by
  rw [incarnationsAfter, if_neg (by simp [plain])]

end Level

/-- The call that spawned a context when the context is about to terminate. -/
def CallSection.parting (chain : Chain) (world : WorldState) (incarnations : Incarnations)
    (child : Nat) (c : CallSection) : CallSection :=
  c.heed (.contextExit child) fun c =>
    c.exited (.canonical chain world incarnations c.caller c.callee)

@[simp]
theorem CallSection.shared_parting (chain : Chain) (world : WorldState)
    (incarnations : Incarnations) (child : Nat) (c : CallSection) :
    (c.parting chain world incarnations child).shared = c.shared := by
  unfold parting heed
  split <;> rfl

@[simp]
theorem CallSection.scenario_parting (chain : Chain) (world : WorldState)
    (incarnations : Incarnations) (child : Nat) (c : CallSection) :
    (c.parting chain world incarnations child).scenario = c.scenario := by
  unfold parting heed
  split <;> rfl

@[simp]
theorem CallSection.callee_parting (chain : Chain) (world : WorldState)
    (incarnations : Incarnations) (child : Nat) (c : CallSection) :
    (c.parting chain world incarnations child).callee = c.callee := by
  unfold parting heed
  split <;> rfl

/-- A call waits for nothing but the return once its child context is about to terminate. -/
theorem CallSection.Pending.parting {child : Nat} {c : CallSection} (h : c.Pending child)
    (chain : Chain) (world : WorldState) (incarnations : Incarnations) :
    (c.parting chain world incarnations child).Pending child ∧
      (c.parting chain world incarnations child).hasLeft = true := by
  unfold CallSection.parting heed
  by_cases waits : .contextExit child ∈ c.awaits
  · rw [if_pos waits]
    refine ⟨h.exited _, ?_⟩
    simp [hasLeft, CallSection.exited]
  · rw [if_neg waits]
    refine ⟨h, ?_⟩
    rw [h.awaits_eq, returnEvents] at waits
    by_contra staying
    exact waits (by simp [staying])

/-! ## Who waits for the end of a context -/

namespace Stacked

variable {t : ContextTree} {tx : Transaction} {stop : Nat} {l below : Level} {outer : List Level}

/-- The calls of the outer levels were made from contexts entered earlier. -/
theorem context_lt_of_outer (h : Stacked t tx stop (l :: outer)) :
    ∀ c ∈ callsOf outer ++ l.spawner?.toList, c.shared.context < l.context := by
  intro c hc
  cases h with
  | root sound spawner => simp [callsOf, spawner] at hc
  | above sound spawned pending home _ rest =>
      have nested := rest.sound.inside
      simp only [spawned, Option.toList_some, List.mem_append, List.mem_singleton] at hc
      rcases hc with older | rfl
      · exact (rest.mem_callsOf older).1
      · omega

/-- Nobody but the call that spawned it waits for the termination of the active context. -/
theorem map_parting (h : Stacked t tx stop (l :: outer)) (chain : Chain) (world : WorldState)
    (incarnations : Incarnations) :
    (callsOf (l :: outer)).map (·.parting chain world incarnations l.context) =
      callsOf outer ++ (l.spawner?.map (·.parting chain world incarnations l.context)).toList ++
        l.settled := by
  have settled : l.settled.map (·.parting chain world incarnations l.context) = l.settled := by
    refine CallSection.map_heed_of_nobody fun c hc waits => ?_
    obtain ⟨resolved, -⟩ := h.sound.settled c hc
    rcases resolved.mem_awaits waits with ⟨-, same⟩ | same <;> cases same
  have further : (callsOf outer).map (·.parting chain world incarnations l.context) =
      callsOf outer := by
    refine CallSection.map_heed_of_nobody fun c hc waits => ?_
    cases h with
    | root => cases hc
    | above sound _ _ _ _ rest =>
        have active := (rest.pending_of_contextExit c hc waits).2
        have nested := rest.sound.inside
        omega
  rw [callsOf, Level.calls, List.map_append, List.map_append, settled, further,
    List.append_assoc]
  cases l.spawner? <;> rfl

end Stacked

/-! ## Up to the return -/

/-- Ending a context rolls nothing back. -/
theorem ContextTree.Unreverted.left {t : ContextTree} {id : Nat} (h : t.Unreverted id) (f : Frame)
    (outcome : ContextOutcome) : (t.left f outcome).Unreverted id := by
  obtain ⟨g, hg, clean⟩ := h
  rw [Unreverted, frame?_left, hg]
  split
  · exact ⟨_, rfl, clean⟩
  · exact ⟨g, rfl, clean⟩

theorem ContextTree.Tells.left {t : ContextTree} {c : CallSection} (h : t.Tells c) (f : Frame)
    (outcome : ContextOutcome) : (t.left f outcome).Tells c where
  standing standing := (h.standing standing).left f outcome
  undone undone := by
    rw [hasReverted_left]
    exact h.undone undone

/-- A change of the later of two groups of calls. -/
theorem map_late {late : CallSection → Prop} [DecidablePred late]
    {change : CallSection → CallSection} {calls calls' : List CallSection}
    (before : ∀ c ∈ calls, ¬late c) (after : ∀ c ∈ calls', late c) :
    (calls ++ calls').map (fun c => if late c then change c else c) =
      calls ++ calls'.map change := by
  rw [List.map_append]
  congr 1
  · conv_rhs => rw [← List.map_id calls]
    exact List.map_congr_left fun c hc => if_neg (before c hc)
  · exact List.map_congr_left fun c hc => if_pos (after c hc)

/-- **A machine between the end of its innermost context and the return from it.** -/
structure Running.Left (chain : Chain) (m : Machine) (older : List Section) (launch : LaunchSection)
    (l : Level) (outer : List Level) (outcome : ContextOutcome) (t : Tracer) (frame : Frame) :
    Prop where
  setting : t.toSetting = { m.tracer.toSetting with
    contexts := t.contexts
    incarnations := l.incarnationsAfter m.tracer.incarnations }
  shape : m.tracer.contexts.SameShape t.contexts
  wellFormed : t.contexts.WellFormed
  truthful : t.contexts.Truthful
  current : t.contexts.current? = outer.head?.map (·.context)
  found : t.contexts.frame? frame.id = some frame
  number : frame.id = l.context
  parent : frame.parent? = outer.head?.map (·.context)
  entry : frame.entry = l.entry
  ended : frame.outcome? = some outcome
  stamped : outcome.success = false → frame.revertStamp = m.tracer.stamp
  /-- Contexts entered before the one that ended are as they were. -/
  stations : ∀ id, id < l.context →
    (t.contexts.frame? id).map Frame.station = (m.tracer.contexts.frame? id).map Frame.station
  spared : outcome.success = true → ∀ c, m.tracer.contexts.Tells c → t.contexts.Tells c
  swept : outcome.success = false → ∀ id, l.context ≤ id → id < m.tracer.contexts.nextId →
    t.contexts.hasReverted id = true
  tracing : Tracing t older launch (callsOf outer ++
    (l.spawner?.map (·.parting chain m.world m.tracer.incarnations l.context)).toList ++
    l.remainder chain (l.incarnationsAfter m.tracer.incarnations) m.tracer.stamp outcome.success)
  ends : m.tracer.contexts.EndedAt t.contexts l.context outcome

/-- **A machine whose innermost context has ended**, nothing having been rolled back yet.  The frame
is the one that the context had before. -/
structure Running.Exited (chain : Chain) (m : Machine) (older : List Section)
    (launch : LaunchSection) (l : Level) (outer : List Level) (outcome : ContextOutcome)
    (frame : Frame) (t : Tracer) : Prop where
  setting : t.toSetting = { m.tracer.toSetting with
    contexts := m.tracer.contexts.left frame outcome
    incarnations := l.incarnationsAfter m.tracer.incarnations }
  tracing : Tracing t older launch (callsOf outer ++
    (l.spawner?.map (·.parting chain m.world m.tracer.incarnations l.context)).toList ++ l.settled)

namespace Running

variable {m : Machine} {tx : Transaction} {older : List Section} {launch : LaunchSection}
  {l : Level} {outer : List Level} {chain : Chain}

/-- The frame of the active context. -/
structure InFrame (m : Machine) (l : Level) (outer : List Level) (frame : Frame) : Prop where
  found : m.tracer.contexts.frame? frame.id = some frame
  number : frame.id = l.context
  parent : frame.parent? = outer.head?.map (·.context)
  unreverted : frame.revertStamp? = none
  entry : frame.entry = l.entry

theorem exists_frame (running : Running m tx older launch l outer) :
    ∃ frame, InFrame m l outer frame := by
  obtain ⟨f, found⟩ := running.wellFormed.current_mem running.current
  have number := running.wellFormed.id_eq found
  have station := running.stacked.sound.station
  rw [found, Option.map_some, Option.some_inj] at station
  refine ⟨f, number ▸ found, number, ?_, ?_, ?_⟩
  · exact congrArg Prod.fst station
  · exact congrArg (fun s => s.2.1) station
  · exact congrArg (fun s => s.2.2.2) station

namespace InFrame

variable {frame : Frame}

theorem current_eq (inFrame : InFrame m l outer frame)
    (running : Running m tx older launch l outer) :
    m.tracer.contexts.current? = some frame.id :=
  inFrame.number ▸ running.current

/-- The end of the active context is announced. -/
theorem exitContext_yields (inFrame : InFrame m l outer frame)
    (running : Running m tx older launch l outer) (outcome : ContextOutcome)
    {E : Violation → Prop} :
    Yields (Tracer.exitContext chain m.world outcome m.tracer)
      (fun id t => id = frame.id ∧ Exited chain m older launch l outer outcome frame t) E := by
  refine (running.tracing.exitContext_yields (inFrame.current_eq running) inFrame.found ?_
    outcome).mono ?_ fun _ h => h
  · intro c hc waits
    rw [inFrame.number] at waits ⊢
    exact (running.stacked.pending_of_contextExit c hc waits).1
  · rintro _ t ⟨rfl, setting, tracing⟩
    refine ⟨rfl, ?_, ?_⟩
    · rw [Level.incarnationsAfter, ← inFrame.entry]
      exact setting
    · rw [← running.stacked.map_parting, ← inFrame.number]
      exact tracing

end InFrame

namespace Exited

variable {outcome : ContextOutcome} {frame : Frame} {t : Tracer}

theorem contexts_eq (exited : Exited chain m older launch l outer outcome frame t) :
    t.contexts = m.tracer.contexts.left frame outcome := by
  rw [exited.setting]

theorem setting_eq (exited : Exited chain m older launch l outer outcome frame t) :
    t.toSetting = { m.tracer.toSetting with
      contexts := t.contexts
      incarnations := l.incarnationsAfter m.tracer.incarnations } := by
  rw [exited.contexts_eq, exited.setting]

theorem stamp_eq (exited : Exited chain m older launch l outer outcome frame t) :
    t.stamp = m.tracer.stamp := by
  rw [exited.setting]

theorem shape (exited : Exited chain m older launch l outer outcome frame t) :
    m.tracer.contexts.SameShape t.contexts := by
  rw [exited.contexts_eq]
  exact ContextTree.sameShape_left ..

theorem wellFormed (exited : Exited chain m older launch l outer outcome frame t)
    (running : Running m tx older launch l outer) (inFrame : InFrame m l outer frame) :
    t.contexts.WellFormed := by
  rw [exited.contexts_eq]
  exact running.wellFormed.left (inFrame.current_eq running) inFrame.found outcome

theorem frame?_eq (exited : Exited chain m older launch l outer outcome frame t)
    (inFrame : InFrame m l outer frame) :
    t.contexts.frame? frame.id = some { frame with outcome? := some outcome } := by
  rw [exited.contexts_eq, ContextTree.frame?_left, if_pos rfl, inFrame.found]
  rfl

theorem ends (exited : Exited chain m older launch l outer outcome frame t)
    (inFrame : InFrame m l outer frame) :
    m.tracer.contexts.EndedAt t.contexts l.context outcome := by
  rw [exited.contexts_eq, ← inFrame.number]
  exact m.tracer.contexts.endedAt_left frame outcome

theorem current_eq (exited : Exited chain m older launch l outer outcome frame t)
    (inFrame : InFrame m l outer frame) :
    t.contexts.current? = outer.head?.map (·.context) := by
  rw [exited.contexts_eq, ← inFrame.parent]
  rfl

/-- Contexts entered before the one that ended are as they were. -/
theorem stations (exited : Exited chain m older launch l outer outcome frame t)
    (inFrame : InFrame m l outer frame) {id : Nat} (before : id < l.context) :
    (t.contexts.frame? id).map Frame.station = (m.tracer.contexts.frame? id).map Frame.station := by
  have number := inFrame.number
  rw [exited.contexts_eq, ContextTree.frame?_left, if_neg (by omega)]

/-- **A context that has succeeded** is as the return finds it. -/
theorem left_of_success (exited : Exited chain m older launch l outer outcome frame t)
    (running : Running m tx older launch l outer) (inFrame : InFrame m l outer frame)
    (success : outcome.success = true) :
    Left chain m older launch l outer outcome t { frame with outcome? := some outcome } where
  setting := exited.setting_eq
  shape := exited.shape
  wellFormed := exited.wellFormed running inFrame
  truthful := by
    have active : m.tracer.contexts.hasReverted frame.id = false := by
      rw [inFrame.number]
      exact running.stacked.sound.unreverted.hasReverted_eq
    rw [exited.contexts_eq]
    exact running.truthful.left_of_success inFrame.found active success
  current := exited.current_eq inFrame
  found := exited.frame?_eq inFrame
  number := inFrame.number
  parent := inFrame.parent
  entry := inFrame.entry
  ended := rfl
  stamped failure := by
    rw [success] at failure
    cases failure
  stations _ before := exited.stations inFrame before
  spared _ c tells := by
    rw [exited.contexts_eq]
    exact tells.left frame outcome
  swept failure := by
    rw [success] at failure
    cases failure
  tracing := by
    rw [Level.remainder, if_pos success]
    exact exited.tracing
  ends := exited.ends inFrame

/-- The calls that are not of the context that ended were made from contexts entered earlier. -/
theorem context_lt (running : Running m tx older launch l outer) :
    ∀ c ∈ callsOf outer ++
      (l.spawner?.map (·.parting chain m.world m.tracer.incarnations l.context)).toList,
      c.shared.context < l.context := by
  intro c hc
  rcases List.mem_append.1 hc with older | spawner
  · exact running.stacked.context_lt_of_outer c (List.mem_append_left _ older)
  · obtain ⟨s, hs, rfl⟩ := by simpa using spawner
    rw [CallSection.shared_parting]
    exact running.stacked.context_lt_of_outer s (List.mem_append_right _ (by simp [hs]))

/-- Whoever waits for the rollback of the context that ended has been made from it or later, and
stands. -/
theorem standing_of_rollback (exited : Exited chain m older launch l outer outcome frame t)
    (running : Running m tx older launch l outer) (inFrame : InFrame m l outer frame) :
    ∀ c ∈ callsOf outer ++
      (l.spawner?.map (·.parting chain m.world m.tracer.incarnations l.context)).toList ++
      l.settled, frame.id ≤ c.shared.context → .rollback c.shared.context ∈ c.awaits →
        c.Standing ∧ t.contexts.Unreverted c.shared.context := by
  intro c hc after waits
  have number := inFrame.number
  rcases List.mem_append.1 hc with before | settled
  · have earlier := context_lt running c before
    omega
  · obtain ⟨resolved, -, -, tells⟩ := running.stacked.sound.settled c settled
    rcases resolved.mem_awaits waits with ⟨standing, -⟩ | same
    · rw [exited.contexts_eq]
      exact ⟨standing, (tells.standing standing).left frame outcome⟩
    · cases same

/-- **A context that has failed is rolled back**, and then is as the return finds it. -/
theorem rollBack_yields (exited : Exited chain m older launch l outer outcome frame t)
    (running : Running m tx older launch l outer) (inFrame : InFrame m l outer frame)
    (failure : outcome.success = false) {E : Violation → Prop} :
    Yields (Tracer.rollBack chain l.checkpoint frame.id t)
      (fun _ t' => Left chain m older launch l outer outcome t'
        (Frame.stampReverted { frame with outcome? := some outcome } t.stamp)) E := by
  have foundEnded := exited.frame?_eq inFrame
  have number := inFrame.number
  -- What was entered after the active context is below it, in the tree as it was before the exit.
  have deeper : ∀ {j}, frame.id < j → j < t.contexts.nextId →
      t.contexts.depthOf frame.id < t.contexts.depthOf j := by
    intro j after before
    rw [exited.shape.depthOf_eq, exited.shape.depthOf_eq]
    exact running.wellFormed.current_deepest (inFrame.current_eq running) after
      (exited.shape.nextId_eq ▸ before)
  have failed : Frame.hasFailed { frame with outcome? := some outcome } = true := by
    simp [Frame.hasFailed, failure]
  refine (exited.tracing.rollBack_yields (exited.wellFormed running inFrame) foundEnded failed
    deeper (exited.standing_of_rollback running inFrame)).mono ?_ fun _ h => h
  rintro _ t' ⟨setting, tracing⟩
  have contexts : t'.contexts = t.contexts.revertedFrom frame.id t.stamp := by rw [setting]
  exact {
    setting := by rw [setting, exited.setting_eq]
    shape := by
      rw [contexts]
      exact exited.shape.trans (ContextTree.sameShape_revertedFrom ..)
    wellFormed := by
      rw [contexts]
      exact (exited.wellFormed running inFrame).revertedFrom ..
    truthful := by
      rw [contexts, exited.contexts_eq]
      exact running.truthful.revertedFrom_left running.wellFormed (inFrame.current_eq running)
        inFrame.found failure t.stamp
    current := by
      rw [contexts, ContextTree.current?_revertedFrom, exited.current_eq inFrame]
    found := by
      show t'.contexts.frame? frame.id = _
      rw [contexts, ContextTree.frame?_revertedFrom, if_pos (Nat.le_refl _), foundEnded]
      rfl
    number
    parent := inFrame.parent
    entry := inFrame.entry
    ended := rfl
    stamped := fun _ => by
      simp [Frame.revertStamp, Frame.stampReverted, inFrame.unreverted, exited.stamp_eq]
    stations := fun id before => by
      rw [contexts, ContextTree.frame?_revertedFrom, if_neg (by omega)]
      exact exited.stations inFrame before
    spared := fun success => by
      rw [failure] at success
      cases success
    swept := fun _ id after before => by
      rw [contexts]
      exact ContextTree.hasReverted_of_swept foundEnded (number ▸ after)
        (exited.shape.nextId_eq ▸ before) _
    tracing := by
      have incarnations : t.incarnations = l.incarnationsAfter m.tracer.incarnations := by
        rw [exited.setting]
      rw [map_late, incarnations, exited.stamp_eq] at tracing
      rotate_left
      · exact fun c hc => Nat.not_le.2 (number ▸ context_lt running c hc)
      · exact fun c hc => number ▸ (running.stacked.sound.settled c hc).2.1
      rw [Level.remainder, if_neg (by simp [failure])]
      exact tracing
    ends := by
      rw [contexts]
      exact (exited.ends inFrame).revertedFrom _ _ }

end Exited

/-- **Finishing a context, up to the return from it.** -/
theorem finishContext_of_left (running : Running m tx older launch l outer)
    (outcome : ContextOutcome) {Q : Nat → Machine → Prop} {E : Fault → Prop}
    (rest : ∀ t frame, Left chain m older launch l outer outcome t frame → Yields ((do
        if frame.parent?.isSome then
          Machine.announce (Tracer.reEnterContext chain (← get).world (Word.ofBool outcome.success))
        else if outcome.success && frame.entry.isDeployment then
          Machine.modifyWorld (·.setCode frame.entry.address outcome.output)
        return frame.id : Step Nat)
      { m with
        tracer := t
        checkpoints := outer.map (·.checkpoint)
        world := l.worldAfter m.world outcome.success }) Q E) :
    Yields (Machine.finishContext chain outcome m) Q E := by
  obtain ⟨frame, inFrame⟩ := running.exists_frame
  -- Whether or not it has been rolled back, the context is looked up before the return from it.
  have returns : ∀ t (f : Frame), Left chain m older launch l outer outcome t f →
      t.contexts.get frame.id = .ok f := by
    intro t f left
    rw [inFrame.number, ← left.number, ContextTree.get_eq_ok left.found]
  unfold Machine.finishContext
  refine Ends.get_bind ?_
  refine Machine.announce_bind (inFrame.exitContext_yields running outcome (E := fun _ => False))
    nofun ?_
  rintro _ t ⟨rfl, exited⟩
  refine Ends.bind_ok (Machine.popCheckpoint_eq running.checkpoints) ?_
  dsimp only
  by_cases success : outcome.success = true
  · have left := exited.left_of_success running inFrame success
    have goal := rest _ _ left
    rw [Level.worldAfter, if_pos success] at goal
    rw [if_pos success]
    refine Ends.get_bind ?_
    exact Machine.ofResult_bind_ok (returns t _ left) goal
  · rw [if_neg success]
    refine Ends.bind_ok (Machine.modifyWorld_eq _) ?_
    refine Machine.announce_bind (exited.rollBack_yields running inFrame
      (Bool.eq_false_iff.2 success) (E := fun _ => False)) nofun ?_
    intro _ t' left
    have goal := rest _ _ left
    rw [Level.worldAfter, if_neg success] at goal
    refine Ends.get_bind ?_
    exact Machine.ofResult_bind_ok (returns t' _ left) goal

/-! ## The return -/

/-- What a context leaves behind is over. -/
theorem Left.settledWithin (running : Running m tx older launch l outer) {outcome : ContextOutcome}
    {t : Tracer} {frame : Frame} (left : Left chain m older launch l outer outcome t frame)
    (incarnations : Incarnations) :
    SettledWithin t.contexts l.context t.contexts.nextId
      (l.remainder chain incarnations m.tracer.stamp outcome.success) := by
  have settled := running.stacked.sound.settled
  rw [left.shape.nextId_eq, Level.remainder]
  split
  · rename_i success
    intro c hc
    obtain ⟨resolved, after, before, tells⟩ := settled c hc
    exact ⟨resolved, after, before, left.spared success c tells⟩
  · rename_i failure
    intro _ hc
    obtain ⟨c, own, rfl⟩ := List.mem_map.1 hc
    obtain ⟨resolved, after, before, -⟩ := settled c own
    obtain ⟨isOver, fallen⟩ := resolved.fallBack chain l.checkpoint incarnations m.tracer.stamp
    have swept := left.swept (Bool.eq_false_iff.2 failure) c.shared.context after before
    refine ⟨isOver, ?_, ?_, fun standing => absurd standing fallen, fun _ => ?_⟩
    all_goals rw [CallSection.shared_fallBack]
    · exact after
    · exact before
    · exact swept

/-- **What finishing a context leads to.** -/
inductive Finished (chain : Chain) (m : Machine) (tx : Transaction) (older : List Section)
    (launch : LaunchSection) (outcome : ContextOutcome) : Level → List Level → Machine → Prop
  /-- Control is back in the context of the call that spawned the one that ended. -/
  | nested {l below : Level} {outer : List Level} {spawner : CallSection} {child : Frame}
      {m' : Machine} (spawned : l.spawner? = some spawner)
      (stamped : outcome.success = false → child.revertStamp = m.tracer.stamp)
      (running : Running m' tx older launch
        (below.add ((spawner.parting chain m.world m.tracer.incarnations l.context).answered chain
          m'.world m.tracer.incarnations child outcome ::
          l.remainder chain m.tracer.incarnations m.tracer.stamp outcome.success)) outer)
      (world : m'.world = l.worldAfter m.world outcome.success)
      (stamp : m'.tracer.stamp = m.tracer.stamp)
      (incarnations : m'.tracer.incarnations = m.tracer.incarnations)
      (swept : outcome.success = false → m'.tracer.contexts.hasReverted l.context = true)
      (ends : m.tracer.contexts.EndedAt m'.tracer.contexts l.context outcome)
      (number : child.id = l.context) :
      Finished chain m tx older launch outcome l (below :: outer) m'
  /-- The transaction has nothing left to execute. -/
  | root {l : Level} {m' : Machine}
      (ended : Ended m' tx older launch (l.remainder chain
        (l.incarnationsAfter m.tracer.incarnations) m.tracer.stamp outcome.success) outcome)
      (world : m'.world =
        if outcome.success && l.entry.isDeployment then m.world.setCode tx.recipient outcome.output
        else l.worldAfter m.world outcome.success)
      (stamp : m'.tracer.stamp = m.tracer.stamp)
      (incarnations : m'.tracer.incarnations = l.incarnationsAfter m.tracer.incarnations)
      (ends : m.tracer.contexts.EndedAt m'.tracer.contexts l.context outcome) :
      Finished chain m tx older launch outcome l [] m'

/-- Once the root context has ended no constructor is running, since only that of the transaction
can have been. -/
theorem quiet_incarnationsAfter (running : Running m tx older launch l []) :
    (l.incarnationsAfter m.tracer.incarnations).Quiet := by
  obtain ⟨deployment, address⟩ : l.entry.isDeployment = tx.isDeployment ∧
      l.entry.address = tx.recipient := by
    cases running.stacked with
    | root _ _ _ deployment address => exact ⟨deployment, address⟩
  intro a
  rw [Level.incarnationsAfter, address, deployment]
  cases running' : m.tracer.incarnations.isDeploying a with
  | false =>
      split
      · rw [Incarnations.ended]
        split
        · rw [Incarnations.isDeploying_set, running']
          exact ite_self _
        · exact running'
      · exact running'
  | true =>
      obtain ⟨deploys, rfl⟩ := running.deploying a running'
      rw [if_pos deploys, Incarnations.ended, if_pos running', Incarnations.isDeploying_set,
        if_pos rfl]
      rfl

/-- The root context has no parent to return to. -/
theorem finished_root (running : Running m tx older launch l []) {outcome : ContextOutcome}
    {t : Tracer} {frame : Frame} (left : Left chain m older launch l [] outcome t frame)
    {world : WorldState} (effect : world =
      if outcome.success && l.entry.isDeployment then m.world.setCode tx.recipient outcome.output
      else l.worldAfter m.world outcome.success) :
    Finished chain m tx older launch outcome l []
      { m with tracer := t, checkpoints := [], world } := by
  obtain ⟨spawner, number⟩ : l.spawner? = none ∧ l.context = LaunchSection.rootContext := by
    cases running.stacked with
    | root _ spawner number => exact ⟨spawner, number⟩
  have incarnations : t.incarnations = l.incarnationsAfter m.tracer.incarnations := by
    rw [left.setting]
  have stamp : t.stamp = m.tracer.stamp := by rw [left.setting]
  have transaction : t.transaction? = m.tracer.transaction? := by rw [left.setting]
  have isOver := left.settledWithin running (l.incarnationsAfter m.tracer.incarnations)
  refine .root ⟨running.transaction, transaction.trans running.traced, running.executing, ?_,
    left.current, left.wellFormed, left.truthful, fun c hc => (isOver c hc).1,
    fun c hc => (isOver c hc).2.2.2, fun c hc => ?_, ?_, rfl, ?_⟩ effect stamp incarnations
    left.ends
  · have tracing := left.tracing
    rw [spawner] at tracing
    exact tracing
  · obtain ⟨-, after, before, -⟩ := isOver c hc
    rw [number] at after
    exact ContextTree.frame?_eq_some_iff.2 ⟨after, before⟩
  · refine ⟨frame, ?_, left.ended, fun failed => ?_⟩
    · rw [← number, ← left.number]
      exact left.found
    · exact (left.stamped failed).trans stamp.symm
  · show t.incarnations.Quiet
    rw [incarnations]
    exact running.quiet_incarnationsAfter

/-! ### The return to the caller -/

section Nested

variable {below : Level} {spawner : CallSection} {outcome : ContextOutcome} {t : Tracer}
  {frame : Frame}

/-- **The frame of the caller**, whose last child is the context that ended. -/
theorem Left.exists_caller (running : Running m tx older launch l (below :: outer))
    (left : Left chain m older launch l (below :: outer) outcome t frame) :
    ∃ caller, t.contexts.frame? caller.id = some caller ∧ caller.id = below.context ∧
      caller.lastChild? = some frame.id := by
  obtain ⟨caller, found⟩ := left.wellFormed.current_mem left.current
  have number : caller.id = below.context := left.wellFormed.id_eq found
  refine ⟨caller, number ▸ found, number, ?_⟩
  obtain ⟨old, there, same⟩ := left.shape.frame found
  obtain ⟨active, inFrame⟩ := running.exists_frame
  have up : m.tracer.contexts.parentOf l.context = some below.context :=
    inFrame.number ▸ (ContextTree.parentOf_eq inFrame.found).trans inFrame.parent
  have children : caller.children = old.children := congrArg (fun s => s.2.2.1) same
  rw [Frame.lastChild?, children, left.number]
  exact running.wellFormed.lastChild?_eq running.current up there

/-- **The call that spawned the context is answered**, and nobody else waits for the return. -/
theorem Left.reEnterContext_yields (running : Running m tx older launch l (below :: outer))
    (left : Left chain m older launch l (below :: outer) outcome t frame)
    (spawned : l.spawner? = some spawner) (pending : spawner.Pending l.context)
    (home : spawner.shared.context = below.context) (plain : l.entry.isDeployment = false)
    (rest : Stacked m.tracer.contexts tx l.context (below :: outer))
    (succeeds : spawner.scenario = .externalUndefined → outcome.success = true)
    (world : WorldState) {E : Violation → Prop} :
    Yields (Tracer.reEnterContext chain world (Word.ofBool outcome.success) t)
      (fun _ t' => t'.toSetting = t.toSetting ∧ Tracing t' older launch
        (callsOf (below :: outer) ++
          ((spawner.parting chain m.world m.tracer.incarnations l.context).answered chain world
            m.tracer.incarnations frame outcome ::
          l.remainder chain m.tracer.incarnations m.tracer.stamp outcome.success))) E := by
  obtain ⟨caller, found, number, last⟩ := left.exists_caller running
  obtain ⟨parted, hasLeft⟩ := pending.parting chain m.world m.tracer.incarnations
  have kept : t.incarnations = m.tracer.incarnations := by
    rw [left.setting]
    exact Level.incarnationsAfter_eq plain _
  have tracing := left.tracing
  rw [spawned, Level.incarnationsAfter_eq plain] at tracing
  -- Earlier calls wait for returns to other contexts, and what the context leaves behind waits for
  -- no return.
  have early : ∀ c ∈ callsOf (below :: outer), .contextReEntry caller.id ∉ c.awaits := by
    intro c hc waits
    have := rest.lt_of_contextReEntry c hc waits
    omega
  have late : ∀ c ∈ l.remainder chain m.tracer.incarnations m.tracer.stamp outcome.success,
      .contextReEntry caller.id ∉ c.awaits := by
    intro c hc waits
    rcases (left.settledWithin running m.tracer.incarnations c hc).1.mem_awaits waits with
      ⟨-, same⟩ | same <;> cases same
  have waits : .contextReEntry caller.id ∈
      (spawner.parting chain m.world m.tracer.incarnations l.context).awaits := by
    rw [parted.awaits_eq, CallSection.returnEvents, if_pos hasLeft, CallSection.shared_parting,
      home, number]
    simp
  refine (tracing.reEnterContext_yields (number ▸ left.current) found last left.found
    left.ended ?_).mono ?_ fun _ h => h
  · intro c hc waiting
    rcases List.mem_append.1 hc with hc | hc
    · rcases List.mem_append.1 hc with hc | hc
      · exact absurd waiting (early c hc)
      · obtain rfl : c = spawner.parting chain m.world m.tracer.incarnations l.context := by
          simpa using hc
        refine ⟨left.number ▸ parted, ?_, hasLeft, fun scenario => ?_⟩
        · rw [CallSection.shared_parting, home, number]
        · rw [CallSection.scenario_parting] at scenario
          exact succeeds scenario
    · exact absurd waiting (late c hc)
  · rintro _ t' ⟨same, tracing'⟩
    refine ⟨same, ?_⟩
    rw [List.map_append, List.map_append, CallSection.map_heed_of_nobody early,
      CallSection.map_heed_of_nobody late, kept, List.append_assoc] at tracing'
    simpa [CallSection.heed, waits] using tracing'

/-- **The level below becomes the innermost one**, with the answered call and what the context
leaves behind. -/
theorem Left.stacked_below (running : Running m tx older launch l (below :: outer))
    (left : Left chain m older launch l (below :: outer) outcome t frame)
    (pending : spawner.Pending l.context) (home : spawner.shared.context = below.context)
    (rest : Stacked m.tracer.contexts tx l.context (below :: outer)) (world : WorldState) :
    Stacked t.contexts tx t.contexts.nextId
      (below.add ((spawner.parting chain m.world m.tracer.incarnations l.context).answered chain
        world m.tracer.incarnations frame outcome ::
        l.remainder chain m.tracer.incarnations m.tracer.stamp outcome.success) :: outer) := by
  have nested := rest.sound.inside
  have inside := running.stacked.sound.inside
  refine (rest.congr left.stations).add (left.shape.nextId_eq ▸ Nat.le_of_lt inside) fun c hc => ?_
  rcases List.mem_cons.1 hc with rfl | further
  · obtain ⟨parted, -⟩ := pending.parting chain m.world m.tracer.incarnations
    have standing := parted.answered chain world m.tracer.incarnations frame outcome
    have made : ((spawner.parting chain m.world m.tracer.incarnations l.context).answered chain
        world m.tracer.incarnations frame outcome).shared.context = below.context := by
      rw [CallSection.shared_answered, CallSection.shared_parting, home]
    have unreverted := rest.sound.unreverted.congr (left.stations _ nested)
    rw [← made] at unreverted
    have bound : below.context < t.contexts.nextId := by
      rw [left.shape.nextId_eq]
      exact Nat.lt_trans nested inside
    exact ⟨.standing standing, Nat.le_of_eq made.symm,
      Nat.lt_of_le_of_lt (Nat.le_of_eq made) bound,
      unreverted.tells fun undone => undone.not_standing standing⟩
  · obtain ⟨isOver, after, before, tells⟩ :=
      left.settledWithin running m.tracer.incarnations c further
    exact ⟨isOver, by omega, before, tells⟩

/-- What active contexts act on stays warm when the innermost one ends, even if it failed. -/
theorem isWarm_worldAfter (running : Running m tx older launch l outer) (success : Bool) :
    ∀ x ∈ outer, (l.worldAfter m.world success).isWarm x.entry.address = true := by
  rw [Level.worldAfter]
  split
  · exact fun x hx => running.warm x (List.mem_cons_of_mem _ hx)
  · exact (List.pairwise_cons.1 running.warmBelow).1

/-- The context of a call that has been answered becomes the innermost one. -/
theorem answer_yields (running : Running m tx older launch l (below :: outer))
    (left : Left chain m older launch l (below :: outer) outcome t frame)
    (succeeds : ∀ c, l.spawner? = some c → c.scenario = .externalUndefined →
      outcome.success = true) {world : WorldState}
    (effect : world = l.worldAfter m.world outcome.success)
    {E : Violation → Prop} :
    Yields (Tracer.reEnterContext chain world (Word.ofBool outcome.success) t)
      (fun _ t' => Finished chain m tx older launch outcome l (below :: outer)
        { m with tracer := t', checkpoints := (below :: outer).map (·.checkpoint), world }) E := by
  cases running.stacked with
  | @above _ _ _ _ spawner sound spawned pending home plain rest =>
  refine (left.reEnterContext_yields running spawned pending home plain rest
    (succeeds spawner spawned) world).mono ?_ fun _ h => h
  rintro _ t' ⟨same, tracing⟩
  have contexts : t'.contexts = t.contexts := by rw [same]
  have incarnations : t'.incarnations = m.tracer.incarnations := by
    rw [same, left.setting]
    exact Level.incarnationsAfter_eq plain _
  have stamp : t'.stamp = m.tracer.stamp := by rw [same, left.setting]
  have traced : t'.transaction? = m.tracer.transaction? := by rw [same, left.setting]
  have warm : ∀ x ∈ below :: outer, world.isWarm x.entry.address = true :=
    effect ▸ running.isWarm_worldAfter outcome.success
  refine .nested spawned left.stamped ⟨running.transaction, traced.trans running.traced,
    running.executing, ?_, ?_, ?_, ?_, ?_, rfl, ?_, ?_, ?_, ?_⟩ effect stamp incarnations ?_ ?_
    left.number
  · rw [callsOf_add]
    exact tracing
  · rw [contexts]
    exact left.wellFormed
  · rw [contexts]
    exact left.truthful
  · rw [contexts]
    exact left.current
  · rw [contexts]
    exact left.stacked_below running pending home rest world
  · exact fun x hx => running.scripted x (List.mem_cons_of_mem _ hx)
  · intro x hx
    rcases List.mem_cons.1 hx with rfl | further
    · exact warm below (List.mem_cons_self ..)
    · exact warm x (List.mem_cons_of_mem _ further)
  · have inner := (List.pairwise_cons.1 running.warmBelow).2
    exact List.pairwise_cons.2 (List.pairwise_cons.1 inner)
  · rw [incarnations]
    exact running.deploying
  · intro failure
    show t'.contexts.hasReverted l.context = true
    rw [contexts]
    exact left.swept failure _ (Nat.le_refl _) sound.inside
  · show m.tracer.contexts.EndedAt t'.contexts l.context outcome
    rw [contexts]
    exact left.ends

end Nested

/-- **Finishing a context succeeds**, unless a call to an account without code is told to fail. -/
theorem finishContext_yields (running : Running m tx older launch l outer)
    {outcome : ContextOutcome} (succeeds : ∀ c, l.spawner? = some c →
      c.scenario = .externalUndefined → outcome.success = true) {E : Fault → Prop} :
    Yields (Machine.finishContext chain outcome m)
      (fun _ m' => Finished chain m tx older launch outcome l outer m') E := by
  refine running.finishContext_of_left outcome fun t frame left => ?_
  cases outer with
  | nil =>
      have address : l.entry.address = tx.recipient := by
        cases running.stacked with
        | root _ _ _ _ address => exact address
      rw [if_neg (by simp [left.parent]), left.entry]
      by_cases deploys : (outcome.success && l.entry.isDeployment) = true
      · rw [if_pos deploys]
        refine Ends.bind_ok (Machine.modifyWorld_eq _) ?_
        refine running.finished_root left ?_
        rw [if_pos deploys, Level.worldAfter, if_pos (Bool.and_eq_true_iff.1 deploys).1, address]
      · rw [if_neg deploys]
        refine running.finished_root left ?_
        rw [if_neg deploys]
  | cons below outer =>
      rw [if_pos (by simp [left.parent])]
      refine Ends.get_bind ?_
      refine Machine.announce_bind (running.answer_yields left succeeds rfl
        (E := fun _ => False)) nofun ?_
      exact fun _ t finished => finished

end Running

end ExecutionTrace
