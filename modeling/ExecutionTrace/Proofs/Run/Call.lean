import ExecutionTrace.Proofs.Run.Finish

/-!
# Carrying out a call

What a call instruction leads to.  A call to a contract adds a level.  Every other call is over
within the step: it fails or aborts without spawning a context, or spawns one that ends as soon
as it is entered.

## Main Definitions

* `Invocation.precompileOutcome` — how a precompile ends that an instruction calls
* `CallSection.moved` — the world once the callee is warm and the value has moved
* `Running.Called` — what a call instruction leads to
* `Running.call_yields` — that it does, or that its script is to blame

## Design Notes

A context that ends by itself is entered and finished like any other, so for a moment it is a
level of its own, and `Running.finishContext_yields` takes it away again.
-/

namespace ExecutionTrace

/-- **How a precompile ends** that the instruction calls: as it has been told, or by handing back
its call data. -/
def Invocation.precompileOutcome (i : Invocation) (outcomes : Std.TreeMap Address ContextOutcome)
    (callee : Address) : ContextOutcome :=
  outcomes.getD callee (.succeeded i.callData)

section

variable {i : Invocation} {outcomes : Std.TreeMap Address ContextOutcome} {callee : Address}

theorem Invocation.precompileOutcome_of_told {outcome : ContextOutcome}
    (told : outcomes[callee]? = some outcome) : i.precompileOutcome outcomes callee = outcome := by
  rw [precompileOutcome, Std.TreeMap.getD_eq_getD_getElem?, told]
  rfl

theorem Invocation.precompileOutcome_of_untold (untold : outcomes[callee]? = none) :
    i.precompileOutcome outcomes callee = .succeeded i.callData := by
  rw [precompileOutcome, Std.TreeMap.getD_eq_getD_getElem?, untold]
  rfl

end

namespace CallSection

/-- **The world when the child context of a call starts**: the callee is warm, and the value has
moved. -/
def moved (world : WorldState) (c : CallSection) : WorldState :=
  let warmed := world.warmUp c.callee
  if c.kind.movesValue then ((warmed.debit? c.caller c.value).getD warmed).credit c.callee c.value
  else warmed

theorem isWarm_moved (world : WorldState) (c : CallSection) (a : Address) :
    (c.moved world).isWarm a = (world.warmUp c.callee).isWarm a := by
  unfold moved
  dsimp only
  split
  · exact WorldState.isWarm_debit ..
  · rfl

theorem hasCode_moved (world : WorldState) (c : CallSection) (a : Address) :
    (c.moved world).hasCode a = world.hasCode a := by
  unfold moved
  dsimp only
  split
  · rw [WorldState.hasCode_credit, WorldState.hasCode_debit, WorldState.hasCode_warmUp]
  · rfl

/-- The context that a call spawns. -/
def childEntry (c : CallSection) : ContextEntry where
  address := Machine.actingAddress c.kind c.caller c.callee
  codeAddress := c.callee
  caller := c.caller
  value := c.value

/-- The child context acts on the caller or on the callee. -/
theorem address_childEntry (c : CallSection) :
    c.childEntry.address = c.caller ∨ c.childEntry.address = c.callee := by
  unfold childEntry Machine.actingAddress
  cases c.kind <;> simp

/-- A call to an account without code, or to a precompile, has nothing to do when its child
context terminates. -/
theorem parting_of_not_contract {c : CallSection} (other : c.scenario ≠ .contractUndefined)
    (chain : Chain) (world : WorldState) (incarnations : Incarnations) (child : Nat) :
    c.parting chain world incarnations child = c :=
  if_neg fun waits => other (scenario_of_contextExit_mem waits)

/-- The entry of a child context shows accounts and latches the parties. -/
theorem Enters.eq {c c' : CallSection} {before : Parties} (h : c.Enters before c') :
    ∃ rows : List AccountRow, c' = { c.append (rows.map .account) with after? := c'.after? } := by
  rcases h with ⟨-, rfl⟩ | ⟨-, after, -, rfl⟩
  · exact ⟨[], by rw [List.map_nil, append_nil]⟩
  · exact ⟨_, rfl⟩

theorem Enters.shared_eq {c c' : CallSection} {before : Parties} (h : c.Enters before c') :
    c'.shared = c.shared := by
  obtain ⟨rows, same⟩ := h.eq
  rw [same]
  rfl

theorem Enters.scenario_eq {c c' : CallSection} {before : Parties} (h : c.Enters before c') :
    c'.scenario = c.scenario := by
  obtain ⟨rows, same⟩ := h.eq
  rw [same]
  rfl

/-- The context of a call to a contract executes code. -/
theorem Enters.scripted {c c' : CallSection} {before : Parties} (h : c.Enters before c')
    (scenario : c.scenario = .contractUndefined) {l : Level} (spawned : l.spawner? = some c') :
    l.Scripted := by
  intro s spawner
  obtain rfl := Option.some.inj (spawned.symm.trans spawner)
  exact h.scenario_eq.trans scenario

end CallSection

namespace Running

variable {m : Machine} {tx : Transaction} {older : List Section} {launch : LaunchSection}
  {l : Level} {outer : List Level} {chain : Chain}

/-- The setting of a call that is announced now. -/
def callSetting (m : Machine) : Setting :=
  { m.tracer.toSetting with stamp := m.tracer.stamp + 1 }

/-- **The effect of an accepted call**, by what became of it. -/
inductive Effect (chain : Chain) (m : Machine) (tx : Transaction) (older : List Section)
    (launch : LaunchSection) (l : Level) (outer : List Level) (i : Invocation) (c : CallSection)
    (m' : Machine) : Prop
  /-- The call raised an exception. -/
  | dismissed (raised : i.exceptions.any = true)
      (running : Running m' tx older launch (l.add [c]) outer) (world : m'.world = m.world)
      (contexts : m'.tracer.contexts = m.tracer.contexts)
  /-- The call aborted. -/
  | aborted (quiet : i.exceptions.any = false) (aborts : i.aborts.any = true)
      (running : Running m' tx older launch (l.add [c.push 0]) outer)
      (world : m'.world = m.world.warmUp c.callee)
      (contexts : m'.tracer.contexts = m.tracer.contexts)
  /-- The call spawned a context that has ended. -/
  | immediate {c' : CallSection} {child : Frame} {outcome : ContextOutcome}
      (quiet : i.exceptions.any = false) (proceeds : i.aborts.any = false)
      (other : c.scenario ≠ .contractUndefined)
      (enters : c.Enters
        (.canonical chain m.world m.tracer.incarnations c.caller c.callee) c')
      (succeeds : c.scenario = .externalUndefined → outcome.success = true)
      (running : Running m' tx older launch
        (l.add [c'.answered chain m'.world m.tracer.incarnations child outcome]) outer)
      (world : m'.world = if outcome.success then c.moved m.world else m.world.warmUp c.callee)
      (number : child.id = m.tracer.contexts.nextId)
      (ends : (m.tracer.contexts.enter c.childEntry).EndedAt m'.tracer.contexts child.id outcome)
      (told : c.scenario = .precompileUndefined →
        outcome = i.precompileOutcome m.precompileOutcomes c.callee)
  /-- The call spawned a context that executes code. -/
  | spawned {c' : CallSection} {child : Nat} (quiet : i.exceptions.any = false)
      (proceeds : i.aborts.any = false) (scenario : c.scenario = .contractUndefined)
      (enters : c.Enters
        (.canonical chain m.world m.tracer.incarnations c.caller c.callee) c')
      (running : Running m' tx older launch
        ⟨child, c.childEntry, m.world.warmUp c.callee, some c', []⟩ (l :: outer))
      (world : m'.world = c.moved m.world) (number : child = m.tracer.contexts.nextId)
      (contexts : m'.tracer.contexts = m.tracer.contexts.enter c.childEntry)

/-- **What a call instruction leads to.** -/
structure Called (chain : Chain) (m : Machine) (tx : Transaction) (older : List Section)
    (launch : LaunchSection) (l : Level) (outer : List Level) (frame : Frame) (i : Invocation)
    (c : CallSection) (m' : Machine) : Prop where
  entry : frame.entry = l.entry
  number : frame.id = l.context
  announced : c.Announced chain (callSetting m) m.world frame i
  effect : Effect chain m tx older launch l outer i c m'
  stamp : m'.tracer.stamp = m.tracer.stamp + 1
  incarnations : m'.tracer.incarnations = m.tracer.incarnations
  found : m.tracer.contexts.frame? frame.id = some frame

/-- **The faults of a call**: nobody fails to pay, and nothing but undeclared exceptions makes
the tracer disagree. -/
def CallFault (i : Invocation) (f : Fault) : Prop :=
  ¬f.IsCannotPay ∧ (i.exceptions.Declared → ¬f.IsDisagreement)

/-- A violation that the tracer is right about. -/
theorem callFault_of_violation {i : Invocation} {v : Violation}
    (h : i.exceptions.Declared → ¬v.IsDisagreement) : CallFault i (.violation v) :=
  ⟨fun h => h, h⟩

/-- The frame of the active context. -/
theorem currentFrame_eq (running : Running m tx older launch l outer) :
    ∃ f, m.tracer.contexts.currentFrame = .ok f ∧ Machine.currentFrame m = .ok f m ∧
      m.tracer.contexts.frame? f.id = some f ∧ f.id = l.context ∧ f.entry = l.entry := by
  obtain ⟨f, inFrame⟩ := running.exists_frame
  have current : m.tracer.contexts.currentFrame = .ok f :=
    ContextTree.currentFrame_eq_ok (inFrame.current_eq running) inFrame.found
  refine ⟨f, current, ?_, inFrame.found, inFrame.number, inFrame.entry⟩
  show Machine.ofResult m.tracer.contexts.currentFrame m = _
  rw [current]
  rfl

/-- Looking for aborting conditions changes nothing. -/
theorem abortingConditions_yields (running : Running m tx older launch l outer) (i : Invocation) :
    Yields (Machine.abortingConditions i m) (fun _ m' => m' = m) (CallFault i) := by
  obtain ⟨frame, -, current, -⟩ := running.currentFrame_eq
  unfold Machine.abortingConditions
  refine Ends.bind_ok current ?_
  refine Ends.get_bind ?_
  refine Machine.ofResult_bind (CallSection.value_grants (i := i))
    (fun v h => callFault_of_violation h.contradicted) fun value _ => ?_
  exact rfl

/-! ## Calls that spawn no context -/

/-- **A machine whose call is over already.** -/
theorem joined (running : Running m tx older launch l outer) {c : CallSection} {t : Tracer}
    {world : WorldState} (setting : t.toSetting = callSetting m)
    (tracing : Tracing t older launch (callsOf (l :: outer) ++ [c])) (resolved : c.Resolved)
    (intact : ¬c.Undone) (home : c.shared.context = l.context)
    (warmer : ∀ a, m.world.isWarm a = true → world.isWarm a = true) :
    Running { m with tracer := t, world } tx older launch (l.add [c]) outer := by
  have contexts : t.contexts = m.tracer.contexts := by rw [setting]; rfl
  refine ⟨running.transaction, ?_, running.executing, ?_, ?_, ?_, ?_, ?_, running.checkpoints,
    running.scripted, ?_, ?_, ?_⟩
  · show t.transaction? = some tx
    rw [setting]
    exact running.traced
  · rw [callsOf_add]
    exact tracing
  · rw [contexts]
    exact running.wellFormed
  · rw [contexts]
    exact running.truthful
  · rw [contexts]
    exact running.current
  · show Stacked t.contexts tx t.contexts.nextId _
    rw [contexts]
    refine running.stacked.add (Nat.le_refl _) fun c' hc' => ?_
    obtain rfl := List.mem_singleton.1 hc'
    have sound := running.stacked.sound
    have unreverted : m.tracer.contexts.Unreverted c'.shared.context := home ▸ sound.unreverted
    refine ⟨resolved, ?_, ?_, unreverted.tells intact⟩
    · exact Nat.le_of_eq home.symm
    · rw [home]
      exact sound.inside
  · intro x hx
    rcases List.mem_cons.1 hx with rfl | further
    · exact warmer l.entry.address (running.warm l (.head _))
    · exact warmer x.entry.address (running.warm x (.tail _ further))
  · exact List.pairwise_cons.2 (List.pairwise_cons.1 running.warmBelow)
  · show ∀ a, t.incarnations.isDeploying a = true → _
    rw [setting]
    exact running.deploying

/-! ## Calls that spawn a context -/

/-- **A machine whose call has just entered a context.** -/
theorem entered (running : Running m tx older launch l outer) (scripted : l.Scripted)
    {c c' : CallSection} {t : Tracer} {world : WorldState}
    (setting : t.toSetting =
      { callSetting m with contexts := m.tracer.contexts.enter c.childEntry })
    (tracing : Tracing t older launch (callsOf (l :: outer) ++ [c']))
    (pending : c'.Pending m.tracer.contexts.nextId) (home : c'.shared.context = l.context)
    (caller : c.caller = l.entry.address) (moved : world = c.moved m.world) :
    Running
      { m with
        tracer := t
        checkpoints := m.world.warmUp c.callee :: m.checkpoints
        world }
      tx older launch
      ⟨m.tracer.contexts.nextId, c.childEntry, m.world.warmUp c.callee, some c', []⟩
      (l :: outer) := by
  have contexts : t.contexts = m.tracer.contexts.enter c.childEntry := by rw [setting]
  have warmed : ∀ a, m.world.isWarm a = true → (m.world.warmUp c.callee).isWarm a = true := by
    intro a warm
    rw [WorldState.isWarm_warmUp, warm, Bool.or_true]
  -- The new frame stands on the frame of the level, and the frames below keep their stations:
  -- the stack of levels grows by one.
  have station : (t.contexts.frame? m.tracer.contexts.nextId).map Frame.station =
      some (some l.context, none, none, c.childEntry) := by
    rw [contexts, ContextTree.frame?_enter, if_pos rfl, Option.map_some, ← running.current]
    rfl
  have stations : ∀ id, id < m.tracer.contexts.nextId →
      (t.contexts.frame? id).map Frame.station =
        (m.tracer.contexts.frame? id).map Frame.station := by
    intro id before
    rw [contexts, ContextTree.frame?_enter, if_neg (Nat.ne_of_lt before)]
    split
    · rw [Option.map_map]
      rfl
    · rfl
  refine ⟨running.transaction, ?_, running.executing, ?_, ?_, ?_, ?_, ?_, ?_, ?_, ?_, ?_, ?_⟩
  · show t.transaction? = some tx
    rw [setting]
    exact running.traced
  · rw [callsOf, Level.calls]
    simpa using tracing
  · rw [contexts]
    exact running.wellFormed.enter _
  · rw [contexts]
    refine running.truthful.enter _ fun id current => ?_
    obtain rfl : l.context = id := Option.some.inj (running.current.symm.trans current)
    exact running.stacked.sound.unreverted.hasReverted_eq
  · rw [contexts]
    exact ContextTree.current?_enter ..
  · show Stacked t.contexts tx t.contexts.nextId _
    have next : t.contexts.nextId = m.tracer.contexts.nextId + 1 := by
      rw [contexts, ContextTree.nextId_enter]
    rw [next]
    exact .above ⟨station, Nat.lt_succ_self _, .nil _ _ _⟩ rfl pending home rfl
      (running.stacked.congr stations)
  · rw [running.checkpoints]
    rfl
  · intro x hx
    rcases List.mem_cons.1 hx with rfl | further
    · exact scripted
    · exact running.scripted x further
  · intro x hx
    show world.isWarm x.entry.address = true
    rw [moved, CallSection.isWarm_moved]
    rcases List.mem_cons.1 hx with rfl | further
    · show (m.world.warmUp c.callee).isWarm c.childEntry.address = true
      -- The child runs at the address of the caller or of the callee, which has just been warmed.
      rcases c.address_childEntry with same | same
      · rw [same, caller]
        exact warmed l.entry.address (running.warm l (.head _))
      · rw [same, WorldState.isWarm_warmUp]
        simp
    · exact warmed x.entry.address (running.warm x further)
  · refine List.pairwise_cons.2 ⟨fun x hx => ?_, running.warmBelow⟩
    exact warmed _ (running.warm x hx)
  · show ∀ a, t.incarnations.isDeploying a = true → _
    rw [setting]
    exact running.deploying

/-- Which contexts end by themselves. -/
theorem immediateOutcome?_of_announced {setting : Setting} {world : WorldState} {frame : Frame}
    {i : Invocation} {c : CallSection} (announced : c.Announced chain setting world frame i)
    (quiet : i.exceptions.any = false) (proceeds : i.aborts.any = false)
    (code : m.world.hasCode c.callee = world.hasCode c.callee) :
    (c.scenario = .contractUndefined ∧ m.immediateOutcome? chain c.callee i.callData = none) ∨
      (c.scenario ≠ .contractUndefined ∧
        ∃ outcome, m.immediateOutcome? chain c.callee i.callData = some outcome ∧
          (c.scenario = .externalUndefined → outcome.success = true) ∧
          (c.scenario = .precompileUndefined →
            outcome = i.precompileOutcome m.precompileOutcomes c.callee)) := by
  unfold Machine.immediateOutcome?
  rw [code]
  have course := announced.course
  rcases course.scenario_of_proceeds quiet proceeds with scenario | scenario | scenario
  · obtain ⟨other, code⟩ := Destination.of_eq_external (course.of_external scenario).1
    refine .inr ⟨by simp [scenario], .succeeded [], ?_, fun _ => rfl, by simp [scenario]⟩
    rw [if_neg (by simp [other]), if_neg (by simp [code])]
  · obtain ⟨target, destination, -⟩ := course.of_precompile scenario
    have live := Destination.of_eq_precompile destination
    exact .inr ⟨by simp [scenario], _, if_pos live, by simp [scenario], fun _ => rfl⟩
  · obtain ⟨other, code⟩ := Destination.of_eq_contract (course.of_contract scenario).1
    refine .inl ⟨scenario, ?_⟩
    rw [if_neg (by simp [other]), if_pos code]

/-- **Entering the child context of a call**, and finishing it if it ends by itself. -/
theorem enterChild_yields (running : Running m tx older launch l outer) (scripted : l.Scripted)
    {frame : Frame} {i : Invocation} {c : CallSection} {t : Tracer}
    (setting : t.toSetting = callSetting m)
    (announced : c.Announced chain t.toSetting m.world frame i)
    (tracing : Tracing t older launch (callsOf (l :: outer) ++ [c]))
    (home : frame.id = l.context) (entry : frame.entry = l.entry)
    (quiet : i.exceptions.any = false) (proceeds : i.aborts.any = false) :
    Yields ((do
        let _ ← Machine.announce (Tracer.enterContext chain c.childEntry)
        match (← get).immediateOutcome? chain c.callee i.callData with
        | some outcome => let _ ← Machine.finishContext chain outcome
        | none => pure () : Step Unit)
      { m with
        tracer := t
        checkpoints := m.world.warmUp c.callee :: m.checkpoints
        world := c.moved m.world })
      (fun _ m' => Effect chain m tx older launch l outer i c m' ∧
        m'.tracer.stamp = m.tracer.stamp + 1 ∧ m'.tracer.incarnations = m.tracer.incarnations)
      (CallFault i) := by
  have contexts : t.contexts = m.tracer.contexts := by rw [setting]; rfl
  have incarnations : t.incarnations = m.tracer.incarnations := by rw [setting]; rfl
  have transaction : t.transaction?.isSome := by
    rw [setting]
    exact Option.isSome_iff_exists.2 ⟨tx, running.traced⟩
  have latched := (announced.parsed quiet).before
  rw [incarnations] at latched
  refine Machine.announce_bind (tracing.enterContext_yields transaction
    (running.stacked.no_contextEntry) announced quiet proceeds rfl latched c.childEntry)
    (fun v h => callFault_of_violation fun _ => h) ?_
  rintro _ t' ⟨setting', c', enters, pending, tracing'⟩
  rw [contexts] at pending
  have shared : c'.shared = c.shared := enters.shared_eq
  have scenario' : c'.scenario = c.scenario := enters.scenario_eq
  have entered : t'.contexts = m.tracer.contexts.enter c.childEntry := by rw [setting', contexts]
  have nested := running.entered (t := t') scripted (by rw [setting', contexts, setting]) tracing'
    pending (by rw [shared, announced.context, home]) (by rw [announced.caller, entry]) rfl
  have stamp : t'.stamp = m.tracer.stamp + 1 := by rw [setting', setting]; rfl
  have kept : t'.incarnations = m.tracer.incarnations := by
    rw [setting']
    exact incarnations
  -- What is called decides whether the child goes on running or has already ended.
  refine Ends.get_bind ?_
  rcases immediateOutcome?_of_announced
    (m := { m with
      tracer := t'
      checkpoints := m.world.warmUp c.callee :: m.checkpoints
      world := c.moved m.world })
    announced quiet proceeds (CallSection.hasCode_moved m.world c c.callee) with
    ⟨scenario, staying⟩ | ⟨other, outcome, ending, succeeds, told⟩
  · rw [staying]
    exact ⟨.spawned quiet proceeds scenario enters nested rfl rfl entered, stamp, kept⟩
  · rw [ending]
    refine Ends.bind (nested.finishContext_yields ?_) ?_
    · rintro _ ⟨⟩ external
      exact succeeds (scenario' ▸ external)
    rintro _ m' finished
    cases finished with
    | @nested _ _ _ child _ spawned _ running' world stamp' incarnations' _ ends number =>
        obtain rfl := Option.some.inj spawned
        -- A child that ends at once has made no calls, so its end leaves nothing but the answer.
        have noFurther : ∀ incarnations stamp success, Level.remainder chain incarnations stamp
            success ⟨m.tracer.contexts.nextId, c.childEntry, m.world.warmUp c.callee, some c', []⟩ =
              [] := by
          intro incarnations stamp success
          unfold Level.remainder
          split <;> rfl
        rw [noFurther, CallSection.parting_of_not_contract (scenario' ▸ other)] at running'
        have answered : Running m' tx older launch (l.add
            [c'.answered chain m'.world m.tracer.incarnations child outcome]) outer := by
          rw [← kept]
          exact running'
        have ends : (m.tracer.contexts.enter c.childEntry).EndedAt m'.tracer.contexts child.id
            outcome := by
          rw [← entered, number]
          exact ends
        exact ⟨.immediate quiet proceeds other enters succeeds answered world number ends told,
          stamp'.trans stamp, incarnations'.trans kept⟩

/-- The transfer of a call that does not abort. -/
theorem debit?_of_announced {setting : Setting} {frame : Frame} {i : Invocation} {c : CallSection}
    (announced : c.Announced chain setting m.world frame i) (quiet : i.exceptions.any = false)
    (proceeds : i.aborts.any = false) (moves : c.kind.movesValue = true) :
    ∃ w, (m.world.warmUp c.callee).debit? c.caller c.value = some w ∧
      c.moved m.world = w.credit c.callee c.value := by
  have payable := (announced.parsed quiet).payable proceeds moves
  obtain ⟨left, paid⟩ := Word.checkedSub_isSome payable
  have debited := WorldState.debit?_eq (m.world.warmUp c.callee) (a := c.caller) paid
  refine ⟨_, debited, ?_⟩
  unfold CallSection.moved
  dsimp only
  rw [if_pos moves, debited]
  rfl

/-- **A call that neither fails nor aborts.** -/
theorem spawn_yields (running : Running m tx older launch l outer) (scripted : l.Scripted)
    {frame : Frame} {i : Invocation} {c : CallSection} {t : Tracer}
    (setting : t.toSetting = callSetting m)
    (announced : c.Announced chain t.toSetting m.world frame i)
    (tracing : Tracing t older launch (callsOf (l :: outer) ++ [c]))
    (home : frame.id = l.context) (entry : frame.entry = l.entry)
    (quiet : i.exceptions.any = false) (proceeds : i.aborts.any = false) :
    Yields (Machine.spawn chain i c.caller c.callee c.value
        { m with tracer := t, world := m.world.warmUp c.callee })
      (fun _ m' => Effect chain m tx older launch l outer i c m' ∧
        m'.tracer.stamp = m.tracer.stamp + 1 ∧ m'.tracer.incarnations = m.tracer.incarnations)
      (CallFault i) := by
  have entering := running.enterChild_yields scripted setting announced tracing home entry quiet
    proceeds
  unfold Machine.spawn
  rw [← announced.kind]
  refine Ends.bind_ok (Machine.pushCheckpoint_eq ..) ?_
  dsimp only
  by_cases moves : c.kind.movesValue = true
  · obtain ⟨w, debited, moved⟩ := debit?_of_announced announced quiet proceeds moves
    rw [moved] at entering
    rw [if_pos moves]
    refine Ends.bind_ok (Machine.debit_eq_of_some debited) ?_
    refine Ends.bind_ok (Machine.credit_eq ..) ?_
    exact entering
  · have still : c.moved m.world = m.world.warmUp c.callee := if_neg moves
    rw [still] at entering
    rw [if_neg moves]
    exact entering

/-- What a call instruction leads to, its aborting conditions being known. -/
theorem announced_yields (running : Running m tx older launch l outer) (scripted : l.Scripted)
    (i : Invocation) :
    Yields ((do
        let id ← Machine.announce (Tracer.announceCall chain (← get).world i)
        if i.exceptions.any then
          return id
        let caller := (← Machine.currentFrame).entry.address
        let callee ← Machine.ofResult i.callee
        let value ← Machine.ofResult i.value
        Machine.modifyWorld (·.warmUp callee)
        if i.aborts.any then
          Machine.announce (Tracer.finishOpcode chain (some 0))
        else
          Machine.spawn chain i caller callee value
        return id : Step Nat) m)
      (fun _ m' => ∃ frame c, Called chain m tx older launch l outer frame i c m')
      (CallFault i) := by
  obtain ⟨frame, current, currentFrame, found, number, entry⟩ := running.currentFrame_eq
  have transaction : m.tracer.transaction?.isSome := Option.isSome_iff_exists.2 ⟨tx, running.traced⟩
  refine Ends.get_bind ?_
  refine Machine.announce_bind (running.tracing.announceCall_yields transaction current)
    (fun v h => callFault_of_violation h.contradicted) ?_
  rintro id t ⟨setting, c, announced, tracing⟩
  have setting : t.toSetting = callSetting m := setting
  have contexts : t.contexts = m.tracer.contexts := by rw [setting]; rfl
  have stamp : t.stamp = m.tracer.stamp + 1 := by rw [setting]; rfl
  have incarnations : t.incarnations = m.tracer.incarnations := by rw [setting]; rfl
  have home : c.shared.context = l.context := announced.context.trans number
  have reported : c.Announced chain (callSetting m) m.world frame i := setting ▸ announced
  dsimp only
  -- The machine follows the scenarios: an exception, an abort, and otherwise a child context.
  by_cases raised : i.exceptions.any = true
  · rw [if_pos raised]
    refine ⟨frame, c, entry, number, reported, .dismissed raised ?_ rfl contexts, stamp,
      incarnations, found⟩
    have dismissed := announced.dismissed raised
    exact running.joined setting tracing (.dismissed dismissed) dismissed.not_undone home
      fun _ h => h
  rw [if_neg raised]
  have quiet : i.exceptions.any = false := Bool.eq_false_iff.2 raised
  have parsed := announced.parsed quiet
  have caller : frame.entry.address = c.caller := announced.caller.symm
  have currentFrame' : Machine.currentFrame { m with tracer := t } =
      .ok frame { m with tracer := t } := by
    show Machine.ofResult t.contexts.currentFrame _ = _
    rw [contexts, current]
    rfl
  refine Ends.bind_ok currentFrame' ?_
  refine Machine.ofResult_bind_ok parsed.callee ?_
  refine Machine.ofResult_bind_ok parsed.value ?_
  refine Ends.bind_ok (Machine.modifyWorld_eq _) ?_
  dsimp only
  by_cases aborts : i.aborts.any = true
  · rw [if_pos aborts]
    obtain ⟨-, standing⟩ := announced.aborted quiet aborts
    refine Machine.announce_bind (tracing.finishOpcode_yields (E := fun _ => False)
      running.stacked.no_opcodeEnd announced quiet aborts) nofun ?_
    rintro _ t' ⟨same, tracing'⟩
    have stamp' : t'.stamp = m.tracer.stamp + 1 := by rw [same, stamp]
    have incarnations' : t'.incarnations = m.tracer.incarnations := by rw [same, incarnations]
    have contexts' : t'.contexts = m.tracer.contexts := by rw [same, contexts]
    refine ⟨frame, c, entry, number, reported, .aborted quiet aborts ?_ rfl contexts', stamp',
      incarnations', found⟩
    refine running.joined (same.trans setting) tracing' (.standing standing)
      (fun undone => undone.not_standing standing) home fun a warm => ?_
    rw [WorldState.isWarm_warmUp, warm, Bool.or_true]
  · rw [if_neg aborts, caller]
    have proceeds : i.aborts.any = false := Bool.eq_false_iff.2 aborts
    refine Ends.bind (running.spawn_yields scripted setting announced tracing number entry quiet
      proceeds) ?_
    rintro _ m' ⟨effect, stamp', incarnations'⟩
    exact ⟨frame, c, entry, number, reported, effect, stamp', incarnations', found⟩

/-- **Carrying out a call**, for which the machine may find aborting conditions by itself. -/
theorem call_yields (running : Running m tx older launch l outer) (scripted : l.Scripted)
    (i : Invocation) :
    Yields (Machine.call chain i m)
      (fun _ m' => ∃ aborts frame c,
        Called chain m tx older launch l outer frame { i with aborts } c m')
      (CallFault i) := by
  unfold Machine.call
  split
  · exact (running.announced_yields scripted i).mono (fun _ _ called => ⟨i.aborts, called⟩)
      fun _ h => h
  · refine Ends.bind (running.abortingConditions_yields i) ?_
    rintro found _ rfl
    exact (running.announced_yields scripted { i with aborts := i.aborts.union found }).mono
      (fun _ _ called => ⟨_, called⟩) fun _ h => h

end Running

end ExecutionTrace
