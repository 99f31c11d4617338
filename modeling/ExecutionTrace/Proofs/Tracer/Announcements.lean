import ExecutionTrace.Proofs.Tracer.Construction
import ExecutionTrace.Proofs.Tracer.Tracing

/-!
# The announcements in the course of a transaction

What each announcement between the start and the end of a transaction does to the tracer, given
which calls wait for the events that it hands out.

## Main Definitions

* `Tracing.announceCall_yields`, `Tracing.finishOpcode_yields` — around an instruction
* `Tracing.enterContext_yields`, `Tracing.exitContext_yields` — around a context
* `Tracing.rollBack_yields`, `Tracing.reEnterContext_yields` — after a context

## Design Notes

Who waits for an event is a hypothesis here.  That it holds at the right moments is the
business of the machine, which knows how contexts are nested.
-/

namespace ExecutionTrace

namespace CallSection

variable {chain : Chain} {setting : Setting} {world : WorldState} {frame : Frame} {i : Invocation}
  {c : CallSection}

/-- A fresh section is scheduled for what it awaits. -/
theorem Announced.awaited_eq (announced : Announced chain setting world frame i c) :
    c.awaited setting.contexts.nextId = c.awaits := by
  unfold awaited awaits isClosed awaitsResolution
  rw [announced.rolledBack, announced.pushed, announced.childExit]
  cases announced.course with
  | exceptional _ scenario closing => simp [scenario, closing, Scenario.isUndefined]
  | aborting _ _ scenario _ closing => simp [scenario, closing]
  | external _ _ _ scenario _ closing => simp [scenario, closing]
  | precompile _ _ _ _ scenario after => simp [scenario, after, Scenario.isUndefined]
  | contract _ _ _ scenario after closing => simp [scenario, after, closing]

/-- An exceptional call waits for nothing. -/
theorem Announced.dismissed (announced : Announced chain setting world frame i c)
    (raised : i.exceptions.any = true) : c.Dismissed := by
  obtain ⟨scenario, closing, -⟩ := announced.course.of_raised raised
  exact ⟨closing, scenario⟩

/-- A call that aborts needs nothing but the word that it pushes. -/
theorem Announced.aborted (announced : Announced chain setting world frame i c)
    (quiet : i.exceptions.any = false) (aborts : i.aborts.any = true) :
    c.scenario = .abortWontRevert ∧ (c.push 0).Standing := by
  have latched := (announced.parsed quiet).before
  obtain ⟨scenario, after, closing, -⟩ := announced.course.of_aborts quiet aborts
  refine ⟨scenario, ⟨?_, ?_, ?_, announced.rolledBack, ?_⟩⟩
  · exact Option.isSome_iff_exists.2 ⟨_, latched⟩
  · exact Option.isSome_iff_exists.2 ⟨_, (c.push_shows 0).2.1⟩
  · exact Option.isSome_iff_exists.2 ⟨_, closing⟩
  · have moved : (c.push 0).scenario = .abortWontRevert := scenario
    rw [CanRevert, moved]
    exact Option.isSome_iff_exists.2 ⟨_, after⟩

/-- A section that shows that its child context has been entered.  A call to an account without
code need not notice. -/
def Enters (c : CallSection) (before : Parties) (c' : CallSection) : Prop :=
  (c.scenario = .externalUndefined ∧ c' = c) ∨
    ((c.scenario = .precompileUndefined ∨ c.scenario = .contractUndefined) ∧
      ∃ after, c.transfer before = .ok after ∧ c' = c.entered before after)

theorem Enters.eq_of_external {before : Parties} (enters : c.Enters before c')
    (scenario : c.scenario = .externalUndefined) : c' = c := by
  rcases enters with ⟨-, same⟩ | ⟨waits | waits, -⟩
  · exact same
  · rw [scenario] at waits
    cases waits
  · rw [scenario] at waits
    cases waits

theorem Enters.exists_entered {before : Parties} (enters : c.Enters before c')
    (waits : c.scenario ≠ .externalUndefined) :
    ∃ after, c.transfer before = .ok after ∧ c' = c.entered before after := by
  rcases enters with ⟨external, -⟩ | ⟨-, entered⟩
  · exact absurd external waits
  · exact entered

theorem Announced.pending_external (announced : Announced chain setting world frame i c)
    (quiet : i.exceptions.any = false) (scenario : c.scenario = .externalUndefined) {child : Nat} :
    c.Pending child where
  latched := Option.isSome_iff_exists.2 ⟨_, (announced.parsed quiet).before⟩
  rolledBack := announced.rolledBack
  course := by
    obtain ⟨-, -, closing, -⟩ := announced.course.of_external scenario
    exact .inl ⟨scenario, Option.isSome_iff_exists.2 ⟨_, closing⟩⟩

/-- A call that neither fails nor aborts goes to an account without code, or waits for its child
context to be entered. -/
theorem Announced.enters (announced : Announced chain setting world frame i c)
    (quiet : i.exceptions.any = false) (proceeds : i.aborts.any = false)
    (other : c.scenario ≠ .externalUndefined) :
    c.scenario = .precompileUndefined ∨ c.scenario = .contractUndefined :=
  (announced.course.scenario_of_proceeds quiet proceeds).resolve_left other

theorem Announced.pending_entered (announced : Announced chain setting world frame i c)
    (entering : c.scenario = .precompileUndefined ∨ c.scenario = .contractUndefined)
    (quiet : i.exceptions.any = false) {before after : Parties} :
    (c.entered before after).Pending setting.contexts.nextId := by
  have latched := (announced.parsed quiet).before
  refine ⟨Option.isSome_iff_exists.2 ⟨_, latched⟩, announced.rolledBack, ?_⟩
  rcases entering with scenario | scenario
  · exact .inr (.inl ⟨scenario, rfl⟩)
  · obtain ⟨-, -, closing, -⟩ := announced.course.of_contract scenario
    exact .inr (.inr ⟨scenario, rfl, closing⟩)

theorem Announced.mem_awaits_entered (announced : Announced chain setting world frame i c)
    (entering : c.scenario = .precompileUndefined ∨ c.scenario = .contractUndefined)
    (quiet : i.exceptions.any = false) {before after : Parties} (e : Event) :
    e ∈ (c.entered before after).awaits ↔ e ∈ c.awaits ∧ e ≠ .contextEntry := by
  have kept : (c.entered before after).scenario = c.scenario ∧
      (c.entered before after).shared = c.shared ∧
      (c.entered before after).childExit? = none := ⟨rfl, rfl, announced.childExit⟩
  rw [(announced.pending_entered entering quiet).awaits_eq, ← announced.awaited_eq, returnEvents,
    hasLeft, awaited, kept.1, kept.2.1, kept.2.2]
  refine Section.mem_iff_of_filter_ne ?_ e
  rcases entering with scenario | scenario
  · simp [scenario]
  · simp [scenario]

theorem nodup_awaited (c : CallSection) (child : Nat) : (c.awaited child).Nodup := by
  unfold awaited
  cases c.scenario <;> simp

end CallSection

namespace Tracing

variable {t : Tracer} {older : List Section} {launch : LaunchSection} {calls : List CallSection}
  {chain : Chain} {world : WorldState} {frame : Frame} {i : Invocation}

theorem requireTransaction_yields {E : Violation → Prop} (transaction : t.transaction?.isSome) :
    Yields (Tracer.requireTransaction t) (fun _ t' => t' = t) E := by
  refine (Tracer.requireTransaction_ends t).mono (fun _ _ h => h.1) ?_
  rintro _ _ ⟨-, outside, -⟩
  simp [outside] at transaction

/-- **An accepted call gets its section**, in any tracer, and no context changes. -/
theorem announceCall_announced (chain : Chain) (world : WorldState) (i : Invocation) (t : Tracer) :
    Yields (Tracer.announceCall chain world i t)
      (fun id t' => t'.contexts = t.contexts ∧
        ∃ frame c, t'.sections[id]? = some (.call c) ∧
          CallSection.Announced chain t'.toSetting world frame i c) fun _ => True := by
  refine (Tracer.announceCall_ends t chain world i).mono ?_ fun _ _ _ => trivial
  rintro _ _ ⟨rfl, c, frame, announced, rfl⟩
  exact ⟨rfl, frame, c, Array.getElem?_push_size, announced⟩

/-- **An accepted call joins the others.** -/
theorem announceCall_yields (tracing : Tracing t older launch calls)
    (transaction : t.transaction?.isSome) (current : t.contexts.currentFrame = .ok frame) :
    Yields (Tracer.announceCall chain world i t)
      (fun _ t' => t'.toSetting = { t.toSetting with stamp := t.stamp + 1 } ∧
        ∃ c, CallSection.Announced chain t'.toSetting world frame i c ∧
          Tracing t' older launch (calls ++ [c]))
      i.Refusal := by
  refine (Tracer.announceCall_enlists transaction current).mono ?_ fun _ _ h => h
  rintro _ _ ⟨-, c, announced, rfl⟩
  refine ⟨rfl, c, announced, ?_, ?_, tracing.silent, tracing.launched⟩
  · show (t.sections.push (.call c)).toList = _
    rw [Array.toList_push, tracing.sections]
    simp
  · refine Tracer.Attuned.addSection (t := { t with stamp := t.stamp + 1 }) tracing.attuned
      (CallSection.nodup_awaited ..) fun e => ?_
    rw [announced.awaited_eq]
    rfl

variable {c : CallSection} {setting : Setting} {E : Violation → Prop}

/-- **An aborted call is over** once its instruction has executed. -/
theorem finishOpcode_yields (tracing : Tracing t older launch (calls ++ [c]))
    (nobody : ∀ c ∈ calls, .opcodeEnd ∉ c.awaits)
    (announced : CallSection.Announced chain setting world frame i c)
    (quiet : i.exceptions.any = false) (aborts : i.aborts.any = true) :
    Yields (Tracer.finishOpcode chain (some 0) t)
      (fun _ t' => t'.toSetting = t.toSetting ∧
        Tracing t' older launch (calls ++ [c.push 0])) E := by
  obtain ⟨scenario, standing⟩ := announced.aborted quiet aborts
  have awaits : c.awaits = [.rollback c.shared.context, .transactionClosed, .opcodeEnd] := by
    rw [← announced.awaited_eq, CallSection.awaited, scenario]
    rfl
  unfold Tracer.finishOpcode
  refine (tracing.fire_last (.opcodeEnd (some 0)) (c.push 0) (by decide) nobody
    ?_ ?_ ?_).mono ?_ fun _ h => h
  · show .opcodeEnd ∈ c.awaits
    simp [awaits]
  · show Yields (Section.replace .call c (CallSection.finishOpcode (some 0) c)) _ _
    rw [CallSection.finishOpcode, scenario]
    exact rfl
  · intro e
    have shared : (c.push 0).shared = c.shared := rfl
    rw [standing.awaits_eq, awaits, shared]
    refine Section.mem_iff_of_filter_ne ?_ e
    simp [Occurrence.event]
  · rintro _ t' ⟨same, tracing', -⟩
    exact ⟨same, tracing'⟩

/-- **A context is entered** on behalf of the call announced last. -/
theorem enterContext_yields (tracing : Tracing t older launch (calls ++ [c]))
    (transaction : t.transaction?.isSome) (nobody : ∀ c ∈ calls, .contextEntry ∉ c.awaits)
    (announced : CallSection.Announced chain setting world frame i c)
    (quiet : i.exceptions.any = false) (proceeds : i.aborts.any = false)
    (next : setting.contexts.nextId = t.contexts.nextId) {before : Parties}
    (latched : c.before? = some before) (entry : ContextEntry) :
    Yields (Tracer.enterContext chain entry t)
      (fun _ t' => t'.toSetting = { t.toSetting with contexts := t.contexts.enter entry } ∧
        ∃ c', c.Enters before c' ∧ c'.Pending t.contexts.nextId ∧
          Tracing t' older launch (calls ++ [c']))
      (fun v => ¬v.IsDisagreement) := by
  have tracing' : Tracing { t with contexts := t.contexts.enter entry } older launch
      (calls ++ [c]) :=
    ⟨tracing.sections, tracing.attuned, tracing.silent, tracing.launched⟩
  unfold Tracer.enterContext
  refine Ends.bind (requireTransaction_yields transaction) ?_
  rintro _ t rfl
  refine Ends.get_bind ?_
  refine Ends.modify_bind ?_
  by_cases scenario : c.scenario = .externalUndefined
  · have silent : ∀ c' ∈ calls ++ [c], .contextEntry ∉ c'.awaits := by
      intro c' hc' waits
      rcases List.mem_append.1 hc' with earlier | last
      · exact nobody c' earlier waits
      · obtain rfl := List.mem_singleton.1 last
        rw [← announced.awaited_eq, CallSection.awaited, scenario] at waits
        simp at waits
    refine Ends.bind (tracing'.fire_nobody .contextEntry (by decide) silent) ?_
    rintro _ t' ⟨same, tracing''⟩
    refine ⟨same, c, .inl ⟨scenario, rfl⟩, ?_, tracing''⟩
    exact announced.pending_external quiet scenario
  · have entering := announced.enters quiet proceeds scenario
    have waits : .contextEntry ∈ c.awaits := by
      rw [← announced.awaited_eq, CallSection.awaited]
      rcases entering with scenario | scenario
      all_goals simp [scenario]
    cases transferred : c.transfer before with
    | ok after =>
        have reaction := CallSection.enterChild_eq entering latched transferred
        refine Ends.bind (tracing'.fire_last .contextEntry (c.entered before after) (by decide)
          nobody waits ?_ (announced.mem_awaits_entered entering quiet)) ?_
        · show Yields (Section.replace .call c _) _ _
          rw [reaction]
          exact rfl
        · rintro _ t' ⟨same, tracing'', -⟩
          refine ⟨same, _, .inr ⟨entering, after, transferred, rfl⟩, ?_, tracing''⟩
          exact next ▸ announced.pending_entered entering quiet
    | error v =>
        have reaction := CallSection.enterChild_error entering latched transferred
        have allowed : ¬v.IsDisagreement := by
          have granted := c.transfer_grants before
          rwa [transferred] at granted
        -- The reaction fails, so whatever it would have led to serves as its result here.
        refine Ends.bind (tracing'.fire_last .contextEntry (c.entered before before) (by decide)
          nobody waits ?_ (announced.mem_awaits_entered entering quiet)) ?_
        · show Yields (Section.replace .call c _) _ _
          rw [reaction]
          exact allowed
        · rintro _ t' ⟨-, -, succeeded⟩
          have failed : Section.replace .call c c.enterChild = .ok () _ := succeeded
          rw [reaction] at failed
          cases failed

/-- **The active context terminates.** -/
theorem exitContext_yields (tracing : Tracing t older launch calls)
    (current : t.contexts.current? = some frame.id)
    (found : t.contexts.frame? frame.id = some frame)
    (pending : ∀ c ∈ calls, .contextExit frame.id ∈ c.awaits → c.Pending frame.id)
    (outcome : ContextOutcome) :
    Yields (Tracer.exitContext chain world outcome t)
      (fun id t' => id = frame.id ∧
        t'.toSetting = { t.toSetting with
          contexts := t.contexts.left frame outcome
          incarnations :=
            if frame.entry.isDeployment then t.incarnations.ended frame.entry.address
            else t.incarnations } ∧
        Tracing t' older launch (calls.map (·.heed (.contextExit frame.id) fun c =>
          c.exited (.canonical chain world t.incarnations c.caller c.callee)))) E := by
  unfold Tracer.exitContext
  refine Ends.get_bind ?_
  refine Ends.ofExcept_bind_ok (ContextTree.currentFrame_eq_ok current found) ?_
  let change : CallSection → CallSection := fun c =>
    c.exited (.canonical chain world t.incarnations c.caller c.callee)
  -- The sections hear of the exit while the context is still the active one.
  refine Ends.bind (tracing.fire_yields (.contextExit world frame.id) change nofun ?_) ?_
  · intro c hc waits
    have scenario := CallSection.scenario_of_contextExit_mem waits
    constructor
    · show Yields (Section.replace .call c _) _ _
      rw [CallSection.exitChild_eq scenario]
      exact rfl
    · exact (pending c hc waits).mem_awaits_exited waits _
  · rintro _ t' ⟨same, tracing', -⟩
    refine Ends.get_bind ?_
    have exited : t'.contexts.exit outcome = .ok (t.contexts.left frame outcome, frame.id) := by
      rw [same, ContextTree.exit_eq_ok outcome current found]
    refine Ends.ofExcept_bind_ok exited ?_
    have incarnations : t'.incarnations = t.incarnations := congrArg Setting.incarnations same
    refine Ends.modify_bind ?_
    refine Ends.get_bind ?_
    dsimp only
    -- A deployment ends with its context, unless the table has already been told so.
    split
    · rename_i deploying
      obtain ⟨deployment, running⟩ := Bool.and_eq_true_iff.1 deploying
      have stopped : Incarnations.stop frame.entry.address t'.incarnations =
          .ok () (t.incarnations.ended frame.entry.address) := by
        rw [Incarnations.stop_eq, if_pos running, incarnations, Incarnations.ended,
          if_pos (incarnations ▸ running)]
      refine Ends.bind_ok (onPart_eq_of_ok (onPart_eq_of_ok stopped)) ?_
      refine ⟨rfl, ?_, tracing'.sections, tracing'.attuned, tracing'.silent, tracing'.launched⟩
      show ({ t'.toSetting with contexts := _, incarnations := _ } : Setting) = _
      rw [same, if_pos deployment]
    · rename_i constructed
      refine ⟨rfl, ?_, tracing'.sections, tracing'.attuned, tracing'.silent, tracing'.launched⟩
      have kept : (if frame.entry.isDeployment then t.incarnations.ended frame.entry.address
          else t.incarnations) = t.incarnations := by
        split
        · rename_i deployment
          rw [Incarnations.ended, if_neg]
          rw [deployment, Bool.true_and, incarnations] at constructed
          exact constructed
        · rfl
      show ({ t'.toSetting with contexts := _ } : Setting) = _
      rw [same, kept]

/-- **A failed context is rolled back**, with everything entered after it. -/
theorem rollBack_yields (tracing : Tracing t older launch calls) (wf : t.contexts.WellFormed)
    {id : Nat} (found : t.contexts.frame? id = some frame) (failed : frame.hasFailed = true)
    (deeper : ∀ {j}, id < j → j < t.contexts.nextId → t.contexts.depthOf id < t.contexts.depthOf j)
    (standing : ∀ c ∈ calls, id ≤ c.shared.context → .rollback c.shared.context ∈ c.awaits →
      c.Standing ∧ ∃ f, t.contexts.frame? c.shared.context = some f ∧ f.revertStamp? = none) :
    Yields (Tracer.rollBack chain world id t)
      (fun _ t' =>
        t'.toSetting = { t.toSetting with contexts := t.contexts.revertedFrom id t.stamp } ∧
        Tracing t' older launch (calls.map fun c => if id ≤ c.shared.context then
          c.fallBack chain world t.incarnations t.stamp else c)) E := by
  let contexts := t.contexts.revertedFrom id t.stamp
  have shape := ContextTree.sameShape_revertedFrom t.contexts id t.stamp
  have wf' : contexts.WellFormed := wf.revertedFrom id t.stamp
  have stamped : contexts.frame? id = some (frame.stampReverted t.stamp) := by
    rw [ContextTree.frame?_revertedFrom, if_pos (Nat.le_refl id), found]
    rfl
  -- What was entered after `id` is all below it, so the subtree of `id` is the rest of the numbers.
  have subtree : contexts.subtree id = .ok (List.range' id (t.contexts.nextId - id)) := by
    rw [← shape.nextId_eq]
    refine wf'.subtree_eq stamped (ContextTree.lt_nextId stamped) (Nat.le_refl _) ?_
      (fun h => absurd h (Nat.lt_irrefl _))
    intro j after before
    rw [shape.depthOf_eq, shape.depthOf_eq]
    exact deeper after (shape.nextId_eq ▸ before)
  unfold Tracer.rollBack
  refine Ends.get_bind ?_
  refine Ends.ofExcept_bind_ok (ContextTree.get_eq_ok found) ?_
  dsimp only
  rw [if_pos failed]
  refine Ends.get_bind ?_
  refine Ends.get_bind ?_
  refine Ends.ofExcept_bind_ok (wf.markReverted_eq found t.stamp deeper) ?_
  refine Ends.modify_bind ?_
  refine Ends.ofExcept_bind_ok subtree ?_
  have tracing' : Tracing { t with contexts } older launch calls :=
    ⟨tracing.sections, tracing.attuned, tracing.silent, tracing.launched⟩
  refine (tracing'.rollBackAll_yields t.stamp ?_).mono ?_ fun _ h => h
  · intro other hother
    have range := List.mem_range'_1.1 hother
    have positive := (ContextTree.frame?_eq_some_iff.1 ⟨frame, found⟩).1
    obtain ⟨g, hg⟩ : ∃ g, t.contexts.frame? other = some g :=
      ContextTree.frame?_eq_some_iff.2 ⟨by omega, by omega⟩
    have reverted : contexts.frame? other = some (g.stampReverted t.stamp) := by
      rw [ContextTree.frame?_revertedFrom, if_pos range.1, hg]
      rfl
    refine ⟨_, reverted, wf'.id_eq reverted, fun c hc waits => ?_⟩
    have context := CallSection.context_eq_of_rollback_mem waits
    rw [context] at waits hg
    obtain ⟨isStanding, f, hf, unreverted⟩ := standing c hc (context ▸ range.1) waits
    obtain rfl : g = f := Option.some.inj (hg.symm.trans hf)
    refine ⟨isStanding, ?_⟩
    simp [Frame.revertStamp, Frame.stampReverted, unreverted]
  · rintro _ t' ⟨same, tracing''⟩
    refine ⟨same, ?_⟩
    -- Calls of contexts from `id` on fall back; the numbers past the last context concern no call.
    have each : ∀ c ∈ calls,
        (if c.shared.context ∈ List.range' id (t.contexts.nextId - id) then
          c.fallBack chain world t.incarnations t.stamp else c) =
        if id ≤ c.shared.context then c.fallBack chain world t.incarnations t.stamp else c := by
      intro c hc
      by_cases below : id ≤ c.shared.context
      · rw [if_pos below]
        by_cases waits : .rollback c.shared.context ∈ c.awaits
        · obtain ⟨-, f, hf, -⟩ := standing c hc below waits
          have known := ContextTree.lt_nextId hf
          rw [if_pos (List.mem_range'_1.2 ⟨below, by omega⟩)]
        · rw [CallSection.fallBack, CallSection.heed, if_neg waits, ite_self]
      · rw [if_neg below, if_neg fun h => below (List.mem_range'_1.1 h).1]
    rw [← List.map_congr_left each]
    exact tracing''

/-- A success bit is the word of a truth value. -/
theorem successBit_ofBool (b : Bool) : Tracer.successBit (Word.ofBool b) = .ok b := by
  cases b <;> rfl

theorem returnedChild_eq_ok {contexts : ContextTree} {frame child : Frame} {id : Nat}
    {outcome : ContextOutcome} (last : frame.lastChild? = some id)
    (found : contexts.frame? id = some child) (ended : child.outcome? = some outcome) :
    Tracer.returnedChild contexts frame = .ok (child, outcome) := by
  rw [Tracer.returnedChild, last]
  simp only [ContextTree.get_eq_ok found, bind, Except.bind, ended]
  rfl

/-- **A re-entry that tells how the last child has ended** is handed to the sections. -/
theorem reEnterContext_eq {child : Frame} {outcome : ContextOutcome}
    (current : t.contexts.currentFrame = .ok frame)
    (back : Tracer.returnedChild t.contexts frame = .ok (child, outcome)) :
    Tracer.reEnterContext chain world (Word.ofBool outcome.success) t =
      Tracer.fire chain (.contextReEntry world frame.id child outcome) t := by
  unfold Tracer.reEnterContext
  refine (ofExcept_bind_eq (successBit_ofBool _)).trans (get_bind_eq.trans ?_)
  refine (ofExcept_bind_eq current).trans ((ofExcept_bind_eq back).trans ?_)
  have agrees : ¬(outcome.success != outcome.success) = true := by simp
  dsimp only
  rw [if_neg agrees]

/-- **Control returns** to the caller of a context. -/
theorem reEnterContext_yields (tracing : Tracing t older launch calls)
    (current : t.contexts.current? = some frame.id)
    (found : t.contexts.frame? frame.id = some frame) {child : Frame}
    (last : frame.lastChild? = some child.id) (foundChild : t.contexts.frame? child.id = some child)
    {outcome : ContextOutcome} (ended : child.outcome? = some outcome)
    (pending : ∀ c ∈ calls, .contextReEntry frame.id ∈ c.awaits →
      c.Pending child.id ∧ c.shared.context = frame.id ∧ c.hasLeft = true ∧
        (c.scenario = .externalUndefined → outcome.success = true)) :
    Yields (Tracer.reEnterContext chain world (Word.ofBool outcome.success) t)
      (fun _ t' => t'.toSetting = t.toSetting ∧
        Tracing t' older launch (calls.map (·.heed (.contextReEntry frame.id)
          (·.answered chain world t.incarnations child outcome)))) E := by
  rw [reEnterContext_eq (ContextTree.currentFrame_eq_ok current found)
    (returnedChild_eq_ok last foundChild ended)]
  refine (tracing.fire_yields (.contextReEntry world frame.id child outcome)
    (·.answered chain world t.incarnations child outcome) nofun ?_).mono ?_ fun _ h => h
  · intro c hc waits
    obtain ⟨isPending, context, left, succeeds⟩ := pending c hc waits
    constructor
    · show Yields (Section.within .call c _) _ _
      rw [Section.within, CallSection.reEnter_eq isPending succeeds]
      exact rfl
    · intro e
      rw [isPending.mem_awaits_answered left, context]
      rfl
  · rintro _ t' ⟨same, tracing', -⟩
    exact ⟨same, tracing'⟩

end Tracing

end ExecutionTrace
