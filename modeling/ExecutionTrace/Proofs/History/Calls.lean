import ExecutionTrace.Proofs.History.Balance
import ExecutionTrace.Proofs.Run.Call

/-!
# Calls that have just been made

What the rows of a call say at the end of the step that made it: they lead from the view before the
step to the view after it, and a rollback would lead back.

## Main Definitions

* `CallSection.Made` — a call that has just been made, between the views before and after
* `Announced.made_exceptional`, `Announced.made_aborted`, `Announced.made_external`,
  `Announced.made_precompile`, `Announced.made_spawned` — that this is so, for each of the five
  courses of a call
-/

namespace ExecutionTrace

namespace CallSection

/-- **A call that has just been made**, between the views before and after. -/
structure Made (incarnations : Incarnations) (now : Nat) (v w : View) (c : CallSection) :
    Prop where
  stamp : c.shared.stamp = now
  unreverted : c.scenario.isWillRevert = false
  accounted : c.Accounted incarnations
  placed : ∀ r ∈ c.accountRows, ∃ k, k < 2 ∧ r.stamp = .forward now k
  current : ∀ r ∈ c.accountRows, r.IsCurrent incarnations
  leads : Leads v (c.accountRows.map AccountRow.move) w

variable {chain : Chain} {setting : Setting} {world : WorldState} {frame : Frame} {i : Invocation}
  {incarnations : Incarnations} {now : Nat} {c : CallSection} {v w : View} {p q r : Parties}

/-- A call whose rows are two snapshots of each party, and which has not been undone. -/
theorem made_of_shows {caller callee : Transition} {executes : Bool}
    (stamped : c.shared.stamp = now) (rows : c.accountRows = c.forwardRows caller callee executes)
    (callerCurrent : caller.IsCurrent incarnations c.caller)
    (calleeCurrent : callee.IsCurrent incarnations c.callee)
    (forward : Leads v ((c.forwardRows caller callee executes).map AccountRow.move) w)
    (unreverted : c.scenario.isWillRevert = false)
    (other : c.scenario ≠ .contractFailureWontRevert)
    (concerns : c.scenario ≠ .exception → ∀ x, c.before? = some x ∨ c.after? = some x ∨
      c.reEntry? = some x → c.Concerns incarnations x)
    (reversible : c.Standing → Leads w (c.reversal.map Transition.move) v) :
    c.Made incarnations now v w := by
  refine ⟨stamped, unreverted,
    ⟨⟨?_, fun _ => ?_, fun undone => ?_, fun failed => absurd failed other⟩, concerns,
      fun standing => ⟨v, w, ?_, reversible standing⟩⟩, ?_, ?_, ?_⟩
  · rw [rows]
    exact sorted_forwardRows ..
  · rw [rows]
    exact touches_forwardRows callerCurrent.addressBefore calleeCurrent.addressBefore
  · rw [unreverted] at undone
    cases undone
  · rw [rows]
    exact forward
  · rw [rows, ← stamped]
    exact fun _ => stamp_of_mem_forwardRows
  · rw [rows]
    exact isCurrent_of_mem_forwardRows callerCurrent calleeCurrent
  · rw [rows]
    exact forward

/-! ## Calls that fail or abort -/

/-- **An exceptional call** shows its parties as they are, or not at all. -/
theorem Announced.made_exceptional (announced : c.Announced chain setting world frame i)
    (raised : i.exceptions.any = true) :
    c.Made setting.incarnations setting.stamp (world.view chain setting.incarnations)
      (world.view chain setting.incarnations) ∧ c.reversal = [] := by
  have dismissed := announced.dismissed raised
  have nothing : c.reversal = [] := by
    rw [reversal, dismissed.scenario]
  refine ⟨?_, nothing⟩
  have unlike : ¬c.Standing := dismissed.not_standing
  have shown := c.shows_canonical chain world setting.incarnations
  have concerns := c.concerns_canonical chain world setting.incarnations
  obtain ⟨scenario, -, rows⟩ := announced.course.of_raised raised
  split at rows
  · refine made_of_shows announced.stamp rows (concerns.caller_isCurrent concerns)
      (concerns.callee_isCurrent concerns) (leads_between concerns shown shown (.refl ..)) ?_ ?_
      (fun other => absurd scenario other) fun standing => absurd standing unlike
    · rw [scenario]
      rfl
    · rw [scenario]
      exact nofun
  · have empty : ∀ {P : AccountRow → Prop}, ∀ r ∈ c.accountRows, P r := by
      rw [rows]
      exact fun _ h => by cases h
    refine ⟨announced.stamp, ?_, ⟨⟨?_, fun other => absurd scenario other, fun undone => ?_,
      fun failed => ?_⟩, fun other => absurd scenario other,
      fun standing => absurd standing unlike⟩, empty, empty, ?_⟩
    · rw [scenario]
      rfl
    · rw [rows]
      exact .nil
    · simp [scenario, Scenario.isWillRevert] at undone
    · simp [scenario] at failed
    · rw [rows]
      exact .nil _

/-- **An aborted call** leaves its callee warm. -/
theorem Announced.made_aborted (announced : c.Announced chain setting world frame i)
    (quiet : i.exceptions.any = false) (aborts : i.aborts.any = true)
    (warm : (world.view chain setting.incarnations c.caller).isWarm = true) :
    CallSection.Made setting.incarnations setting.stamp (world.view chain setting.incarnations)
        ((world.warmUp c.callee).view chain setting.incarnations) (c.push 0) ∧
      Leads ((world.warmUp c.callee).view chain setting.incarnations)
        ((c.push 0).reversal.map Transition.move)
        (world.view chain setting.incarnations) := by
  have latched := (announced.parsed quiet).before
  have shown := c.shows_canonical chain world setting.incarnations
  have before := c.concerns_canonical chain world setting.incarnations
  have after := before.calleeWarmed
  rw [WorldState.view_warmUp]
  obtain ⟨scenario, captured, -, rows⟩ := announced.course.of_aborts quiet aborts
  have back : Leads (Function.update (world.view chain setting.incarnations) c.callee
        (world.view chain setting.incarnations c.callee).warmed)
      ((c.push 0).reversal.map Transition.move)
      (world.view chain setting.incarnations) := by
    unfold CallSection.reversal
    simp only [push, scenario, latched, captured]
    refine leads_single after.callee ?_ shown.callee (by rw [Function.update_self])
    rw [Function.update_self]
    exact congrArg Face.warmed shown.callee
  have rows := (c.accountRows_push 0).trans rows
  refine ⟨made_of_shows (c := c.push 0) announced.stamp rows
    (before.caller_isCurrent before) (before.callee_isCurrent after)
    (leads_between before shown (shown.calleeWarmed warm) (.warmed warm)) ?_ ?_ ?_
    fun _ => back, back⟩
  · show c.scenario.isWillRevert = false
    rw [scenario]
    rfl
  · show c.scenario ≠ _
    rw [scenario]
    decide
  · intro _ x found
    have found : c.before? = some x ∨ c.after? = some x ∨ c.reEntry? = some x := found
    rw [latched, captured, announced.reEntry] at found
    rcases found with same | same | none
    · obtain rfl := Option.some.inj same
      exact before.congr rfl rfl
    · obtain rfl := Option.some.inj same
      exact after.congr rfl rfl
    · cases none

/-! ## Calls whose child context has ended -/

/-- A call to anything but a contract shows its parties when it returns. -/
theorem accountRows_returned_of_ne (other : c.scenario ≠ .contractUndefined)
    (before reEntry : Parties) (incarnations : Incarnations) (child : Frame)
    (outcome : ContextOutcome) :
    (c.returned before reEntry incarnations child outcome).accountRows = c.accountRows ++
      c.forwardRows ⟨before.caller, reEntry.caller⟩ ⟨before.callee, reEntry.callee⟩ false := by
  have rows : c.returnRows before reEntry incarnations child outcome.success =
      c.forwardRows ⟨before.caller, reEntry.caller⟩ ⟨before.callee, reEntry.callee⟩ false := by
    unfold returnRows
    split
    · rename_i contract _
      exact absurd contract other
    · rename_i contract _
      exact absurd contract other
    · rfl
  rw [← rows]
  exact accountRows_returned ..

/-- **A call that returns at once** has shown its parties before it and after it. -/
theorem made_returned {child : Frame} {outcome : ContextOutcome} (stamped : c.shared.stamp = now)
    (empty : c.accountRows = []) (other : c.scenario ≠ .contractUndefined)
    (latched : c.before? = some p) (before : c.Concerns incarnations p)
    (after : c.Concerns incarnations r) (shown : c.Shows p v) (shown' : c.Shows r w)
    (aside : c.Aside v w) (captured : ∀ q, c.after? = some q → c.Concerns incarnations q)
    (unreverted : (returnScenario c.scenario outcome.success).isWillRevert = false)
    (succeeds : returnScenario c.scenario outcome.success ≠ .contractFailureWontRevert)
    (back : Leads w ((c.returned p r incarnations child outcome).reversal.map Transition.move) v) :
    (c.returned p r incarnations child outcome).Made incarnations now v w := by
  have rows := accountRows_returned_of_ne other p r incarnations child outcome
  rw [empty, List.nil_append] at rows
  refine made_of_shows (c := c.returned p r incarnations child outcome) stamped rows
    (before.caller_isCurrent after) (before.callee_isCurrent after)
    (leads_between before shown shown' aside) unreverted succeeds ?_ fun _ => back
  intro _ x found
  have found : c.before? = some x ∨ c.after? = some x ∨ some r = some x := found
  rcases found with same | same | same
  · rw [latched] at same
    obtain rfl := Option.some.inj same
    exact before.congr rfl rfl
  · exact (captured x same).congr rfl rfl
  · obtain rfl := Option.some.inj same
    exact after.congr rfl rfl

/-- **A call to an account without code**, once it has returned. -/
theorem Announced.made_external (child : Frame) (outcome : ContextOutcome)
    (announced : c.Announced chain setting world frame i) (quiet : i.exceptions.any = false)
    (proceeds : i.aborts.any = false) (scenario : c.scenario = .externalUndefined)
    (warm : (world.view chain setting.incarnations c.caller).isWarm = true) :
    (c.answered chain (c.moved world) setting.incarnations child outcome).Made setting.incarnations
        setting.stamp (world.view chain setting.incarnations)
        ((c.moved world).view chain setting.incarnations) ∧
      Leads ((c.moved world).view chain setting.incarnations)
        ((c.answered chain (c.moved world) setting.incarnations child outcome).reversal.map
          Transition.move)
        (world.view chain setting.incarnations) := by
  have parsed := announced.parsed quiet
  have latched := parsed.before
  have aside := aside_moved chain setting.incarnations (parsed.payable proceeds) warm
  have shown := c.shows_canonical chain world setting.incarnations
  have shown' := c.shows_canonical chain (c.moved world) setting.incarnations
  have before := c.concerns_canonical chain world setting.incarnations
  have after := c.concerns_canonical chain (c.moved world) setting.incarnations
  obtain ⟨-, captured, -, rows⟩ := announced.course.of_external scenario
  rw [answered_eq_of_before latched]
  have back : Leads ((c.moved world).view chain setting.incarnations)
      ((c.returned (.canonical chain world setting.incarnations c.caller c.callee)
        (.canonical chain (c.moved world) setting.incarnations c.caller c.callee)
        setting.incarnations child outcome).reversal.map Transition.move)
      (world.view chain setting.incarnations) := by
    unfold CallSection.reversal CallSection.returned
    simp only [append, withScenario, push, scenario, returnScenario, latched]
    show Leads _ ((c.undoingOrder ⟨_, _⟩ ⟨_, _⟩).map Transition.move) _
    exact leads_back after shown shown' aside
  refine ⟨made_returned announced.stamp rows (by simp [scenario]) latched before after shown shown'
    aside ?_ ?_ ?_ back, back⟩
  · intro q found
    rw [captured] at found
    cases found
  · rw [scenario]
    rfl
  · rw [scenario]
    simp [returnScenario]

/-- **A call to a precompile**, once it has returned. -/
theorem Announced.made_precompile (child : Frame) {outcome : ContextOutcome} {q : Parties}
    {world' : WorldState} (announced : c.Announced chain setting world frame i)
    (quiet : i.exceptions.any = false) (proceeds : i.aborts.any = false)
    (scenario : c.scenario = .precompileUndefined)
    (transferred : c.Transferred (.canonical chain world setting.incarnations c.caller c.callee) q)
    (warm : (world.view chain setting.incarnations c.caller).isWarm = true)
    (effect : world' = if outcome.success then c.moved world else world.warmUp c.callee) :
    (CallSection.answered chain world' setting.incarnations child outcome
        { c with after? := some q }).Made setting.incarnations
        setting.stamp (world.view chain setting.incarnations)
        (world'.view chain setting.incarnations) ∧
      Leads (world'.view chain setting.incarnations)
        ((CallSection.answered chain world' setting.incarnations child outcome
          { c with after? := some q }).reversal.map Transition.move)
        (world.view chain setting.incarnations) := by
  have parsed := announced.parsed quiet
  have latched := parsed.before
  have shown := c.shows_canonical chain world setting.incarnations
  have shown' := c.shows_canonical chain world' setting.incarnations
  have before := c.concerns_canonical chain world setting.incarnations
  have after := c.concerns_canonical chain world' setting.incarnations
  have exchange := exchange_of_transferred rfl warm transferred (parsed.payable proceeds)
  obtain ⟨target, destination, -, -, rows, -⟩ := announced.course.of_precompile scenario
  have live := Destination.of_eq_precompile destination
  -- A precompile is warm by definition, so a failed call to one leaves everything as it was.
  have unchanged : (world.warmUp c.callee).view chain setting.incarnations =
      world.view chain setting.incarnations := by
    refine WorldState.view_warmUp_of_warm ?_
    show (c.callee.isPrecompile chain || world.isWarm c.callee) = true
    rw [live, Bool.true_or]
  have aside : c.Aside (world.view chain setting.incarnations)
      (world'.view chain setting.incarnations) := by
    rw [effect]
    split
    · exact exchange.aside
    · rw [unchanged]
      exact .refl ..
  rw [answered_eq_of_before (c := { c with after? := some q }) latched]
  have back : Leads (world'.view chain setting.incarnations)
      ((CallSection.returned { c with after? := some q }
        (.canonical chain world setting.incarnations c.caller c.callee)
        (.canonical chain world' setting.incarnations c.caller c.callee)
        setting.incarnations child outcome).reversal.map Transition.move)
      (world.view chain setting.incarnations) := by
    unfold CallSection.reversal CallSection.returned
    cases succeeds : outcome.success with
    | true =>
        rw [effect, if_pos succeeds]
        simp only [append, withScenario, push, scenario, returnScenario, latched, if_true]
        show Leads _
          ((c.undoingOrder ⟨_, _⟩ (c.calleeTransition _ _).reverse).map Transition.move) _
        exact exchange.backward
    | false =>
        rw [effect, if_neg (by simp [succeeds]), unchanged]
        simp only [append, withScenario, push, scenario, returnScenario, Bool.false_eq_true,
          if_false]
        exact .nil _
  refine ⟨made_returned (c := { c with after? := some q }) announced.stamp rows (by simp [scenario])
    latched (before.congr rfl rfl) (after.congr rfl rfl) ⟨shown.caller, shown.callee⟩
    ⟨shown'.caller, shown'.callee⟩ ⟨aside.elsewhere, aside.same⟩ ?_ ?_ ?_ back, back⟩
  · intro x found
    obtain rfl := Option.some.inj found
    exact exchange.after.congr rfl rfl
  · simp only [scenario, returnScenario]
    cases outcome.success <;> rfl
  · simp only [scenario, returnScenario]
    cases outcome.success <;> decide

/-! ## Calls whose child context executes code -/

/-- **A call to a contract**, once its child context has been entered. -/
theorem Announced.made_spawned {q : Parties}
    (announced : c.Announced chain setting world frame i) (quiet : i.exceptions.any = false)
    (proceeds : i.aborts.any = false) (scenario : c.scenario = .contractUndefined)
    (transferred : c.Transferred (.canonical chain world setting.incarnations c.caller c.callee) q)
    (warm : (world.view chain setting.incarnations c.caller).isWarm = true) :
    (c.entered (.canonical chain world setting.incarnations c.caller c.callee) q).Made
        setting.incarnations setting.stamp (world.view chain setting.incarnations)
        ((c.moved world).view chain setting.incarnations) ∧
      (c.entered (.canonical chain world setting.incarnations c.caller c.callee) q).Spawned
        setting.incarnations (world.view chain setting.incarnations)
        ((c.moved world).view chain setting.incarnations)
        (.canonical chain world setting.incarnations c.caller c.callee) q := by
  have parsed := announced.parsed quiet
  have latched := parsed.before
  have exchange := exchange_of_transferred rfl warm transferred (parsed.payable proceeds)
  obtain ⟨-, -, -, empty⟩ := announced.course.of_contract scenario
  have entered : c.entered (.canonical chain world setting.incarnations c.caller c.callee) q =
      { c.append ((c.forwardRows
          ⟨(Parties.canonical chain world setting.incarnations c.caller c.callee).caller, q.caller⟩
          (c.calleeTransition (.canonical chain world setting.incarnations c.caller c.callee) q)
          true).map .account) with
        after? := some q } := by
    rw [CallSection.entered, entryRows, scenario]
  have rows : (c.entered (.canonical chain world setting.incarnations c.caller c.callee)
      q).accountRows = c.forwardRows
        ⟨(Parties.canonical chain world setting.incarnations c.caller c.callee).caller, q.caller⟩
        (c.calleeTransition (.canonical chain world setting.incarnations c.caller c.callee) q)
        true := by
    rw [entered]
    refine (accountRows_append ..).trans ?_
    rw [empty, List.nil_append]
  rw [entered] at rows ⊢
  refine ⟨made_of_shows announced.stamp rows (exchange.before.caller_isCurrent exchange.after)
    (exchange.before.calleeTransition_isCurrent exchange.after) (exchange.forward true) ?_ ?_ ?_ ?_,
    ⟨scenario, latched, rfl, announced.reEntry, rows, exchange.congr rfl rfl rfl⟩⟩
  · show c.scenario.isWillRevert = false
    rw [scenario]
    rfl
  · show c.scenario ≠ _
    rw [scenario]
    exact nofun
  · intro _ x found
    have found : c.before? = some x ∨ some q = some x ∨ c.reEntry? = some x := found
    rw [latched, announced.reEntry] at found
    rcases found with same | same | none
    · obtain rfl := Option.some.inj same
      exact exchange.before.congr rfl rfl
    · obtain rfl := Option.some.inj same
      exact exchange.after.congr rfl rfl
    · cases none
  · intro standing
    have canRevert := standing.canRevert
    have same : c.scenario = .contractUndefined := scenario
    rw [CanRevert] at canRevert
    simp [append, same] at canRevert

end CallSection

end ExecutionTrace
