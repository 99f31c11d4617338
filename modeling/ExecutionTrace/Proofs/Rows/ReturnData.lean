import ExecutionTrace.Proofs.Rows.Grammar

/-!
# What precompiles hand back

A precompile ends as it has been told, or hands back its call data.  What it returned is in up to
three rows of its call: the dispatch of the precompile counts it, the context of the precompile
provides it, and the caller receives it.

## Main Definitions

* `PrecompileRun.completed_eq` — the rows of a precompile that has ended
* `PrecompileRun.resolveAll` — a run that is told repeatedly how it ended
* `Episode.return_data_told_once` — the return data in the rows of a call to a precompile

## Design Notes

The rows of the run and the closing row are prepared when control returns to the caller, and each
discards by itself what a failed precompile has put out.  `CallSection.HandedBack` keeps both for
the end of the transaction, together with the outcome that both were prepared from.
-/

namespace ExecutionTrace

variable {chain : Chain}

/-! ## Runs -/

namespace PrecompileRun

/-- **The rows of a precompile that has ended**, which are none if it has no handler. -/
theorem completed_eq (precompile : Precompile) (callData : Bytes) (returnSpan : Span)
    (context : Nat) (outcome : ContextOutcome) :
    completed precompile callData returnSpan context outcome =
      match precompile.family? with
      | none => []
      | some family =>
          .misc
              { precompile? := some
                  { precompile
                    callDataSize := callData.length
                    returnCapacity := returnSpan.length
                    success := outcome.success
                    returnDataSize := outcome.returnData.length
                    parameters := parametersOf precompile callData } } ::
            (if needsPricingRow family then [.misc {}] else []) ++
            [.context (.provideReturnData context outcome.returnData)] := by
  unfold completed start?
  cases precompile.family? <;> rfl

/-- **A run that is told repeatedly how it ended**, each time by its context and an outcome. -/
def resolveAll (run : PrecompileRun) (endings : List (Nat × ContextOutcome)) : PrecompileRun :=
  endings.foldl (fun run (context, outcome) => run.resolve context outcome) run

/-- The last time counts. -/
theorem resolveAll_concat (run : PrecompileRun) (endings : List (Nat × ContextOutcome))
    (context : Nat) (outcome : ContextOutcome) :
    run.resolveAll (endings ++ [(context, outcome)]) = run.resolve context outcome := by
  induction endings generalizing run with
  | nil => rfl
  | cons ending endings ih => exact ih (run.resolve ending.1 ending.2)

/-- A run has no rows before it has ended, and depends on nothing but its latest ending
afterwards. -/
theorem rows_resolveAll {precompile : Precompile} {callData : Bytes} {returnSpan : Span}
    {run : PrecompileRun} (started : start? precompile callData returnSpan = some run)
    (endings : List (Nat × ContextOutcome)) :
    (run.resolveAll endings).rows =
      match endings.getLast? with
      | none => []
      | some (context, outcome) =>
          completed precompile callData returnSpan context outcome := by
  rcases endings.eq_nil_or_concat' with rfl | ⟨earlier, ⟨context, outcome⟩, rfl⟩
  · obtain ⟨family, -, rfl⟩ := Option.map_eq_some_iff.1 started
    rfl
  · rw [List.getLast?_concat, resolveAll_concat]
    unfold completed
    rw [started]
    rfl

end PrecompileRun

/-! ## Calls -/

namespace CallSection

variable {c : CallSection} {outcomes : Std.TreeMap Address ContextOutcome} {i : Invocation}

/-- A call to a precompile that is over has kept what the precompile returned. -/
theorem Formed.exists_handedBack (h : c.Formed chain outcomes i) (isOver : c.Resolved)
    (runs : c.scenario.isPrecompileCall = true) :
    ∃ success, c.HandedBack chain outcomes i success ∧
      c.scenario ∈ if success then [.precompileSuccessWontRevert, .precompileSuccessWillRevert]
        else [.precompileFailure] := by
  have keeps := h.keeps
  have resolved := isOver.isUndefined_eq
  unfold Keeps at keeps
  cases scenario : c.scenario <;> rw [scenario] at runs resolved keeps
  case precompileSuccessWontRevert | precompileSuccessWillRevert => exact ⟨true, keeps, by simp⟩
  case precompileFailure => exact ⟨false, keeps, by simp⟩
  case precompileUndefined => cases resolved
  all_goals cases runs

end CallSection

namespace Episode

/-- **The data that a precompile returns is told once, and consistently.**  Every call was made by
an instruction.  Let the precompile that a call went to end as it has been told, or else succeed
with the call data, and let its data be what a success has put out and nothing after a failure.
Then the call ends with the row in which the caller receives the data, which comes after rows on
the parties and, if the precompile has a handler, after those in which it is dispatched, priced and
provides the data; no other row calls a precompile.  A run has no rows before it is told how it
ended, and those of what it has been told last afterwards. -/
theorem return_data_told_once (run : Episode chain) :
    (∀ c ∈ run.calls, ∃ i, run.CalledBy i c) ∧
    (∀ i c, run.CalledBy i c → c.scenario.isPrecompileCall = true →
      let outcome := i.precompileOutcome run.idle.precompileOutcomes c.callee
      let data := if outcome.success then outcome.output else []
      i.callee = .ok c.callee ∧
      (c.scenario ∈ if outcome.success then
        [.precompileSuccessWontRevert, .precompileSuccessWillRevert]
        else [.precompileFailure]) ∧
      (run.idle.precompileOutcomes[c.callee]? = none → data = i.callData) ∧
      c.misc.precompile? = none ∧
      ∃ (target : Precompile) (returnSpan : Span) (child : Nat) (accounts : List AccountRow),
        Precompile.at? chain c.callee = some target ∧ i.returnSpan = .ok returnSpan ∧
        c.rows = CallSection.opening c.kind c.stack c.pushed? c.scenario c.shared.context c.misc ++
          accounts.map .account ++
          (match target.family? with
            | none => []
            | some family =>
                .misc
                    { precompile? := some
                        { precompile := target
                          callDataSize := i.callData.length
                          returnCapacity := returnSpan.length
                          success := outcome.success
                          returnDataSize := data.length
                          parameters := PrecompileRun.parametersOf target i.callData } } ::
                  (if PrecompileRun.needsPricingRow family then [.misc {}] else []) ++
                  [.context (.provideReturnData child data)]) ++
          [.context (.updateReturnData c.shared.context child data)]) ∧
    ∀ precompile callData returnSpan fresh,
      PrecompileRun.start? precompile callData returnSpan = some fresh → ∀ endings,
        (fresh.resolveAll endings).rows =
          match endings.getLast? with
          | none => []
          | some (child, outcome) =>
              PrecompileRun.completed precompile callData returnSpan child outcome := by
  refine ⟨fun c hc => exists_calledBy hc, fun i c calledBy runs => ?_,
    fun _ _ _ _ started => PrecompileRun.rows_resolveAll started⟩
  obtain ⟨c, rfl, isOver, formed⟩ := calledBy.lasting
    (CallSection.lasting_formed chain run.idle.precompileOutcomes i)
    fun emerges => emerges.formed.of_aborts
  obtain ⟨-, -, misc⟩ := c.shut_shows
  obtain ⟨shared, -, callee', scenario'⟩ := c.shut_terms
  rw [scenario'] at runs ⊢
  rw [callee', shared]
  obtain ⟨success, ⟨target, child, outcome, live, rfl, ran, closing, callee, returnSpan, told⟩,
    scenario⟩ := formed.exists_handedBack isOver runs
  have rows : c.shut.body = c.accountRows.map .account ++
      PrecompileRun.completed target i.callData c.returnSpan child outcome ++
      [.context (.updateReturnData c.shared.context child outcome.returnData)] := by
    rw [CallSection.body_shut closing, runs, if_pos rfl, formed.body, ran, Option.map_map]
    rfl
  rw [PrecompileRun.completed_eq] at rows
  refine ⟨callee, ?_, fun untold => ?_, misc ▸ formed.misc, target, c.returnSpan, child,
    c.accountRows, live, returnSpan, ?_⟩
  · rw [← told]
    exact scenario
  · rw [Invocation.precompileOutcome_of_untold untold]
    rfl
  · rw [c.shut.rows_eq, c.shut.prequel_eq, scenario', shared, rows, ← told]
    simp only [List.append_assoc]
    rfl

end Episode

/-- A machine whose second precompile is told to fail, although it puts something out. -/
def Script.junkStage : Machine :=
  stage.withPrecompileOutcome 2 { success := false, output := [1, 2] }

/-- A precompile that fails hands back nothing, although it was told to put something out; one that
has not been told anything hands back its call data. -/
theorem return_data_of_junk : ∃ run : Episode .ethereum,
    (∃ i c, run.CalledBy i c ∧ c.scenario = .precompileFailure ∧
      ∃ (returnSpan : Span) (child : Nat) (accounts : List AccountRow),
        i.returnSpan = .ok returnSpan ∧
        c.rows = CallSection.opening c.kind c.stack c.pushed? c.scenario c.shared.context c.misc ++
          accounts.map .account ++
          [.misc
            { precompile? := some
                { precompile := .sha256
                  callDataSize := i.callData.length
                  returnCapacity := returnSpan.length
                  success := false
                  returnDataSize := 0
                  parameters := .none } },
            .context (.provideReturnData child []),
            .context (.updateReturnData c.shared.context child [])]) ∧
    (∃ i c, run.CalledBy i c ∧ c.scenario = .precompileSuccessWontRevert ∧
      ∃ child, c.rows.getLast? =
        some (.context (.updateReturnData c.shared.context child i.callData))) ∧
    ∃ subsection, PrecompileRun.start? .identity [7, 8] {} = some subsection ∧
      (subsection.resolveAll [(3, .succeeded [7, 8]), (4, .failed)]).rows =
        PrecompileRun.completed .identity [7, 8] {} 4 .failed := by
  have evaluated : Script.junkStage.rehearse .ethereum (Script.messageCall Script.sender 0xc0de 1)
      [.call (.make .call 2 0), .call { Invocation.make .call 4 0 with callData := [7, 8] }]
      (.succeeded []) 30000 (fun idle _ closed =>
        (idle.callsSince closed).any (fun c =>
          c.scenario = .precompileFailure && c.callee = 2 &&
          idle.precompileOutcomes[c.callee]? = some { success := false, output := [1, 2] }) &&
        (idle.callsSince closed).any fun c =>
          c.scenario = .precompileSuccessWontRevert &&
            (idle.precompileOutcomes[c.callee]?).isNone) = true := by
    decide +kernel
  have reachable : Reachable .ethereum Script.junkStage := .initial _ [(2, _)]
  obtain ⟨run, -, seen⟩ := Machine.exists_episode reachable evaluated
  obtain ⟨failing, handing⟩ := Bool.and_eq_true_iff.1 seen
  obtain ⟨made, told, resolves⟩ := run.return_data_told_once
  refine ⟨run, ?_, ?_, _, rfl, resolves .identity [7, 8] {} _ rfl _⟩
  · obtain ⟨c, hc, failed⟩ := List.any_eq_true.1 failing
    simp only [Bool.and_eq_true, decide_eq_true_eq] at failed
    obtain ⟨⟨scenario, hasher⟩, junk⟩ := failed
    obtain ⟨i, calledBy⟩ := made c hc
    obtain ⟨-, -, -, -, target, returnSpan, child, accounts, live, read, rows⟩ :=
      told i c calledBy (by rw [scenario]; rfl)
    rw [Invocation.precompileOutcome_of_told junk] at rows
    rw [hasher] at live
    obtain rfl : .sha256 = target := Option.some.inj live
    refine ⟨i, c, calledBy, scenario, returnSpan, child, accounts, read, ?_⟩
    rw [rows, List.append_assoc]
    rfl
  · obtain ⟨c, hc, succeeded⟩ := List.any_eq_true.1 handing
    simp only [Bool.and_eq_true, decide_eq_true_eq, Option.isNone_iff_eq_none] at succeeded
    obtain ⟨scenario, untold⟩ := succeeded
    obtain ⟨i, calledBy⟩ := made c hc
    obtain ⟨-, -, handed, -, target, returnSpan, child, accounts, live, read, rows⟩ :=
      told i c calledBy (by rw [scenario]; rfl)
    refine ⟨i, c, calledBy, scenario, child, ?_⟩
    rw [rows, List.getLast?_concat, handed untold]

end ExecutionTrace
