import ExecutionTrace.Proofs.Run.Development
import ExecutionTrace.Proofs.Run.Rehearsal

/-!
# The grammar of call sections

A call section consists of four rows that every call has, rows on its parties, the rows of a
precompile, and a closing row.  How many there are of each, what the instruction pushed, and which
row comes last, is determined by the scenario.

## Main Definitions

* `Scenario.pushed?`, `Scenario.accountRowCount` — what a scenario says about the rows
* `CallSection.Formed` — a section that fits its scenario while the transaction executes
* `CallSection.Ending` — the rows after those on the parties
* `Episode.rows_of_call` — the rows of a call at the end of its transaction

## Design Notes

Rows are added by the announcement, by the entry of the child context, by the return from it, by a
rollback and at the end.  None of these looks at what the others have added, so a section is
known by its scenario alone: each of them moves the scenario along, and adds the difference.
-/

namespace ExecutionTrace

/-! ## What a scenario says -/

namespace Scenario

/-- **What the instruction pushed**, by what became of the call. -/
def pushed? : Scenario → Option Word
  | abortWontRevert | abortWillRevert | precompileFailure | contractFailureWontRevert
  | contractFailureWillRevert => some 0
  | externalSuccessWontRevert | externalSuccessWillRevert | precompileSuccessWontRevert
  | precompileSuccessWillRevert | contractSuccessWontRevert | contractSuccessWillRevert => some 1
  | undefined | exception | externalUndefined | precompileUndefined | contractUndefined => none

/-- **The number of rows on the parties of a call**, which for an exceptional one depends on the
exceptions.  A call to a contract shows its parties when its child context is entered. -/
def accountRowCount (exceptions : ExceptionFlags) : Scenario → Nat
  | undefined | externalUndefined | precompileUndefined => 0
  | exception => if exceptions.outOfGasAlone then 2 else 0
  | contractUndefined | abortWontRevert | externalSuccessWontRevert | precompileSuccessWontRevert
  | precompileFailure | contractSuccessWontRevert => 2
  | abortWillRevert => 3
  | externalSuccessWillRevert | precompileSuccessWillRevert | contractSuccessWillRevert
  | contractFailureWontRevert => 4
  | contractFailureWillRevert => 5

end Scenario

/-- The number of rows that a precompile contributes once it has returned. -/
def Precompile.rowCount : Precompile → Nat
  | modexp | blake2f => 3
  | pointEvaluation | p256Verify => 0
  | _ => 2

namespace PrecompileRun

/-- The rows of a precompile that has returned. -/
def completed (precompile : Precompile) (callData : Bytes) (returnSpan : Span) (context : Nat)
    (outcome : ContextOutcome) : List Row :=
  ((start? precompile callData returnSpan).map fun run =>
    (run.resolve context outcome).rows).getD []

theorem length_completed (precompile : Precompile) (callData : Bytes) (returnSpan : Span)
    (context : Nat) (outcome : ContextOutcome) :
    (completed precompile callData returnSpan context outcome).length = precompile.rowCount := by
  cases precompile <;> rfl

end PrecompileRun

namespace CallSection

variable {chain : Chain} {setting : Setting} {world : WorldState} {frame : Frame} {i : Invocation}
  {c c' : CallSection} {outcomes : Std.TreeMap Address ContextOutcome}

/-! ## Sections of a running transaction -/

/-- What a section keeps of a precompile that has returned, which ended as it has been told. -/
def HandedBack (chain : Chain) (outcomes : Std.TreeMap Address ContextOutcome) (i : Invocation)
    (success : Bool) (c : CallSection) : Prop :=
  ∃ target child outcome, Precompile.at? chain c.callee = some target ∧ outcome.success = success ∧
    c.run? = (PrecompileRun.start? target i.callData c.returnSpan).map (·.resolve child outcome) ∧
    c.closing? = some (.updateReturnData c.shared.context child outcome.returnData) ∧
    i.callee = .ok c.callee ∧ i.returnSpan = .ok c.returnSpan ∧
    outcome = i.precompileOutcome outcomes c.callee

/-- **What a section keeps for its end**, by its scenario. -/
def Keeps (chain : Chain) (outcomes : Std.TreeMap Address ContextOutcome) (i : Invocation)
    (c : CallSection) : Prop :=
  match c.scenario with
  | .exception => c.closing? = none
  | .abortWontRevert | .abortWillRevert | .externalSuccessWontRevert | .externalSuccessWillRevert =>
      c.closing? = some (.emptyReturnData c.shared.context)
  | .contractUndefined | .contractSuccessWontRevert | .contractSuccessWillRevert
  | .contractFailureWontRevert | .contractFailureWillRevert =>
      ∃ child, c.closing? = some (.initializeChild child)
  | .precompileSuccessWontRevert | .precompileSuccessWillRevert =>
      c.HandedBack chain outcomes i true
  | .precompileFailure => c.HandedBack chain outcomes i false
  | .undefined | .externalUndefined | .precompileUndefined => False

/-- **A section that fits its scenario**, given the instruction that made the call and how
precompiles have been told to end. -/
structure Formed (chain : Chain) (outcomes : Std.TreeMap Address ContextOutcome) (i : Invocation)
    (c : CallSection) : Prop where
  kind : c.kind = i.kind
  stack : c.stack = i.stack
  /-- The fourth row calls no precompile. -/
  misc : c.misc.precompile? = none
  /-- The closing row and the rows of a precompile are yet to come. -/
  body : c.body = c.accountRows.map .account
  count : c.accountRows.length = c.scenario.accountRowCount i.exceptions
  pushed : c.pushed? = c.scenario.pushed?
  keeps : c.Keeps chain outcomes i

/-- Aborting conditions say nothing about the rows. -/
theorem Formed.of_aborts {aborts : AbortFlags} (h : c.Formed chain outcomes { i with aborts }) :
    c.Formed chain outcomes i :=
  ⟨h.kind, h.stack, h.misc, h.body, h.count, h.pushed, h.keeps⟩

/-- Rows on accounts may be added to rows on accounts. -/
theorem body_append (body : c.body = c.accountRows.map .account) {rows : List AccountRow}
    (appended : c'.body = c.body ++ rows.map .account) :
    c'.body = c'.accountRows.map .account := by
  have accounts : c'.accountRows = c.accountRows ++ rows := by
    rw [accountRows, appended, List.filterMap_append, filterMap_account?_map]
    rfl
  rw [appended, accounts, List.map_append, ← body]

/-- Entering the child context adds rows on accounts only. -/
theorem Enters.body_eq {before : Parties} (enters : c.Enters before c')
    (body : c.body = c.accountRows.map .account) : c'.body = c'.accountRows.map .account := by
  rcases enters with ⟨-, rfl⟩ | ⟨-, after, -, rfl⟩
  · exact body
  · exact body_append body (c.entered_shows before after).2.2.2

/-! ### The return -/

/-- **A call that has returned** fits its scenario, if its rows are as many as that says and if it
keeps what that says. -/
theorem formed_returned {before reEntry : Parties} {incarnations : Incarnations} {child : Frame}
    {outcome : ContextOutcome} (kind : c.kind = i.kind) (stack : c.stack = i.stack)
    (misc : c.misc.precompile? = none) (body : c.body = c.accountRows.map .account)
    (count : c.accountRows.length +
      (c.returnRows before reEntry incarnations child outcome.success).length =
        (returnScenario c.scenario outcome.success).accountRowCount i.exceptions)
    (pushed : some (Word.ofBool outcome.success) =
      (returnScenario c.scenario outcome.success).pushed?)
    (keeps : (c.returned before reEntry incarnations child outcome).Keeps chain outcomes i) :
    (c.returned before reEntry incarnations child outcome).Formed chain outcomes i := by
  obtain ⟨stack', pushed', misc', body'⟩ :=
    c.returned_shows before reEntry incarnations child outcome
  refine ⟨kind, stack'.trans stack, misc' ▸ misc, body_append body body', ?_, pushed'.trans pushed,
    keeps⟩
  rw [accountRows_returned, List.length_append]
  exact count

/-- The termination of a child context adds no row. -/
theorem Formed.parting (h : c.Formed chain outcomes i) (world : WorldState)
    (incarnations : Incarnations) (child : Nat) :
    (c.parting chain world incarnations child).Formed chain outcomes i := by
  unfold CallSection.parting heed
  split
  · exact ⟨h.kind, h.stack, h.misc, h.body, h.count, h.pushed, h.keeps⟩
  · exact h

/-- **A call to a contract that has returned** shows that its transfer is undone, if it failed. -/
theorem Formed.answered {id : Nat} (h : c.Formed chain outcomes i) (pending : c.Pending id)
    (scenario : c.scenario = .contractUndefined) (world : WorldState) (incarnations : Incarnations)
    (child : Frame) (outcome : ContextOutcome) :
    (c.answered chain world incarnations child outcome).Formed chain outcomes i := by
  obtain ⟨before, latched⟩ := Option.isSome_iff_exists.1 pending.latched
  obtain ⟨after, captured⟩ : ∃ after, c.after? = some after := by
    rcases pending.course with ⟨other, -⟩ | ⟨other, -⟩ | ⟨-, after, -⟩
    · rw [scenario] at other
      cases other
    · rw [scenario] at other
      cases other
    · exact Option.isSome_iff_exists.1 after
  obtain ⟨last, keeps⟩ : ∃ last, c.closing? = some (.initializeChild last) := by
    have keeps := h.keeps
    rw [Keeps, scenario] at keeps
    exact keeps
  have count : c.accountRows.length = 2 := by
    rw [h.count, scenario]
    rfl
  rw [answered_eq_of_before latched]
  refine formed_returned h.kind h.stack h.misc h.body ?_ ?_ ?_
  · rw [count, returnRows, scenario, captured]
    cases outcome.success <;> rfl
  · rw [scenario]
    cases outcome.success <;> rfl
  · have same := closing_returned (c := c) (by simp [scenario]) before
      (.canonical chain world incarnations c.caller c.callee) incarnations child outcome
    have closing := same.trans keeps
    rw [Keeps, scenario_returned, scenario]
    cases outcome.success
    · exact ⟨last, closing⟩
    · exact ⟨last, closing⟩

/-! ### The rollback -/

/-- **A call whose context has been rolled back** shows what the rollback undoes of it. -/
theorem Formed.reverted (h : c.Formed chain outcomes i) (standing : c.Standing)
    (rolledBack : Parties) (incarnations : Incarnations) (revertStamp : Nat) :
    (c.reverted rolledBack incarnations revertStamp).Formed chain outcomes i := by
  obtain ⟨before, latched⟩ := Option.isSome_iff_exists.1 standing.latched
  have canRevert := standing.canRevert
  have count := h.count
  have pushed := h.pushed
  have keeps := h.keeps
  have moved : (c.reverted rolledBack incarnations revertStamp).scenario =
      c.scenario.willRevert?.getD c.scenario := rfl
  obtain ⟨stack, same, misc, body⟩ := c.reverted_shows rolledBack incarnations revertStamp
  unfold CanRevert at canRevert
  refine ⟨h.kind, stack.trans h.stack, misc ▸ h.misc, body_append h.body body, ?_, ?_, ?_⟩
  · rw [accountRows_reverted, moved, List.length_append, count, compensation, latched]
    cases scenario : c.scenario <;> rw [scenario] at canRevert
    case precompileFailure => rfl
    all_goals first
      | exact canRevert.elim
      | obtain ⟨captured, found⟩ := Option.isSome_iff_exists.1 canRevert
        rw [found]
        rfl
  · rw [same, moved, pushed]
    cases c.scenario <;> rfl
  · rw [Keeps] at keeps ⊢
    rw [moved]
    cases scenario : c.scenario <;> rw [scenario] at keeps <;> exact keeps

theorem Formed.fallBack (h : c.Formed chain outcomes i) (isOver : c.Resolved) (world : WorldState)
    (incarnations : Incarnations) (revertStamp : Nat) :
    (c.fallBack chain world incarnations revertStamp).Formed chain outcomes i := by
  unfold CallSection.fallBack heed
  split
  · rename_i waits
    rcases isOver.mem_awaits waits with ⟨standing, -⟩ | other
    · exact h.reverted standing ..
    · cases other
  · exact h

/-- **However a call develops**, its section fits its scenario. -/
theorem lasting_formed (chain : Chain) (outcomes : Std.TreeMap Address ContextOutcome)
    (i : Invocation) : Lasting chain (Formed chain outcomes i) := by
  intro stamp outcome c c' develops h
  cases develops with
  | stays => exact h
  | returns world world' incarnations pending scenario =>
      refine (h.parting ..).answered (pending.parting ..).1 ?_ ..
      rw [scenario_parting]
      exact scenario
  | falls world incarnations _ isOver => exact h.fallBack isOver ..

/-! ### The announcement -/

/-- An exceptional call. -/
theorem Announced.formed_dismissed (announced : c.Announced chain setting world frame i)
    (raised : i.exceptions.any = true) : c.Formed chain outcomes i := by
  obtain ⟨scenario, closing, rows⟩ := announced.course.of_raised raised
  refine ⟨announced.kind, announced.stack, announced.misc, announced.body, ?_, ?_, ?_⟩
  · rw [rows, scenario, Scenario.accountRowCount]
    split <;> rfl
  · rw [announced.pushed, scenario]
    rfl
  · rw [Keeps, scenario]
    exact closing

/-- An aborted call. -/
theorem Announced.formed_aborted (announced : c.Announced chain setting world frame i)
    (quiet : i.exceptions.any = false) (aborts : i.aborts.any = true) :
    (c.push 0).Formed chain outcomes i := by
  obtain ⟨scenario, -, closing, rows⟩ := announced.course.of_aborts quiet aborts
  obtain ⟨stack, pushed, misc, body⟩ := c.push_shows 0
  have same : (c.push 0).scenario = .abortWontRevert := scenario
  refine ⟨announced.kind, stack.trans announced.stack, misc ▸ announced.misc, ?_, ?_, ?_, ?_⟩
  · rw [body, accountRows_push, announced.body]
  · rw [accountRows_push, rows, same]
    rfl
  · rw [pushed, same]
    rfl
  · rw [Keeps, same]
    exact closing

/-- A call whose child context has ended by itself. -/
theorem Announced.formed_immediate (announced : c.Announced chain setting world frame i)
    (quiet : i.exceptions.any = false) (proceeds : i.aborts.any = false)
    (other : c.scenario ≠ .contractUndefined) {before : Parties} (enters : c.Enters before c')
    {outcome : ContextOutcome} (succeeds : c.scenario = .externalUndefined → outcome.success = true)
    (told : c.scenario = .precompileUndefined → outcome = i.precompileOutcome outcomes c.callee)
    (world' : WorldState) (incarnations : Incarnations) (child : Frame) :
    (c'.answered chain world' incarnations child outcome).Formed chain outcomes i := by
  have parsed := announced.parsed quiet
  rcases announced.course.scenario_of_proceeds quiet proceeds with scenario | scenario | scenario
  · obtain ⟨-, -, closing, rows⟩ := announced.course.of_external scenario
    obtain rfl : c' = c := enters.eq_of_external scenario
    rw [answered_eq_of_before parsed.before]
    refine formed_returned announced.kind announced.stack announced.misc announced.body ?_ ?_ ?_
    · rw [rows, returnRows, scenario]
      rfl
    · rw [scenario, succeeds scenario]
      rfl
    · rw [Keeps, scenario_returned, scenario]
      exact (closing_returned (by simp [scenario]) ..).trans closing
  · obtain ⟨target, destination, -, -, rows, run⟩ := announced.course.of_precompile scenario
    have live := Destination.at?_of_eq_precompile destination
    obtain ⟨after, -, rfl⟩ := enters.exists_entered (by simp [scenario])
    obtain ⟨stack, -, misc, body⟩ := c.entered_shows before after
    have silent : c.entryRows before after = [] := by
      rw [entryRows, scenario]
    have shown : (c.entered before after).accountRows = [] := by
      rw [accountRows_entered, rows, silent]
      rfl
    have same : (c.entered before after).scenario = .precompileUndefined := scenario
    rw [answered_eq_of_before (c := c.entered before after) parsed.before]
    refine formed_returned announced.kind (stack.trans announced.stack) (misc ▸ announced.misc)
      (body_append announced.body body) ?_ ?_ ?_
    · rw [shown, returnRows, same]
      cases outcome.success <;> rfl
    · rw [same]
      cases outcome.success <;> rfl
    · obtain ⟨ran, closing⟩ := handed_returned same before
        (.canonical chain world' incarnations c.caller c.callee) incarnations child outcome
      have handed : HandedBack chain outcomes i outcome.success ((c.entered before after).returned
          before (.canonical chain world' incarnations c.caller c.callee) incarnations child
            outcome) :=
        ⟨target, child.id, outcome, live, rfl, ran.trans (congrArg (Option.map _) run), closing,
          parsed.callee, parsed.returnSpan, told scenario⟩
      rw [Keeps, scenario_returned, same]
      generalize outcome.success = success at handed ⊢
      cases success
      · exact handed
      · exact handed
  · exact absurd scenario other

/-- A call whose child context executes code. -/
theorem Announced.formed_spawned (announced : c.Announced chain setting world frame i)
    (scenario : c.scenario = .contractUndefined) {before : Parties} (enters : c.Enters before c') :
    c'.Formed chain outcomes i := by
  obtain ⟨-, -, closing, rows⟩ := announced.course.of_contract scenario
  obtain ⟨after, -, rfl⟩ := enters.exists_entered (by simp [scenario])
  obtain ⟨stack, pushed, misc, body⟩ := c.entered_shows before after
  have same : (c.entered before after).scenario = .contractUndefined := scenario
  refine ⟨announced.kind, stack.trans announced.stack, misc ▸ announced.misc,
    body_append announced.body body, ?_, ?_, ?_⟩
  · rw [accountRows_entered, rows, entryRows, same]
    simp only [scenario]
    rfl
  · rw [pushed, announced.pushed, same]
    rfl
  · rw [Keeps, same]
    exact ⟨_, closing⟩

/-- **The step that makes a call** leaves a section that fits its scenario. -/
theorem Emerges.formed (emerges : c.Emerges chain outcomes setting world frame i) :
    c.Formed chain outcomes i := by
  cases emerges with
  | dismissed announced raised => exact announced.formed_dismissed raised
  | aborted announced quiet aborts => exact announced.formed_aborted quiet aborts
  | immediate world' incarnations announced quiet proceeds other enters succeeds told =>
      exact announced.formed_immediate quiet proceeds other enters succeeds told ..
  | spawned announced _ _ scenario enters => exact announced.formed_spawned scenario enters

/-! ## Sections of a transaction that is over -/

/-- **The rows after those on the parties**: those of a precompile, and the closing row. -/
inductive Ending (chain : Chain) (i : Invocation) (c : CallSection) :
    List Row → List ContextRow → Prop
  /-- Nothing follows the rows of an exceptional call. -/
  | exceptional (scenario : c.scenario = .exception) : Ending chain i c [] []
  /-- A call that executes nothing leaves no return data. -/
  | unexecuted (scenario : c.scenario ∈ [.abortWontRevert, .abortWillRevert,
      .externalSuccessWontRevert, .externalSuccessWillRevert]) :
      Ending chain i c [] [.emptyReturnData c.shared.context]
  /-- A call to a contract initializes its child context. -/
  | executed (child : Nat) (scenario : c.scenario ∈ [.contractSuccessWontRevert,
      .contractSuccessWillRevert, .contractFailureWontRevert, .contractFailureWillRevert]) :
      Ending chain i c [] [.initializeChild child]
  /-- A precompile that has a handler contributes rows of its own, and hands back its data. -/
  | precompile {target : Precompile} (child : Nat) (outcome : ContextOutcome)
      (live : Precompile.at? chain c.callee = some target)
      (scenario : c.scenario ∈ if outcome.success then
        [.precompileSuccessWontRevert, .precompileSuccessWillRevert] else [.precompileFailure])
      (count : (PrecompileRun.completed target i.callData c.returnSpan child outcome).length =
        target.rowCount) :
      Ending chain i c (PrecompileRun.completed target i.callData c.returnSpan child outcome)
        [.updateReturnData c.shared.context child outcome.returnData]

/-- Whether the end of the transaction has come changes nothing about what follows. -/
theorem Ending.shut {precompile : List Row} {closing : List ContextRow}
    (h : c.Ending chain i precompile closing) : c.shut.Ending chain i precompile closing := by
  obtain ⟨body, closing?, eq, -⟩ := c.shut_cases
  rw [eq]
  cases h with
  | exceptional scenario => exact .exceptional scenario
  | unexecuted scenario => exact .unexecuted scenario
  | executed child scenario => exact .executed child scenario
  | precompile child outcome live scenario count =>
      exact .precompile child outcome live scenario count

theorem Resolved.isUndefined_eq (isOver : c.Resolved) : c.scenario.isUndefined = false := by
  cases isOver with
  | dismissed dismissed =>
      rw [dismissed.scenario]
      rfl
  | standing standing => exact standing.isUndefined_eq
  | undone undone => exact undone.isUndefined_eq

/-- The end of a call that is not to a precompile. -/
theorem body_shut_of_plain {row : ContextRow} (closing : c.closing? = some row)
    (plain : c.scenario.isPrecompileCall = false) :
    c.shut.body = c.body ++ [] ++ [row].map .context := by
  rw [body_shut closing, plain]
  rfl

/-- The end of a call to a precompile. -/
theorem HandedBack.exists_ending {success : Bool} (h : c.HandedBack chain outcomes i success)
    (runs : c.scenario.isPrecompileCall = true)
    (scenario : c.scenario ∈ if success then [.precompileSuccessWontRevert,
      .precompileSuccessWillRevert] else [.precompileFailure]) :
    ∃ precompile closing, c.Ending chain i precompile closing ∧
      c.shut.body = c.body ++ precompile ++ closing.map .context := by
  obtain ⟨target, child, outcome, live, rfl, run, closing, -⟩ := h
  refine ⟨_, _, .precompile child outcome live scenario (PrecompileRun.length_completed ..), ?_⟩
  rw [body_shut closing, runs, run, Option.map_map]
  rfl

/-- **How the rows of a call end**, once its transaction has ended. -/
theorem Formed.exists_ending (h : c.Formed chain outcomes i) (isOver : c.Resolved) :
    ∃ precompile closing, c.Ending chain i precompile closing ∧
      c.shut.body = c.body ++ precompile ++ closing.map .context := by
  have resolved := isOver.isUndefined_eq
  have keeps := h.keeps
  unfold Keeps at keeps
  cases scenario : c.scenario <;> rw [scenario] at resolved keeps
  case undefined | externalUndefined | precompileUndefined | contractUndefined => cases resolved
  case exception =>
    refine ⟨[], [], .exceptional scenario, ?_⟩
    rw [shut_of_closed keeps (by rw [scenario]; rfl)]
    simp
  case abortWontRevert | abortWillRevert | externalSuccessWontRevert | externalSuccessWillRevert =>
    exact ⟨_, _, .unexecuted (by simp [scenario]),
      body_shut_of_plain keeps (by rw [scenario]; rfl)⟩
  case contractSuccessWontRevert | contractSuccessWillRevert | contractFailureWontRevert |
      contractFailureWillRevert =>
    obtain ⟨child, closing⟩ := keeps
    exact ⟨_, _, .executed child (by simp [scenario]),
      body_shut_of_plain closing (by rw [scenario]; rfl)⟩
  case precompileSuccessWontRevert | precompileSuccessWillRevert | precompileFailure =>
    exact keeps.exists_ending (by rw [scenario]; rfl) (by simp [scenario])

end CallSection

/-! ## The calls of a transaction -/

/-- **The rows of a call at the end of its transaction.** Every call was made by an instruction.
It has the four rows of any call, of which the first shows the stack of the instruction and what it
pushed and the second the scenario; then as many rows on its parties as its scenario says; then
the rows of a precompile, if it called one that has a handler; and a closing row, unless it
was exceptional. -/
theorem Episode.rows_of_call {chain : Chain} (run : Episode chain) :
    (∀ c ∈ run.calls, ∃ i, run.CalledBy i c) ∧
      ∀ i c, run.CalledBy i c →
        ∃ (accounts : List AccountRow) (precompile : List Row) (closing : List ContextRow),
        c.rows =
          [.stack { mnemonic := i.kind.mnemonic, items := i.stack, pushed? := c.scenario.pushed? },
            .scenario c.scenario, .context (.readCurrent c.shared.context), .misc c.misc] ++
          accounts.map .account ++ precompile ++ closing.map .context ∧
        accounts.length = c.scenario.accountRowCount i.exceptions ∧
        c.Ending chain i precompile closing := by
  refine ⟨fun c hc => exists_calledBy hc, fun i c calledBy => ?_⟩
  obtain ⟨c, rfl, isOver, formed⟩ := calledBy.lasting (CallSection.lasting_formed chain _ i)
    fun emerges => emerges.formed.of_aborts
  obtain ⟨precompile, closing, ending, rows⟩ := formed.exists_ending isOver
  refine ⟨c.accountRows, precompile, closing, ?_, ?_, ending.shut⟩
  · obtain ⟨stack, pushed, misc⟩ := c.shut_shows
    obtain ⟨shared, kind, -, scenario⟩ := c.shut_terms
    rw [CallSection.rows_eq, CallSection.prequel_eq, rows, formed.body, stack, pushed, kind,
      scenario, formed.kind, formed.stack, formed.pushed]
    simp [CallSection.opening]
  · rw [c.shut_terms.2.2.2]
    exact formed.count

/-- A call that failed and whose caller was rolled back has five rows on its parties. -/
theorem rows_of_call_after_rollback : ∃ run : Episode .ethereum, ∃ i c, run.CalledBy i c ∧
    c.scenario = .contractFailureWillRevert ∧ ∃ (accounts : List AccountRow) (child : Nat),
      c.rows =
        [.stack { mnemonic := i.kind.mnemonic, items := i.stack, pushed? := some 0 },
          .scenario .contractFailureWillRevert, .context (.readCurrent c.shared.context),
          .misc c.misc] ++ accounts.map .account ++ [.context (.initializeChild child)] ∧
      accounts.length = 5 := by
  obtain ⟨run, c, hc, failed⟩ :=
    Script.exists_call .failed .contractFailureWillRevert (by decide +kernel)
  obtain ⟨made, rows⟩ := run.rows_of_call
  obtain ⟨i, calledBy⟩ := made c hc
  obtain ⟨accounts, precompile, closing, rows, count, ending⟩ := rows i c calledBy
  refine ⟨run, i, c, calledBy, failed, accounts, ?_⟩
  rw [failed] at rows count
  cases ending with
  | executed child => exact ⟨child, by simpa [Scenario.pushed?] using rows, count⟩
  | exceptional other => simp [failed] at other
  | unexecuted other => simp [failed] at other
  | precompile child outcome live other =>
      split at other
      · simp [failed] at other
      · simp [failed] at other

end ExecutionTrace
