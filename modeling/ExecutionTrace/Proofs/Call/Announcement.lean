import ExecutionTrace.Proofs.Disagreement
import ExecutionTrace.Proofs.State.Face
import ExecutionTrace.Proofs.Stateful
import ExecutionTrace.Section.Call.Announced

/-!
# What an accepted announcement says

A call that the tracer accepts takes one of five courses.  This file says what is known of its
section on each of them, and that nothing but a script can be the reason why a call is
refused.

## Main Definitions

* `Trace.accountRows`, `CallSection.accountRows` — the account rows of a section, in the order of
  production
* `CallSection.Course` — the five courses of an accepted call, each of which `Course.of_raised` and
  its like say what to expect of
* `CallSection.Announced` — the section of an accepted call
* `CallSection.Checked` — what the checks of an announcement lead to, one case for each of them
* `CallSection.announce_enlists`, `CallSection.announce_ends` — every accepted call has such a
  section, and has put it on the agenda

## Design Notes

The checks of an announcement come in a fixed order.  `CallSection.announce_checked` goes through
them once, and whatever is said of announcements follows the cases of `CallSection.Checked`.  What
the checks compute is independent of the machine, so the courses speak of the world and the
incarnations at the announcement alone.
-/

namespace ExecutionTrace

/-- Of the declared exceptions, that of running out of gas alone is raised. -/
def ExceptionFlags.outOfGasAlone (e : ExceptionFlags) : Bool :=
  e.hasOutOfGas && !e.hasStackException && !e.hasStaticFault && !e.hasMemoryExpansion

/-- An exception that is found before anything is known about memory and gas. -/
def Invocation.RaisesEarly (i : Invocation) : Prop :=
  i.exceptions.hasStackException = true ∨ i.exceptions.hasStaticFault = true

instance (i : Invocation) : Decidable i.RaisesEarly :=
  inferInstanceAs (Decidable (_ ∨ _))

theorem Invocation.RaisesEarly.any {i : Invocation} (early : i.RaisesEarly) :
    i.exceptions.any = true := by
  rcases early with stack | static
  · rcases Bool.or_eq_true_iff.1 stack with found | found
    all_goals exact ExceptionFlags.any_of_meets found
  · exact ExceptionFlags.any_of_meets static

/-- **A reason to refuse a call**: no section is missed, and the call has contradicted itself,
unless it announces undeclared exceptions. -/
structure Invocation.Refusal (i : Invocation) (v : Violation) : Prop where
  found : ¬v.MissesSection
  contradicted : i.exceptions.Declared → ¬v.IsDisagreement

theorem Invocation.Refusal.of_not {i : Invocation} {v : Violation} (plain : ¬v.IsDisagreement) :
    i.Refusal v :=
  ⟨fun misses => plain misses.isDisagreement, fun _ => plain⟩

/-! ## Where a call goes -/

namespace Destination

variable {chain : Chain} {world : WorldState} {callee : Address}

theorem at?_of_eq_precompile {target : Precompile}
    (destination : Destination.of chain world callee = .precompile target) :
    Precompile.at? chain callee = some target := by
  unfold Destination.of at destination
  split at destination
  · rename_i found
    rw [found]
    exact congrArg some (Destination.precompile.inj destination)
  · split at destination <;> cases destination

theorem of_eq_precompile {target : Precompile}
    (destination : Destination.of chain world callee = .precompile target) :
    callee.isPrecompile chain = true := by
  rw [Address.isPrecompile, at?_of_eq_precompile destination]
  rfl

theorem of_eq_contract (destination : Destination.of chain world callee = .contract) :
    callee.isPrecompile chain = false ∧ world.hasCode callee = true := by
  unfold Destination.of at destination
  split at destination
  · cases destination
  · rename_i none
    split at destination
    · rename_i code
      exact ⟨by rw [Address.isPrecompile, none]; rfl, code⟩
    · cases destination

theorem of_eq_external (destination : Destination.of chain world callee = .external) :
    callee.isPrecompile chain = false ∧ world.hasCode callee = false := by
  unfold Destination.of at destination
  split at destination
  · cases destination
  · rename_i none
    split at destination
    · cases destination
    · rename_i empty
      exact ⟨by rw [Address.isPrecompile, none]; rfl, Bool.eq_false_iff.2 empty⟩

end Destination

/-! ## Account rows -/

theorem filterMap_account?_map (rows : List AccountRow) :
    (rows.map Row.account).filterMap Row.account? = rows := by
  simp [List.filterMap_map, Function.comp_def, Row.account?]

/-- The account rows of a trace. -/
def Trace.accountRows (t : Trace) : List AccountRow :=
  t.rows.filterMap Row.account?

@[simp]
theorem Trace.accountRows_append (t : Trace) (rows : List Row) :
    (t.append rows).accountRows = t.accountRows ++ rows.filterMap Row.account? :=
  List.filterMap_append ..

namespace CallSection

/-- The account rows of a section, in the order in which they were produced. -/
def accountRows (c : CallSection) : List AccountRow :=
  c.body.filterMap Row.account?

@[simp]
theorem accountRows_append (c : CallSection) (rows : List AccountRow) :
    (c.append (rows.map .account)).accountRows = c.accountRows ++ rows := by
  rw [accountRows, (c.append_shows _).2.2.2, List.filterMap_append, filterMap_account?_map]
  rfl

@[simp]
theorem accountRows_push (c : CallSection) (w : Word) :
    (c.push w).accountRows = c.accountRows := by
  simp [accountRows]

@[simp]
theorem accountRows_withScenario (c : CallSection) (target : Scenario) :
    (c.withScenario target).accountRows = c.accountRows := by
  simp [accountRows]

/-- No row before the fifth is about an account. -/
theorem trace_accountRows (c : CallSection) : c.trace.accountRows = c.accountRows := by
  have rows : c.trace.rows = c.prequel ++ c.body := c.rows_eq
  rw [Trace.accountRows, rows, List.filterMap_append, prequel_eq]
  rfl

/-- A precompile that has run shows no account. -/
theorem filterMap_account?_run (run? : Option PrecompileRun) :
    ((run?.map PrecompileRun.rows).getD []).filterMap Row.account? = [] := by
  cases run? with
  | none => rfl
  | some run =>
      show run.rows.filterMap Row.account? = []
      unfold PrecompileRun.rows
      split
      · rfl
      · split <;> rfl

/-- **What becomes of an accepted call**, by what the announcement says about it. -/
inductive Course (chain : Chain) (world : WorldState) (before : Parties) (child : Nat)
    (i : Invocation) (c : CallSection) : Prop
  /-- An exceptional call shows its parties if nothing but gas is wrong. -/
  | exceptional (raised : i.exceptions.any = true) (scenario : c.scenario = .exception)
      (closing : c.closing? = none)
      (rows : c.accountRows = if i.exceptions.outOfGasAlone then
        c.forwardRows ⟨before.caller, before.caller⟩ ⟨before.callee, before.callee⟩ false else [])
  /-- An aborting call warms its callee. -/
  | aborting (quiet : i.exceptions.any = false) (aborts : i.aborts.any = true)
      (scenario : c.scenario = .abortWontRevert)
      (after : c.after? = some { before with callee := before.callee.warmedUp })
      (closing : c.closing? = some (.emptyReturnData c.shared.context))
      (rows : c.accountRows = c.forwardRows ⟨before.caller, before.caller⟩
        ⟨before.callee, before.callee.warmedUp⟩ false)
  /-- A call to an account without code. -/
  | external (quiet : i.exceptions.any = false) (proceeds : i.aborts.any = false)
      (destination : Destination.of chain world c.callee = .external)
      (scenario : c.scenario = .externalUndefined) (after : c.after? = none)
      (closing : c.closing? = some (.emptyReturnData c.shared.context)) (rows : c.accountRows = [])
  /-- A call to a precompile. -/
  | precompile (target : Precompile) (quiet : i.exceptions.any = false)
      (proceeds : i.aborts.any = false)
      (destination : Destination.of chain world c.callee = .precompile target)
      (scenario : c.scenario = .precompileUndefined) (after : c.after? = none)
      (closing : c.closing? = none) (rows : c.accountRows = [])
      (run : c.run? = PrecompileRun.start? target i.callData c.returnSpan)
  /-- A call to a contract. -/
  | contract (quiet : i.exceptions.any = false) (proceeds : i.aborts.any = false)
      (destination : Destination.of chain world c.callee = .contract)
      (scenario : c.scenario = .contractUndefined) (after : c.after? = none)
      (closing : c.closing? = some (.initializeChild child)) (rows : c.accountRows = [])

namespace Course

variable {chain : Chain} {world : WorldState} {before : Parties} {child : Nat} {i : Invocation}
  {c : CallSection}

/-- The course of an exceptional call. -/
theorem of_raised (course : Course chain world before child i c)
    (raised : i.exceptions.any = true) :
    c.scenario = .exception ∧ c.closing? = none ∧
      c.accountRows = if i.exceptions.outOfGasAlone then
        c.forwardRows ⟨before.caller, before.caller⟩ ⟨before.callee, before.callee⟩ false
      else [] := by
  cases course with
  | exceptional _ scenario closing rows => exact ⟨scenario, closing, rows⟩
  | aborting quiet => simp [raised] at quiet
  | external quiet => simp [raised] at quiet
  | precompile _ quiet => simp [raised] at quiet
  | contract quiet => simp [raised] at quiet

/-- The course of a call that aborts. -/
theorem of_aborts (course : Course chain world before child i c)
    (quiet : i.exceptions.any = false) (aborts : i.aborts.any = true) :
    c.scenario = .abortWontRevert ∧
      c.after? = some { before with callee := before.callee.warmedUp } ∧
      c.closing? = some (.emptyReturnData c.shared.context) ∧
      c.accountRows = c.forwardRows ⟨before.caller, before.caller⟩
        ⟨before.callee, before.callee.warmedUp⟩ false := by
  cases course with
  | aborting _ _ scenario after closing rows => exact ⟨scenario, after, closing, rows⟩
  | exceptional raised => simp [quiet] at raised
  | external _ proceeds => simp [aborts] at proceeds
  | precompile _ _ proceeds => simp [aborts] at proceeds
  | contract _ proceeds => simp [aborts] at proceeds

/-- A call that neither fails nor aborts is decided by its callee. -/
theorem scenario_of_proceeds (course : Course chain world before child i c)
    (quiet : i.exceptions.any = false) (proceeds : i.aborts.any = false) :
    c.scenario = .externalUndefined ∨ c.scenario = .precompileUndefined ∨
      c.scenario = .contractUndefined := by
  cases course with
  | exceptional raised => simp [quiet] at raised
  | aborting _ aborts => simp [proceeds] at aborts
  | external _ _ _ scenario => exact .inl scenario
  | precompile _ _ _ _ scenario => exact .inr (.inl scenario)
  | contract _ _ _ scenario => exact .inr (.inr scenario)

/-- The course of a call to an account without code. -/
theorem of_external (course : Course chain world before child i c)
    (scenario : c.scenario = .externalUndefined) :
    Destination.of chain world c.callee = .external ∧ c.after? = none ∧
      c.closing? = some (.emptyReturnData c.shared.context) ∧ c.accountRows = [] := by
  cases course with
  | external _ _ destination _ after closing rows => exact ⟨destination, after, closing, rows⟩
  | exceptional _ other => simp [scenario] at other
  | aborting _ _ other => simp [scenario] at other
  | precompile _ _ _ _ other => simp [scenario] at other
  | contract _ _ _ other => simp [scenario] at other

/-- The course of a call to a precompile. -/
theorem of_precompile (course : Course chain world before child i c)
    (scenario : c.scenario = .precompileUndefined) :
    ∃ target, Destination.of chain world c.callee = .precompile target ∧ c.after? = none ∧
      c.closing? = none ∧ c.accountRows = [] ∧
      c.run? = PrecompileRun.start? target i.callData c.returnSpan := by
  cases course with
  | precompile target _ _ destination _ after closing rows run =>
      exact ⟨target, destination, after, closing, rows, run⟩
  | exceptional _ other => simp [scenario] at other
  | aborting _ _ other => simp [scenario] at other
  | external _ _ _ other => simp [scenario] at other
  | contract _ _ _ other => simp [scenario] at other

/-- The course of a call to a contract. -/
theorem of_contract (course : Course chain world before child i c)
    (scenario : c.scenario = .contractUndefined) :
    Destination.of chain world c.callee = .contract ∧ c.after? = none ∧
      c.closing? = some (.initializeChild child) ∧ c.accountRows = [] := by
  cases course with
  | contract _ _ destination _ after closing rows => exact ⟨destination, after, closing, rows⟩
  | exceptional _ other => simp [scenario] at other
  | aborting _ _ other => simp [scenario] at other
  | external _ _ _ other => simp [scenario] at other
  | precompile _ _ _ _ other => simp [scenario] at other

end Course

/-- What an unexceptional call has read off the stack and the world. -/
structure Parsed (world : WorldState) (depth : Nat) (before : Parties) (i : Invocation)
    (c : CallSection) : Prop where
  callee : i.callee = .ok c.callee
  value : i.value = .ok c.value
  returnSpan : i.returnSpan = .ok c.returnSpan
  before : c.before? = some before
  /-- A call that does not abort can be paid for. -/
  payable : i.aborts.any = false → c.kind.movesValue = true →
    c.value.toNat ≤ (world.balance c.caller).toNat
  /-- A call that does not abort has room for another context. -/
  shallow : i.aborts.any = false → depth < maxCallDepth

/-- **The section of an accepted call.** -/
structure Announced (chain : Chain) (setting : Setting) (world : WorldState) (frame : Frame)
    (i : Invocation) (c : CallSection) : Prop where
  stamp : c.shared.stamp = setting.stamp
  context : c.shared.context = frame.id
  kind : c.kind = i.kind
  stack : c.stack = i.stack
  caller : c.caller = frame.entry.address
  pushed : c.pushed? = none
  childExit : c.childExit? = none
  reEntry : c.reEntry? = none
  rolledBack : c.rolledBack? = none
  /-- The fourth row calls no precompile. -/
  misc : c.misc.precompile? = none
  /-- All rows after the fourth are about accounts. -/
  body : c.body = c.accountRows.map .account
  parsed : i.exceptions.any = false →
    Parsed world frame.depth (.canonical chain world setting.incarnations c.caller c.callee) i c
  course : Course chain world (.canonical chain world setting.incarnations c.caller c.callee)
    setting.contexts.nextId i c

variable {chain : Chain} {setting : Setting} {world : WorldState} {frame : Frame} {i : Invocation}
  {c : CallSection}

/-! ## Sections in the making -/

/-- A section about which nothing has been decided yet. -/
structure Fresh (setting : Setting) (frame : Frame) (i : Invocation) (c : CallSection) : Prop where
  shared : c.shared = { stamp := setting.stamp, context := frame.id }
  kind : c.kind = i.kind
  stack : c.stack = i.stack
  caller : c.caller = frame.entry.address
  scenario : c.scenario = if i.exceptions.any then .exception else .undefined
  misc : c.misc.precompile? = none
  body : c.body = []
  pushed : c.pushed? = none
  closing : c.closing? = none
  after : c.after? = none
  childExit : c.childExit? = none
  reEntry : c.reEntry? = none
  rolledBack : c.rolledBack? = none

theorem Fresh.blank (setting : Setting) (frame : Frame) (i : Invocation) {misc : MiscRow}
    (bare : misc.precompile? = none) :
    Fresh setting frame i (blank setting.stamp frame i misc) :=
  ⟨rfl, rfl, rfl, rfl, rfl, bare, rfl, rfl, rfl, rfl, rfl, rfl, rfl⟩

/-- What every course of a call keeps of a fresh section. -/
structure Continues (c c' : CallSection) : Prop where
  stamp : c'.shared.stamp = c.shared.stamp
  context : c'.shared.context = c.shared.context
  kind : c'.kind = c.kind
  stack : c'.stack = c.stack
  caller : c'.caller = c.caller
  pushed : c'.pushed? = c.pushed?
  childExit : c'.childExit? = c.childExit?
  reEntry : c'.reEntry? = c.reEntry?
  rolledBack : c'.rolledBack? = c.rolledBack?
  misc : c'.misc.precompile? = c.misc.precompile?

namespace Continues

variable {c' c'' : CallSection}

theorem refl (c : CallSection) : Continues c c :=
  ⟨rfl, rfl, rfl, rfl, rfl, rfl, rfl, rfl, rfl, rfl⟩

theorem withScenario (c : CallSection) (target : Scenario) :
    Continues c (c.withScenario target) :=
  ⟨rfl, rfl, rfl, by simp, rfl, by simp, rfl, rfl, rfl, by simp⟩

theorem append (continues : Continues c c') (appended : List Row) :
    Continues c (c'.append appended) :=
  { continues with
    stack := by simpa using continues.stack
    pushed := by simpa using continues.pushed
    misc := by simpa using continues.misc }

/-- Everything else may change. -/
theorem congr (continues : Continues c c') (rows : c''.rows = c'.rows)
    (shared : c''.shared.stamp = c'.shared.stamp ∧ c''.shared.context = c'.shared.context)
    (same : c''.kind = c'.kind ∧ c''.caller = c'.caller ∧ c''.childExit? = c'.childExit? ∧
      c''.reEntry? = c'.reEntry? ∧ c''.rolledBack? = c'.rolledBack?) : Continues c c'' := by
  obtain ⟨kind, caller, childExit, reEntry, rolledBack⟩ := same
  have row : c''.stackRow = c'.stackRow := by
    unfold stackRow
    rw [rows, kind]
  have misc : c''.misc = c'.misc := by
    unfold CallSection.misc
    rw [rows]
  exact
    { stamp := shared.1.trans continues.stamp
      context := shared.2.trans continues.context
      kind := kind.trans continues.kind
      stack := (congrArg StackRow.items row).trans continues.stack
      caller := caller.trans continues.caller
      pushed := (congrArg StackRow.pushed? row).trans continues.pushed
      childExit := childExit.trans continues.childExit
      reEntry := reEntry.trans continues.reEntry
      rolledBack := rolledBack.trans continues.rolledBack
      misc := (congrArg MiscRow.precompile? misc).trans continues.misc }

end Continues

theorem Fresh.announced (fresh : Fresh setting frame i c) {c' : CallSection}
    (continues : Continues c c') (shown : List AccountRow)
    (body : c'.body = c.body ++ shown.map .account)
    (parsed : i.exceptions.any = false →
      Parsed world frame.depth (.canonical chain world setting.incarnations c'.caller c'.callee) i
        c')
    (course : Course chain world (.canonical chain world setting.incarnations c'.caller c'.callee)
      setting.contexts.nextId i c') :
    Announced chain setting world frame i c' where
  stamp := by rw [continues.stamp, fresh.shared]
  context := by rw [continues.context, fresh.shared]
  kind := continues.kind.trans fresh.kind
  stack := continues.stack.trans fresh.stack
  caller := continues.caller.trans fresh.caller
  pushed := continues.pushed.trans fresh.pushed
  childExit := continues.childExit.trans fresh.childExit
  reEntry := continues.reEntry.trans fresh.reEntry
  rolledBack := continues.rolledBack.trans fresh.rolledBack
  misc := continues.misc.trans fresh.misc
  body := by
    rw [accountRows, body, fresh.body, List.nil_append, List.filterMap_map]
    exact congrArg (List.map Row.account) (List.filterMap_some).symm
  parsed := parsed
  course := course

/-- A fresh section takes its first step exactly if the call is unexceptional. -/
theorem Fresh.advance_grants (fresh : Fresh setting frame i c) {target : Scenario}
    (first : Scenario.undefined.refines target = true)
    (unflagged : i.exceptions.Declared → i.exceptions.any = false) :
    Grants (c.advance target)
      (fun c' => i.exceptions.any = false ∧ c' = c.withScenario target) i.Refusal := by
  unfold advance
  rw [fresh.scenario]
  cases raised : i.exceptions.any with
  | true =>
      have stuck : Scenario.exception.refines target = false := rfl
      rw [if_pos rfl, stuck]
      exact ⟨fun misses => misses, fun declared => absurd (unflagged declared) (by simp [raised])⟩
  | false =>
      rw [if_neg Bool.false_ne_true, if_pos first]
      exact ⟨rfl, rfl⟩

/-! ## Unexceptional calls -/

/-- A call that has passed the checks for exceptions, and whose stack has been read. -/
structure Admitted (world : WorldState) (depth : Nat) (i : Invocation) (c : CallSection) :
    Prop where
  callee : i.callee = .ok c.callee
  value : i.value = .ok c.value
  returnSpan : i.returnSpan = .ok c.returnSpan
  payable : i.aborts.any = false → c.kind.movesValue = true →
    c.value.toNat ≤ (world.balance c.caller).toNat
  shallow : i.aborts.any = false → depth < maxCallDepth

theorem Admitted.parsed {depth : Nat} (admitted : Admitted world depth i c) {before : Parties}
    {c' : CallSection}
    (same : c'.callee = c.callee ∧ c'.value = c.value ∧ c'.returnSpan = c.returnSpan ∧
      c'.kind = c.kind ∧ c'.caller = c.caller)
    (latched : c'.before? = some before) : Parsed world depth before i c' := by
  obtain ⟨callee, value, returnSpan, kind, caller⟩ := same
  refine ⟨?_, ?_, ?_, latched, ?_, admitted.shallow⟩
  · rw [callee]
    exact admitted.callee
  · rw [value]
    exact admitted.value
  · rw [returnSpan]
    exact admitted.returnSpan
  · rw [value, kind, caller]
    exact admitted.payable

/-- The stipend is handed back once. -/
theorem collectStipend_eq (uncollected : c.shared.stipend? = none) (stipend : UInt64) :
    c.collectStipend stipend =
      .ok (c.withShared { c.shared with stipend? := some stipend } rfl) := by
  have collects : c.shared.collectStipend stipend =
      .ok { c.shared with stipend? := some stipend } := by
    rw [SharedValues.collectStipend, uncollected]
    rfl
  unfold collectStipend
  split
  · rename_i shared collected
    obtain rfl := Except.ok.inj (collects.symm.trans collected)
    rfl
  · rename_i refused
    cases collects.symm.trans refused

/-- **An unexceptional call goes where it is sent.** -/
theorem Fresh.dispatch_grants (fresh : Fresh setting frame i c)
    (admitted : Admitted world frame.depth i c)
    (unflagged : i.exceptions.Declared → i.exceptions.any = false) {before : Parties}
    (latched : before = .canonical chain world setting.incarnations c.caller c.callee) :
    Grants
      (c.dispatch (if i.aborts.any then .nowhere else Destination.of chain world c.callee) before
        setting.contexts.nextId i)
      (fun c' => Announced chain setting world frame i { c' with before? := some before })
      i.Refusal := by
  have uncollected : c.shared.stipend? = none := by rw [fresh.shared]
  have bodiless : ∀ target, (c.withScenario target).body = c.body ++ List.map Row.account [] := by
    simp
  have noRows : ∀ target, (c.withScenario target).accountRows = [] := by
    simp [accountRows, fresh.body]
  have parsed : i.exceptions.any = false →
      Parsed world frame.depth (.canonical chain world setting.incarnations c.caller c.callee) i
        { c with before? := some before } := fun _ =>
    admitted.parsed ⟨rfl, rfl, rfl, rfl, rfl⟩ (congrArg some latched)
  -- One case for each destination; an abort is the only one that shows accounts at once.
  cases aborts : i.aborts.any with
  | true =>
      rw [if_pos rfl]
      refine Grants.bind (fresh.advance_grants rfl unflagged) ?_
      rintro _ ⟨quiet, rfl⟩
      refine Grants.of_ok (collectStipend_eq ?_ _) ?_
      · exact uncollected
      have continues := (Continues.withScenario c .abortWontRevert).append
        ((c.forwardRows ⟨before.caller, before.caller⟩
          ⟨before.callee, before.callee.warmedUp⟩ false).map .account)
      have body := ((c.withScenario .abortWontRevert).append_shows
        ((c.forwardRows ⟨before.caller, before.caller⟩
          ⟨before.callee, before.callee.warmedUp⟩ false).map .account)).2.2.2
      rw [bodiless, List.map_nil, List.append_nil] at body
      have rows := accountRows_append (c.withScenario .abortWontRevert)
        (c.forwardRows ⟨before.caller, before.caller⟩
          ⟨before.callee, before.callee.warmedUp⟩ false)
      rw [noRows, List.nil_append, latched] at rows
      refine fresh.announced (continues.congr rfl ⟨rfl, rfl⟩ ⟨rfl, rfl, rfl, rfl, rfl⟩) _ body
        (fun quiet => { parsed quiet with }) ?_
      subst latched
      exact .aborting quiet aborts rfl rfl rfl rows
  | false =>
      rw [if_neg Bool.false_ne_true]
      cases destination : Destination.of chain world c.callee with
      | nowhere =>
          unfold Destination.of at destination
          split at destination
          · cases destination
          · split at destination <;> cases destination
      | precompile target =>
          refine Grants.bind (fresh.advance_grants rfl unflagged) ?_
          rintro _ ⟨quiet, rfl⟩
          have continues := Continues.withScenario c .precompileUndefined
          refine fresh.announced (continues.congr rfl ⟨rfl, rfl⟩ ⟨rfl, rfl, rfl, rfl, rfl⟩) []
            (bodiless .precompileUndefined) (fun quiet => { parsed quiet with }) ?_
          exact .precompile target quiet aborts destination rfl fresh.after fresh.closing
            (noRows .precompileUndefined) rfl
      | contract =>
          refine Grants.bind (fresh.advance_grants rfl unflagged) ?_
          rintro _ ⟨quiet, rfl⟩
          have continues := Continues.withScenario c .contractUndefined
          refine fresh.announced (continues.congr rfl ⟨rfl, rfl⟩ ⟨rfl, rfl, rfl, rfl, rfl⟩) []
            (bodiless .contractUndefined) (fun quiet => { parsed quiet with }) ?_
          exact .contract quiet aborts destination rfl fresh.after rfl (noRows .contractUndefined)
      | external =>
          refine Grants.bind (fresh.advance_grants rfl unflagged) ?_
          rintro _ ⟨quiet, rfl⟩
          refine Grants.bind_ok (collectStipend_eq ?_ _) ?_
          · exact uncollected
          have continues := Continues.withScenario c .externalUndefined
          refine fresh.announced (continues.congr rfl ⟨rfl, rfl⟩ ⟨rfl, rfl, rfl, rfl, rfl⟩) []
            (bodiless .externalUndefined) (fun quiet => { parsed quiet with }) ?_
          exact .external quiet aborts destination rfl fresh.after rfl (noRows .externalUndefined)

/-! ## The checks -/

/-- Reading the stack fails in one way only. -/
theorem item_grants (slot : Slot) :
    Grants (i.item slot) (fun w => i.item slot = .ok w) i.Refusal := by
  cases found : i.item slot with
  | ok w => rfl
  | error v =>
      unfold Invocation.item at found
      split at found
      · cases found
      · cases found
        exact .of_not fun h => h

theorem value_grants : Grants i.value (fun w => i.value = .ok w) i.Refusal := by
  unfold Invocation.value
  split
  · exact item_grants .value
  · rfl

theorem span_grants (offset length : Slot) :
    Grants (do return Span.ofWords (← i.item offset) (← i.item length))
      (fun _ => True) i.Refusal := by
  refine Grants.bind (item_grants offset) fun _ _ => ?_
  exact Grants.bind (item_grants length) fun _ _ => trivial

theorem returnSpan_grants :
    Grants i.returnSpan (fun span => i.returnSpan = .ok span) i.Refusal :=
  .of_eq (fun _ read => read) fun _ failed =>
    (span_grants .returnOffset .returnLength).error failed

/-- A call that does not abort can be paid for. -/
theorem payable_of_abortsAt {kind : CallKind} {value balance : Word} {depth : Nat}
    (proceeds : abortsAt kind value balance depth = false) (moves : kind.movesValue = true) :
    value.toNat ≤ balance.toNat := by
  cases kind with
  | call =>
      simp only [abortsAt, CallKind.takesValue, Bool.true_and, Bool.or_eq_false_iff,
        decide_eq_false_iff_not] at proceeds
      omega
  | callCode => exact absurd moves Bool.false_ne_true
  | delegateCall => exact absurd moves Bool.false_ne_true
  | staticCall => exact absurd moves Bool.false_ne_true

/-- A call that does not abort has room for another context. -/
theorem shallow_of_abortsAt {kind : CallKind} {value balance : Word} {depth : Nat}
    (proceeds : abortsAt kind value balance depth = false) : depth < maxCallDepth := by
  have room := (Bool.or_eq_false_iff.1 proceeds).2
  exact Nat.lt_of_not_le (of_decide_eq_false room)

/-- **What the construction of a section leads to.** A section that is announced has put itself on
the agenda, for the events that it waits for; a refusal leaves nothing behind. -/
def Enlists (chain : Chain) (id : Nat) (world : WorldState) (frame : Frame) (i : Invocation)
    (desk : Desk) (r : EStateM.Result Violation Desk CallSection) : Prop :=
  Ends r
    (fun c desk' => Announced chain desk.toSetting world frame i c ∧
      desk' = { desk with agenda := desk.agenda.scheduleAll (c.awaited desk.contexts.nextId) id })
    fun v desk' => i.Refusal v ∧ desk' = desk

variable {id : Nat} {desk : Desk} {raw : Word} {misc : MiscRow}

theorem announceUnexceptional_enlists (bare : misc.precompile? = none)
    (found : i.rawCallee = .ok raw) (unflagged : i.exceptions.Declared → i.exceptions.any = false) :
    Enlists chain id world frame i desk
      (announceUnexceptional chain id world frame raw
        (.canonical chain world desk.incarnations frame.entry.address raw.toAddress) misc i
        desk) := by
  have callee : i.callee = .ok raw.toAddress := by
    unfold Invocation.callee
    rw [found]
    rfl
  have refused : ∀ v, i.Refusal v → i.Refusal v ∧ desk = desk := fun _ refusal => ⟨refusal, rfl⟩
  unfold Enlists announceUnexceptional
  refine Ends.get_bind ?_
  refine Ends.ofExcept_bind (value_grants.mono (fun _ h => h) refused) fun value hvalue => ?_
  refine Ends.ofExcept_bind ((span_grants .dataOffset .dataLength).mono (fun _ h => h) refused)
    fun _ _ => ?_
  refine Ends.ofExcept_bind (returnSpan_grants.mono (fun _ h => h) refused) fun span hspan => ?_
  have balance :
      (Parties.canonical chain world desk.incarnations frame.entry.address
        raw.toAddress).caller.balance = world.balance frame.entry.address :=
    Snapshot.balance_canonical ..
  dsimp only
  rw [balance]
  split
  · exact ⟨.of_not fun h => h, rfl⟩
  rename_i agree
  have agree : abortsAt i.kind value (world.balance frame.entry.address) frame.depth =
      i.aborts.any := by
    simpa using agree
  rw [agree]
  refine Ends.ofExcept_bind ((Fresh.dispatch_grants ?_ ?_ unflagged rfl).mono (fun _ h => h)
    refused) fun c announced => ⟨announced, rfl⟩
  · exact { Fresh.blank desk.toSetting frame i bare with }
  · refine ⟨callee, hvalue, hspan, fun proceeds => ?_, fun proceeds => ?_⟩
    · exact payable_of_abortsAt (agree.trans proceeds)
    · exact shallow_of_abortsAt (agree.trans proceeds)

/-! ## The cascade -/

/-- **What the checks of an announcement lead to**, one case for each.  A call that passes all of
them is announced as an unexceptional one. -/
inductive Checked (chain : Chain) (id : Nat) (world : WorldState) (frame : Frame)
    (i : Invocation) (desk : Desk) : EStateM.Result Violation Desk CallSection → Prop
  /-- The stack or the context is at fault. -/
  | early (raised : i.RaisesEarly) :
      Checked chain id world frame i desk (.ok (blank desk.stamp frame i (blankMisc i)) desk)
  /-- Otherwise, the verdict on memory is not the announced one. -/
  | memoryConflict (later : ¬i.RaisesEarly)
      (conflict : i.memory.exceeded ≠ i.exceptions.hasMemoryExpansion) :
      Checked chain id world frame i desk
        (.error (.conflictingPrediction .memoryExpansion desk.stamp) desk)
  /-- Otherwise, memory would have to grow too far. -/
  | memory (later : ¬i.RaisesEarly) (agrees : i.memory.exceeded = i.exceptions.hasMemoryExpansion)
      (raised : i.exceptions.hasMemoryExpansion = true) :
      Checked chain id world frame i desk
        (.ok (blank desk.stamp frame i { blankMisc i with memory? := some i.memory }) desk)
  /-- Otherwise, the verdict on gas is not the announced one. -/
  | gasConflict (later : ¬i.RaisesEarly) (fits : i.exceptions.hasMemoryExpansion = false)
      (conflict : i.gas.outOfGas ≠ i.exceptions.hasOutOfGas) :
      Checked chain id world frame i desk
        (.error (.conflictingPrediction .outOfGas desk.stamp) desk)
  /-- Otherwise, there is no callee on the stack. -/
  | short {v : Violation} (later : ¬i.RaisesEarly)
      (fits : i.exceptions.hasMemoryExpansion = false) (missing : i.rawCallee = .error v) :
      Checked chain id world frame i desk (.error v desk)
  /-- Otherwise, the gas does not suffice, and the parties are shown. -/
  | gas {raw : Word} {c : CallSection} {before : Parties} (later : ¬i.RaisesEarly)
      (memory : i.memory.exceeded = i.exceptions.hasMemoryExpansion)
      (fits : i.exceptions.hasMemoryExpansion = false)
      (agrees : i.gas.outOfGas = i.exceptions.hasOutOfGas)
      (raised : i.exceptions.hasOutOfGas = true) (found : i.rawCallee = .ok raw)
      (known : c =
        { blank desk.stamp frame i
            { blankMisc i with memory? := some i.memory, gas? := some i.gas } with
          rawCallee := raw
          callee := raw.toAddress })
      (latched : before = .canonical chain world desk.incarnations c.caller c.callee) :
      Checked chain id world frame i desk (.ok
        { c.append ((c.forwardRows ⟨before.caller, before.caller⟩
            ⟨before.callee, before.callee⟩ false).map .account) with before? := some before } desk)
  /-- Otherwise, nothing is wrong that an exception is declared for. -/
  | passed {raw : Word} (later : ¬i.RaisesEarly)
      (memory : i.memory.exceeded = i.exceptions.hasMemoryExpansion)
      (fits : i.exceptions.hasMemoryExpansion = false)
      (agrees : i.gas.outOfGas = i.exceptions.hasOutOfGas)
      (affordable : i.exceptions.hasOutOfGas = false) (found : i.rawCallee = .ok raw) :
      Checked chain id world frame i desk
        (announceUnexceptional chain id world frame raw
          (.canonical chain world desk.incarnations frame.entry.address raw.toAddress)
          { blankMisc i with memory? := some i.memory, gas? := some i.gas } i desk)

/-- **An announcement goes through its checks.** -/
theorem announce_checked (current : desk.contexts.currentFrame = .ok frame) :
    Checked chain id world frame i desk (announce chain id world i desk) := by
  unfold announce
  rw [get_bind_eq, ofExcept_bind_eq current]
  split
  · rename_i found
    exact .early (Bool.or_eq_true_iff.1 found)
  rename_i later
  have later : ¬i.RaisesEarly := fun early => later (Bool.or_eq_true_iff.2 early)
  dsimp only
  split
  · rename_i conflict
    exact .memoryConflict later (by simpa using conflict)
  rename_i memory
  have memory : i.memory.exceeded = i.exceptions.hasMemoryExpansion := by simpa using memory
  split
  · rename_i exceeded
    exact .memory later memory (memory ▸ exceeded)
  rename_i enough
  have fits : i.exceptions.hasMemoryExpansion = false := memory ▸ Bool.eq_false_iff.2 enough
  split
  · rename_i conflict
    exact .gasConflict later fits (by simpa using conflict)
  rename_i gas
  have gas : i.gas.outOfGas = i.exceptions.hasOutOfGas := by simpa using gas
  cases found : i.rawCallee with
  | error v => exact .short later fits found
  | ok raw =>
      rw [ofExcept_bind_eq rfl]
      split
      · rename_i raised
        exact .gas later memory fits gas raised found rfl rfl
      · rename_i affordable
        exact .passed later memory fits gas (Bool.eq_false_iff.2 affordable) found

/-- A section without rows of an exceptional call. -/
theorem Fresh.exceptional (fresh : Fresh setting frame i c) (raised : i.exceptions.any = true)
    (further : i.exceptions.outOfGasAlone = false) :
    Announced chain setting world frame i c := by
  refine fresh.announced (.refl c) [] (List.append_nil _).symm ?_ ?_
  · intro quiet
    rw [raised] at quiet
    cases quiet
  · refine .exceptional raised ?_ fresh.closing ?_
    · rw [fresh.scenario, if_pos raised]
    · rw [accountRows, fresh.body, further]
      rfl

/-- An exceptional call waits for nothing. -/
theorem Announced.awaited_of_raised (announced : Announced chain setting world frame i c)
    (raised : i.exceptions.any = true) (child : Nat) : c.awaited child = [] := by
  rw [awaited, (announced.course.of_raised raised).1]

/-- **What an announcement leads to.** An accepted call has a section that fits one of the five
courses; a refused one has contradicted itself, unless it announces undeclared exceptions. -/
theorem announce_enlists (current : desk.contexts.currentFrame = .ok frame) :
    Enlists chain id world frame i desk (announce chain id world i desk) := by
  have checked : Checked chain id world frame i desk (announce chain id world i desk) :=
    announce_checked current
  have unlisted : ∀ {c}, i.exceptions.any = true → Announced chain desk.toSetting world frame i c →
      Enlists chain id world frame i desk (.ok c desk) := fun raised announced =>
    ⟨announced, by rw [announced.awaited_of_raised raised]; rfl⟩
  generalize announce chain id world i desk = r at checked ⊢
  cases checked with
  | early raised =>
      refine unlisted raised.any <|
        (Fresh.blank desk.toSetting frame i rfl).exceptional raised.any ?_
      rw [ExceptionFlags.outOfGasAlone]
      rcases raised with found | found
      · simp [found]
      · simp [found]
  | memoryConflict => exact ⟨.of_not fun h => h, rfl⟩
  | memory _ _ raised =>
      have any := ExceptionFlags.any_of_meets raised
      refine unlisted any ((Fresh.blank desk.toSetting frame i rfl).exceptional any ?_)
      simp [ExceptionFlags.outOfGasAlone, raised]
  | gasConflict => exact ⟨.of_not fun h => h, rfl⟩
  | short _ _ missing => exact ⟨(item_grants .address).error missing, rfl⟩
  | @gas raw c before later _ fits _ exhausted found known latched =>
      have raised := ExceptionFlags.any_of_meets exhausted
      have fresh : Fresh desk.toSetting frame i c := by
        subst known
        exact { Fresh.blank desk.toSetting frame i rfl with }
      have continues := (Continues.refl c).append ((c.forwardRows ⟨before.caller, before.caller⟩
        ⟨before.callee, before.callee⟩ false).map .account)
      refine unlisted raised (fresh.announced
        (continues.congr rfl ⟨rfl, rfl⟩ ⟨rfl, rfl, rfl, rfl, rfl⟩) _ (c.append_shows _).2.2.2 ?_ ?_)
      · intro quiet
        rw [raised] at quiet
        cases quiet
      · refine .exceptional raised ?_ ?_ ?_
        · exact fresh.scenario.trans (if_pos raised)
        · exact fresh.closing
        · have alone : i.exceptions.outOfGasAlone = true := by
            obtain ⟨stack, static⟩ := not_or.1 later
            simp [ExceptionFlags.outOfGasAlone, exhausted, stack, static, fits]
          rw [if_pos alone]
          subst latched
          refine (accountRows_append c _).trans ?_
          rw [accountRows, fresh.body]
          rfl
  | passed later _ fits _ affordable found =>
      refine announceUnexceptional_enlists rfl found fun declared => ?_
      obtain ⟨stack, static⟩ := not_or.1 later
      rw [declared.any_iff]
      simp [stack, static, fits, affordable]

/-- **Whatever context is active, a call is announced as a whole or not at all.** -/
theorem announce_ends (chain : Chain) (id : Nat) (world : WorldState) (i : Invocation)
    (desk : Desk) :
    Ends (announce chain id world i desk)
      (fun c desk' => (∃ frame, Announced chain desk.toSetting world frame i c) ∧ desk' =
        { desk with agenda := desk.agenda.scheduleAll (c.awaited desk.contexts.nextId) id })
      fun v desk' => ¬v.MissesSection ∧ desk' = desk := by
  cases current : desk.contexts.currentFrame with
  | ok frame =>
      have enlists : Enlists chain id world frame i desk (announce chain id world i desk) :=
        announce_enlists current
      exact enlists.mono (fun c _ h => ⟨⟨frame, h.1⟩, h.2⟩) fun v _ h => ⟨h.1.found, h.2⟩
  | error v =>
      unfold announce
      refine Ends.get_bind ?_
      rw [current]
      exact ⟨desk.contexts.currentFrame_finds.error current, rfl⟩

end CallSection

end ExecutionTrace
