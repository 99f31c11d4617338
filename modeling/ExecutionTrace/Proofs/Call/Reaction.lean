import ExecutionTrace.Proofs.Call.Announcement
import ExecutionTrace.Proofs.State.Transition
import ExecutionTrace.Proofs.Tracer.Attunement

/-!
# What a call section makes of an event

Between its announcement and the end of its transaction a call is pending, then standing, and
possibly undone.  For each of these stages this file says what the section waits for, and what
each event that can reach it there turns it into.

## Main Definitions

* `CallSection.Pending`, `CallSection.Standing`, `CallSection.Undone`, `CallSection.Dismissed` —
  the stages of a call
* `CallSection.returned`, `CallSection.reverted`, `CallSection.closed` — the section after its
  return, after a rollback of its context and after the end of the transaction
* `CallSection.returnRows`, `CallSection.compensation` — the account rows that the first two add

## Design Notes

Reactions are computations that may fail half-way.  At the stage where an event can reach a
section none of them does, so each is pinned down here by one equation, and nothing else about
the order of its steps is ever needed.
-/

namespace ExecutionTrace

namespace CallSection

/-! ## The stages of a call -/

/-- **A call whose child context is active**, the child being known by its number. -/
structure Pending (child : Nat) (c : CallSection) : Prop where
  latched : c.before?.isSome
  rolledBack : c.rolledBack? = none
  course : (c.scenario = .externalUndefined ∧ c.closing?.isSome) ∨
    (c.scenario = .precompileUndefined ∧ c.after?.isSome) ∨
    (c.scenario = .contractUndefined ∧ c.after?.isSome ∧
      c.closing? = some (.initializeChild child))

/-- Everything that a rollback of the context relies on has been recorded. -/
def CanRevert (c : CallSection) : Prop :=
  match c.scenario with
  | .abortWontRevert | .contractSuccessWontRevert | .precompileSuccessWontRevert => c.after?.isSome
  | .externalSuccessWontRevert | .contractFailureWontRevert => c.reEntry?.isSome
  | .precompileFailure => True
  | _ => False

/-- **A call that is over**, and whose context has not been rolled back. -/
structure Standing (c : CallSection) : Prop where
  latched : c.before?.isSome
  pushed : c.pushed?.isSome
  closing : c.closing?.isSome
  rolledBack : c.rolledBack? = none
  canRevert : c.CanRevert

/-- **A call whose context has been rolled back.** -/
structure Undone (c : CallSection) : Prop where
  closing : c.closing?.isSome
  rolledBack : c.rolledBack?.isSome
  scenario : c.scenario.isWillRevert = true ∨ c.scenario = .precompileFailure

/-- **An exceptional call.** -/
structure Dismissed (c : CallSection) : Prop where
  closing : c.closing? = none
  scenario : c.scenario = .exception

/-- A call that waits for no return any more. -/
inductive Resolved (c : CallSection) : Prop
  | dismissed (h : c.Dismissed)
  | standing (h : c.Standing)
  | undone (h : c.Undone)

variable {c : CallSection}

theorem Dismissed.awaits_eq (h : c.Dismissed) : c.awaits = [] := by
  simp [awaits, isClosed, h.closing, h.scenario, Scenario.isUndefined]

/-- Until its last row is there, a section waits for the end of the transaction. -/
theorem awaits_of_closing (closing : c.closing?.isSome) : c.awaits =
    (if c.rolledBack?.isNone then [.rollback c.shared.context] else []) ++
      [.transactionClosed] ++ c.awaitsResolution := by
  have unclosed : c.isClosed = false := by
    rw [isClosed, Option.isNone_eq_false_iff.2 closing, Bool.false_and]
  rw [awaits, unclosed]
  rfl

theorem Standing.awaits_eq (h : c.Standing) :
    c.awaits = [.rollback c.shared.context, .transactionClosed] := by
  have isOver : c.awaitsResolution = [] := by
    have canRevert := h.canRevert
    have pushed := Option.isNone_eq_false_iff.2 h.pushed
    unfold CanRevert at canRevert
    unfold awaitsResolution
    cases scenario : c.scenario <;> simp [scenario, pushed] at canRevert ⊢
  rw [awaits_of_closing h.closing, isOver, h.rolledBack]
  rfl

theorem Undone.awaits_eq (h : c.Undone) : c.awaits = [.transactionClosed] := by
  have isOver : c.awaitsResolution = [] := by
    have scenario := h.scenario
    unfold awaitsResolution
    cases found : c.scenario <;> simp [found, Scenario.isWillRevert] at scenario ⊢
  rw [awaits_of_closing h.closing, isOver, Option.isNone_eq_false_iff.2 h.rolledBack]
  rfl

theorem Standing.isUndefined_eq (h : c.Standing) : c.scenario.isUndefined = false := by
  have canRevert := h.canRevert
  unfold CanRevert at canRevert
  cases scenario : c.scenario <;> simp [scenario, Scenario.isUndefined] at canRevert ⊢

theorem Undone.isUndefined_eq (h : c.Undone) : c.scenario.isUndefined = false := by
  have scenario := h.scenario
  cases found : c.scenario <;>
    simp [found, Scenario.isWillRevert, Scenario.isUndefined] at scenario ⊢

/-- A call that is over waits for no more than a rollback and the end of the transaction. -/
theorem Resolved.mem_awaits (h : c.Resolved) {e : Event} (waits : e ∈ c.awaits) :
    (c.Standing ∧ e = .rollback c.shared.context) ∨ e = .transactionClosed := by
  rcases h with h | h | h
  · rw [h.awaits_eq] at waits
    cases waits
  · rw [h.awaits_eq] at waits
    simp only [List.mem_cons, List.not_mem_nil, or_false] at waits
    exact waits.imp_left fun waits => ⟨h, waits⟩
  · rw [h.awaits_eq] at waits
    exact .inr (List.mem_singleton.1 waits)

/-- The call has nothing to do when its child context terminates, or has done so. -/
def hasLeft (c : CallSection) : Bool :=
  c.scenario != .contractUndefined || c.childExit?.isSome

/-- The events that lie between the entry of a child context and the return from it. -/
def returnEvents (child : Nat) (c : CallSection) : List Event :=
  if c.hasLeft then [.contextReEntry c.shared.context]
  else [.contextExit child, .contextReEntry c.shared.context]

theorem Pending.awaits_eq {child : Nat} (h : c.Pending child) :
    c.awaits = [.rollback c.shared.context, .transactionClosed] ++ c.returnEvents child := by
  have unclosed : c.isClosed = false := by
    rcases h.course with ⟨scenario, -⟩ | ⟨scenario, -⟩ | ⟨scenario, -⟩
    all_goals simp [isClosed, scenario, Scenario.isUndefined]
  unfold awaits
  rw [unclosed, h.rolledBack]
  unfold awaitsResolution returnEvents hasLeft
  rcases h.course with ⟨scenario, -⟩ | ⟨scenario, after⟩ | ⟨scenario, after, closing⟩
  · simp [scenario]
  · simp [scenario, Option.isNone_eq_false_iff.2 after]
  · cases exit : c.childExit? with
    | none => simp [scenario, Option.isNone_eq_false_iff.2 after, closing]
    | some parties => simp [scenario, Option.isNone_eq_false_iff.2 after]

/-- A pending call waits for what a call that is over waits for, and for the return from its
child. -/
theorem Pending.mem_awaits {child : Nat} {e : Event} (pending : c.Pending child)
    (waits : e ∈ c.awaits) : e = .rollback c.shared.context ∨ e = .transactionClosed ∨
      e = .contextReEntry c.shared.context ∨ e = .contextExit child := by
  rw [pending.awaits_eq, returnEvents] at waits
  split at waits
  · simp only [List.mem_append, List.mem_cons, List.not_mem_nil, or_false] at waits
    exact waits.elim (·.imp_right .inl) fun same => .inr (.inr (.inl same))
  · simp only [List.mem_append, List.mem_cons, List.not_mem_nil, or_false] at waits
    exact waits.elim (·.imp_right .inl) fun same => .inr (.inr same.symm)

/-! ## The child context -/

/-- **The account rows that the entry of the child context adds.** -/
def entryRows (c : CallSection) (before after : Parties) : List AccountRow :=
  match c.scenario with
  | .contractUndefined =>
      c.forwardRows ⟨before.caller, after.caller⟩ (c.calleeTransition before after) true
  | _ => []

/-- The section once its child context has been entered. -/
def entered (c : CallSection) (before after : Parties) : CallSection :=
  { c.append ((c.entryRows before after).map .account) with after? := some after }

theorem accountRows_entered (c : CallSection) (before after : Parties) :
    (c.entered before after).accountRows = c.accountRows ++ c.entryRows before after :=
  c.accountRows_append _

/-- What the entry of the child context changes of the rows. -/
theorem entered_shows (c : CallSection) (before after : Parties) :
    (c.entered before after).stack = c.stack ∧ (c.entered before after).pushed? = c.pushed? ∧
      (c.entered before after).misc = c.misc ∧
      (c.entered before after).body = c.body ++ (c.entryRows before after).map .account :=
  c.append_shows _

theorem enterChild_eq {before after : Parties}
    (scenario : c.scenario = .precompileUndefined ∨ c.scenario = .contractUndefined)
    (latched : c.before? = some before) (transferred : c.transfer before = .ok after) :
    c.enterChild = .ok (c.entered before after) := by
  unfold enterChild entered entryRows
  split
  · rename_i contract
    simp only [contract, latched, captured, transferred, pure, Except.pure, bind, Except.bind]
  · rename_i precompile
    simp only [precompile, latched, captured, transferred, pure, Except.pure, bind, Except.bind,
      List.map_nil, append_nil]
  · rename_i noContract noPrecompile
    exact (scenario.elim noPrecompile noContract).elim

/-- Entering a child context fails where the transfer does. -/
theorem enterChild_error {before : Parties} {v : Violation}
    (scenario : c.scenario = .precompileUndefined ∨ c.scenario = .contractUndefined)
    (latched : c.before? = some before) (refused : c.transfer before = .error v) :
    c.enterChild = .error v := by
  unfold enterChild
  split
  · simp only [latched, captured, refused, pure, Except.pure, bind, Except.bind]
  · simp only [latched, captured, refused, pure, Except.pure, bind, Except.bind]
  · rename_i noContract noPrecompile
    exact (scenario.elim noPrecompile noContract).elim

/-- The section once its child context is about to terminate. -/
def exited (c : CallSection) (parties : Parties) : CallSection :=
  { c with childExit? := some parties }

theorem Pending.exited {child : Nat} (h : c.Pending child) (parties : Parties) :
    (c.exited parties).Pending child :=
  ⟨h.latched, h.rolledBack, h.course⟩

theorem Pending.mem_awaits_exited {child : Nat} (h : c.Pending child)
    (waits : .contextExit child ∈ c.awaits) (parties : Parties) (e : Event) :
    e ∈ (c.exited parties).awaits ↔ e ∈ c.awaits ∧ e ≠ .contextExit child := by
  have left : (c.exited parties).hasLeft = true := by simp [hasLeft, CallSection.exited]
  rw [h.awaits_eq, returnEvents] at waits ⊢
  rw [(h.exited parties).awaits_eq, returnEvents, if_pos left]
  cases already : c.hasLeft with
  | true => simp [already] at waits
  | false =>
      refine Section.mem_iff_of_filter_ne ?_ e
      simp [CallSection.exited, CallSection.shared]

/-- A call that waits for the termination of a context is a call to a contract. -/
theorem scenario_of_contextExit_mem {child : Nat} (h : .contextExit child ∈ c.awaits) :
    c.scenario = .contractUndefined := by
  unfold awaits at h
  split at h
  · cases h
  · simp only [List.mem_append, List.mem_singleton, reduceCtorEq, or_false] at h
    rcases h with own | resolution
    · split at own <;> simp at own
    · unfold awaitsResolution at resolution
      cases scenario : c.scenario <;> simp only [scenario] at resolution
      all_goals first
        | rfl
        | (repeat' split at resolution) <;> simp at resolution

theorem exitChild_eq {chain : Chain} {setting : Setting} {world : WorldState} {child : Nat}
    (scenario : c.scenario = .contractUndefined) :
    exitChild chain setting world child c = .ok (c.exited
      (.canonical chain world setting.incarnations c.caller c.callee)) := by
  unfold exitChild
  split
  · rfl
  · rename_i other
    exact absurd scenario other

/-- **What a transfer makes of the parties.** -/
def Transferred (c : CallSection) (before after : Parties) : Prop :=
  if c.kind.movesValue then
    ∃ left sum, Word.checkedSub before.caller.balance c.value = some left ∧
      Word.checkedAdd before.callee.balance c.value = some sum ∧
      after = { caller := { before.caller with balance := left }
                callee := { before.callee.warmedUp with balance := sum } }
  else after = { before with callee := before.callee.warmedUp }

theorem transfer_grants (c : CallSection) (before : Parties) :
    Grants (c.transfer before) (c.Transferred before) (fun v => ¬v.IsDisagreement) := by
  unfold transfer Transferred
  split
  · refine Grants.bind (Snapshot.debit_grants ..) ?_
    rintro _ ⟨left, paid, rfl⟩
    refine Grants.bind (Snapshot.credit_grants ..) ?_
    rintro _ ⟨sum, received, rfl⟩
    exact ⟨left, sum, paid, received, rfl⟩
  · exact rfl

/-! ## The return to the caller -/

/-- The scenario of a call that has returned. -/
def returnScenario (scenario : Scenario) (success : Bool) : Scenario :=
  match scenario with
  | .externalUndefined => .externalSuccessWontRevert
  | .precompileUndefined =>
      if success then .precompileSuccessWontRevert else .precompileFailure
  | .contractUndefined =>
      if success then .contractSuccessWontRevert else .contractFailureWontRevert
  | s => s

/-- The rows that a failed call to a contract is undone by. -/
def failureRows (c : CallSection) (incarnations : Incarnations) (revertStamp : Nat)
    (before after : Parties) : List AccountRow :=
  let current := fun s : Snapshot => s.withDeploymentFrom incarnations
  let caller : Transition := ⟨before.caller, after.caller⟩
  let callee := ((c.calleeTransition before after).map current).reverse
  c.undoingRows revertStamp (caller.map current).reverse
    { callee with after := callee.after.warmedUp }

/-- **The account rows that the return of a call adds.** -/
def returnRows (c : CallSection) (before reEntry : Parties) (incarnations : Incarnations)
    (child : Frame) (success : Bool) : List AccountRow :=
  match c.scenario, c.after? with
  | .contractUndefined, some after =>
      if success then [] else c.failureRows incarnations child.revertStamp before after
  | .contractUndefined, none => []
  | _, _ => c.forwardRows ⟨before.caller, reEntry.caller⟩ ⟨before.callee, reEntry.callee⟩ false

/-- **The section once control is back in the caller.** -/
def returned (c : CallSection) (before reEntry : Parties) (incarnations : Incarnations)
    (child : Frame) (outcome : ContextOutcome) : CallSection :=
  let rows := c.returnRows before reEntry incarnations child outcome.success
  let answered := c.scenario = .precompileUndefined
  let moved := (c.push (Word.ofBool outcome.success)).withScenario
    (returnScenario c.scenario outcome.success)
  { moved.append (rows.map .account) with
    reEntry? := some reEntry
    run? := if answered then c.run?.map fun run => run.resolve child.id outcome else c.run?
    closing? :=
      if answered then some (.updateReturnData c.shared.context child.id outcome.returnData)
      else c.closing? }

theorem accountRows_returned (c : CallSection) (before reEntry : Parties)
    (incarnations : Incarnations) (child : Frame) (outcome : ContextOutcome) :
    (c.returned before reEntry incarnations child outcome).accountRows =
      c.accountRows ++ c.returnRows before reEntry incarnations child outcome.success := by
  refine (accountRows_append ..).trans ?_
  rw [accountRows_withScenario, accountRows_push]

theorem scenario_returned (c : CallSection) (before reEntry : Parties) (incarnations : Incarnations)
    (child : Frame) (outcome : ContextOutcome) :
    (c.returned before reEntry incarnations child outcome).scenario =
      returnScenario c.scenario outcome.success := rfl

/-- Only the return of a precompile changes what the last row is going to be. -/
theorem closing_returned (other : c.scenario ≠ .precompileUndefined) (before reEntry : Parties)
    (incarnations : Incarnations) (child : Frame) (outcome : ContextOutcome) :
    (c.returned before reEntry incarnations child outcome).closing? = c.closing? :=
  if_neg other

/-- A precompile that has returned is handed back to the caller. -/
theorem handed_returned (waits : c.scenario = .precompileUndefined) (before reEntry : Parties)
    (incarnations : Incarnations) (child : Frame) (outcome : ContextOutcome) :
    (c.returned before reEntry incarnations child outcome).run? =
        c.run?.map (·.resolve child.id outcome) ∧
      (c.returned before reEntry incarnations child outcome).closing? =
        some (.updateReturnData c.shared.context child.id outcome.returnData) :=
  ⟨if_pos waits, if_pos waits⟩

/-- **What a return changes of the rows**: it tells what the call has pushed. -/
theorem returned_shows (c : CallSection) (before reEntry : Parties) (incarnations : Incarnations)
    (child : Frame) (outcome : ContextOutcome) :
    (c.returned before reEntry incarnations child outcome).stack = c.stack ∧
      (c.returned before reEntry incarnations child outcome).pushed? =
        some (Word.ofBool outcome.success) ∧
      (c.returned before reEntry incarnations child outcome).misc = c.misc ∧
      (c.returned before reEntry incarnations child outcome).body = c.body ++
        (c.returnRows before reEntry incarnations child outcome.success).map .account := by
  let pushed := c.push (Word.ofBool outcome.success)
  let moved := pushed.withScenario (returnScenario c.scenario outcome.success)
  have appended := moved.append_shows
    ((c.returnRows before reEntry incarnations child outcome.success).map .account)
  simp only [moved, pushed, withScenario_shows, push_shows] at appended
  exact appended

/-- The section once control is back in the caller, the world being as given. -/
def answered (chain : Chain) (world : WorldState) (incarnations : Incarnations) (child : Frame)
    (outcome : ContextOutcome) (c : CallSection) : CallSection :=
  match c.before? with
  | some before =>
      c.returned before (.canonical chain world incarnations c.caller c.callee) incarnations child
        outcome
  | none => c

theorem answered_eq_of_before {before : Parties} (latched : c.before? = some before)
    (chain : Chain) (world : WorldState) (incarnations : Incarnations) (child : Frame)
    (outcome : ContextOutcome) :
    c.answered chain world incarnations child outcome =
      c.returned before (.canonical chain world incarnations c.caller c.callee) incarnations child
        outcome := by
  unfold answered
  rw [latched]

@[simp]
theorem shared_answered (chain : Chain) (world : WorldState) (incarnations : Incarnations)
    (child : Frame) (outcome : ContextOutcome) (c : CallSection) :
    (c.answered chain world incarnations child outcome).shared = c.shared := by
  unfold answered
  split <;> rfl

theorem reEnter_eq {chain : Chain} {setting : Setting} {world : WorldState}
    {child : Frame} {outcome : ContextOutcome} {id : Nat} (pending : c.Pending id)
    (succeeds : c.scenario = .externalUndefined → outcome.success = true) :
    reEnter chain setting world child outcome c =
      .ok () (c.answered chain world setting.incarnations child outcome) := by
  obtain ⟨latched, -, course⟩ := pending
  obtain ⟨before, latched⟩ := Option.isSome_iff_exists.1 latched
  cases c
  simp only at latched course succeeds
  subst latched
  rcases course with ⟨scenario, -⟩ | ⟨scenario, -⟩ | ⟨scenario, after, -⟩
  · subst scenario
    obtain ⟨success, output⟩ := outcome
    obtain rfl : success = true := succeeds rfl
    rfl
  · subst scenario
    obtain ⟨success, output⟩ := outcome
    cases success <;> rfl
  · subst scenario
    obtain ⟨after, rfl⟩ := Option.isSome_iff_exists.1 after
    obtain ⟨success, output⟩ := outcome
    cases success
    · rfl
    · simp only [answered, returned, returnRows, if_true, List.map_nil, append_nil]
      rfl

theorem Pending.returned {child : Nat} (h : c.Pending child) {before : Parties}
    (latched : c.before? = some before) (reEntry : Parties) (incarnations : Incarnations)
    (frame : Frame) (outcome : ContextOutcome) :
    (c.returned before reEntry incarnations frame outcome).Standing where
  latched := Option.isSome_iff_exists.2 ⟨before, latched⟩
  pushed := Option.isSome_iff_exists.2 ⟨_, (c.returned_shows ..).2.1⟩
  closing := by
    show (if c.scenario = .precompileUndefined then some (ContextRow.updateReturnData ..)
      else c.closing?).isSome
    rcases h.course with ⟨scenario, closing⟩ | ⟨scenario, -⟩ | ⟨scenario, -, closing⟩
    · simpa [scenario] using closing
    · simp [scenario]
    · simp [scenario, closing]
  rolledBack := h.rolledBack
  canRevert := by
    unfold CanRevert
    show match returnScenario c.scenario outcome.success with
      | .abortWontRevert | .contractSuccessWontRevert | .precompileSuccessWontRevert =>
          c.after?.isSome
      | .externalSuccessWontRevert | .contractFailureWontRevert => (some reEntry).isSome
      | .precompileFailure => True
      | _ => False
    rcases h.course with ⟨scenario, -⟩ | ⟨scenario, after⟩ | ⟨scenario, after, -⟩
    · rw [scenario]
      rfl
    all_goals
      rw [scenario]
      cases outcome.success
      · trivial
      · exact after

theorem Pending.answered {child : Nat} (h : c.Pending child) (chain : Chain) (world : WorldState)
    (incarnations : Incarnations) (frame : Frame) (outcome : ContextOutcome) :
    (c.answered chain world incarnations frame outcome).Standing := by
  obtain ⟨before, latched⟩ := Option.isSome_iff_exists.1 h.latched
  unfold CallSection.answered
  rw [latched]
  exact h.returned latched ..

theorem Pending.mem_awaits_answered {child : Nat} (h : c.Pending child) (left : c.hasLeft = true)
    {chain : Chain} {world : WorldState} {incarnations : Incarnations} {frame : Frame}
    {outcome : ContextOutcome} (e : Event) :
    e ∈ (c.answered chain world incarnations frame outcome).awaits ↔
      e ∈ c.awaits ∧ e ≠ .contextReEntry c.shared.context := by
  rw [(h.answered ..).awaits_eq, h.awaits_eq, returnEvents, if_pos left, shared_answered]
  refine Section.mem_iff_of_filter_ne ?_ e
  simp

/-! ## The rollback of the caller -/

/-- The undoing transitions of the parties, the one that comes first given first. -/
def undoingOrder (c : CallSection) (caller callee : Transition) : List Transition :=
  if c.isSelfTransfer then [callee, caller] else [caller, callee]

/-- **What a rollback undoes**, in the order in which it is undone: for each row, where it
starts and where it should lead. -/
def reversal (c : CallSection) : List Transition :=
  match c.scenario, c.before?, c.after?, c.reEntry? with
  | .abortWontRevert, some before, some after, _ => [⟨after.callee, before.callee⟩]
  | .externalSuccessWontRevert, some before, _, some reEntry =>
      c.undoingOrder ⟨reEntry.caller, before.caller⟩ ⟨reEntry.callee, before.callee⟩
  | .contractFailureWontRevert, some before, _, some reEntry =>
      [⟨reEntry.callee, before.callee⟩]
  | .contractSuccessWontRevert, some before, some after, _
  | .precompileSuccessWontRevert, some before, some after, _ =>
      c.undoingOrder ⟨after.caller, before.caller⟩ (c.calleeTransition before after).reverse
  | _, _, _, _ => []

/-- **The account rows that a rollback adds.** -/
def compensation (c : CallSection) (rolledBack : Parties) (incarnations : Incarnations)
    (revertStamp : Nat) : List AccountRow :=
  match c.scenario, c.before?, c.after?, c.reEntry? with
  | .abortWontRevert, some before, some after, _ =>
      let callee : Transition := ⟨before.callee, after.callee⟩
      let current := callee.map (·.withDeploymentFrom incarnations)
      [current.reverse.row (.undoing c.shared.stamp revertStamp 2)]
  | .externalSuccessWontRevert, some before, _, some reEntry =>
      c.undo revertStamp ⟨before.caller, reEntry.caller⟩ ⟨before.callee, reEntry.callee⟩
        rolledBack
  | .contractFailureWontRevert, some _, _, some reEntry =>
      let callee : Transition := ⟨reEntry.callee, rolledBack.callee⟩
      [callee.row (.undoing c.shared.stamp revertStamp 4)]
  | .contractSuccessWontRevert, some before, some after, _
  | .precompileSuccessWontRevert, some before, some after, _ =>
      c.undo revertStamp ⟨before.caller, after.caller⟩ (c.calleeTransition before after)
        rolledBack
  | _, _, _, _ => []

/-- **The section once its context has been rolled back.** -/
def reverted (c : CallSection) (rolledBack : Parties) (incarnations : Incarnations)
    (revertStamp : Nat) : CallSection :=
  let moved := c.withScenario (c.scenario.willRevert?.getD c.scenario)
  { moved.append ((c.compensation rolledBack incarnations revertStamp).map .account) with
    rolledBack? := some rolledBack }

theorem accountRows_reverted (c : CallSection) (rolledBack : Parties) (incarnations : Incarnations)
    (revertStamp : Nat) : (c.reverted rolledBack incarnations revertStamp).accountRows =
      c.accountRows ++ c.compensation rolledBack incarnations revertStamp := by
  refine (accountRows_append ..).trans ?_
  rw [accountRows_withScenario]

/-- What a rollback changes of the rows. -/
theorem reverted_shows (c : CallSection) (rolledBack : Parties) (incarnations : Incarnations)
    (revertStamp : Nat) :
    (c.reverted rolledBack incarnations revertStamp).stack = c.stack ∧
      (c.reverted rolledBack incarnations revertStamp).pushed? = c.pushed? ∧
      (c.reverted rolledBack incarnations revertStamp).misc = c.misc ∧
      (c.reverted rolledBack incarnations revertStamp).body = c.body ++
        (c.compensation rolledBack incarnations revertStamp).map .account := by
  let moved := c.withScenario (c.scenario.willRevert?.getD c.scenario)
  have appended := moved.append_shows
    ((c.compensation rolledBack incarnations revertStamp).map .account)
  simp only [moved, withScenario_shows] at appended
  exact appended

theorem rollBack_eq {chain : Chain} {setting : Setting} {world : WorldState} {frame : Frame}
    (standing : c.Standing) :
    rollBack chain setting world frame c = .ok () (c.reverted
      (.canonical chain world setting.incarnations c.caller c.callee) setting.incarnations
      frame.revertStamp) := by
  obtain ⟨latched, -, -, -, canRevert⟩ := standing
  obtain ⟨before, latched⟩ := Option.isSome_iff_exists.1 latched
  unfold CanRevert at canRevert
  have kept : c.scenario = .precompileFailure →
      c.withScenario (c.scenario.willRevert?.getD c.scenario) = c := fun failed => by
    have stays : c.scenario.willRevert?.getD c.scenario = c.scenario := by
      rw [failed]
      rfl
    rw [stays, withScenario_self]
  cases c with
  | mk trace kind scenario opens caller callee raw value data return_ run closing before? after?
      childExit? reEntry? rolledBack? =>
    simp only at latched canRevert
    subst latched
    cases scenario
    case precompileFailure =>
      simp only [reverted, kept, compensation, List.map_nil, append_nil]
      rfl
    all_goals first
      | exact canRevert.elim
      | obtain ⟨captured, rfl⟩ := Option.isSome_iff_exists.1 canRevert
        rfl

theorem Standing.reverted (standing : c.Standing) (rolledBack : Parties)
    (incarnations : Incarnations) (revertStamp : Nat) :
    (c.reverted rolledBack incarnations revertStamp).Undone where
  closing := standing.closing
  rolledBack := rfl
  scenario := by
    have canRevert := standing.canRevert
    unfold CanRevert at canRevert
    show (c.scenario.willRevert?.getD c.scenario).isWillRevert = true ∨
      c.scenario.willRevert?.getD c.scenario = .precompileFailure
    cases scenario : c.scenario <;>
      simp [scenario, Scenario.willRevert?, Scenario.isWillRevert] at canRevert ⊢

/-- A call that has been rolled back is no longer standing. -/
theorem Undone.not_standing (undone : c.Undone) : ¬c.Standing := by
  intro standing
  have rolledBack := undone.rolledBack
  rw [standing.rolledBack] at rolledBack
  cases rolledBack

theorem Dismissed.not_standing (dismissed : c.Dismissed) : ¬c.Standing := by
  intro standing
  have canRevert := standing.canRevert
  rw [CanRevert, dismissed.scenario] at canRevert
  exact canRevert

theorem Dismissed.not_undone (dismissed : c.Dismissed) : ¬c.Undone := by
  intro undone
  have closing := undone.closing
  rw [dismissed.closing] at closing
  cases closing

/-! ## The end of the transaction -/

/-- The rows that the end of the transaction adds. -/
def closingRows (c : CallSection) : List Row :=
  (if c.scenario.isPrecompileCall then (c.run?.map PrecompileRun.rows).getD [] else []) ++
    c.closing?.toList.map .context

/-- **The section once the transaction is over.** -/
def closed (c : CallSection) : CallSection :=
  { c.append c.closingRows with closing? := none }

theorem close_eq (closing : c.closing?.isSome) (resolved : c.scenario.isUndefined = false) :
    close c = .ok () c.closed := by
  obtain ⟨row, closing⟩ := Option.isSome_iff_exists.1 closing
  have unclosed : ¬c.scenario.isUndefined = true := by simp [resolved]
  unfold close closed closingRows
  refine get_bind_eq.trans ?_
  dsimp only
  rw [if_neg unclosed, closing]
  by_cases precompile : c.scenario.isPrecompileCall = true
  · rw [if_pos precompile, if_pos precompile, ← append_append]
    rfl
  · rw [if_neg precompile, if_neg precompile, List.nil_append]
    rfl

end CallSection

end ExecutionTrace
