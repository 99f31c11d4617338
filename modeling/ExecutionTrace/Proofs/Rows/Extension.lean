import ExecutionTrace.Machine.Script
import ExecutionTrace.Proofs.Tracer.Driving
import Mathlib.Logic.Relation

/-!
# The trace is only appended to

Rows that a section shows are shown for good, whatever a driver announces.  Two rows of a call are
the exception: the first one learns what the call has pushed, once, and the second one shows the
scenario, which only moves forward.

## Main Definitions

* `CallSection.Extends`, `Section.Extends` — what a section may have become, row by row
* `CallSection.Latched` — a call that still waits for what it pushes has not pushed anything
* `CallSection.terms` — what a call was announced with
* `CallSection.Advances` — what a reaction may change of a call
* `Section.react_extends` — what an event makes of a section extends it
* `Tracer.drive_extends` — what a driver makes of a tracer extends it

## Design Notes

A single operation may hand out several occurrences, but only those of one kind move scenarios: the
return to a caller moves those that are undefined, and a rollback those that can be undone.  What
has been moved cannot be moved by the same kind again, so an operation moves a scenario at most one
step.
-/

namespace ExecutionTrace

/-! ## What a section may become -/

/-- One scenario is a step ahead of another in the refinement order. -/
def Scenario.Refines (s target : Scenario) : Prop :=
  s.refines target = true

/-- The scenario of a section that has one. -/
def Section.scenario? : Section → Option Scenario
  | call c => some c.scenario
  | _ => none

/-- The call that a section is, if it is one. -/
def Section.call? : Section → Option CallSection
  | launch _ => none
  | settlement _ => none
  | call c => some c

theorem Section.call?_eq_some_iff {s : Section} {c : CallSection} :
    s.call? = some c ↔ s = .call c := by
  cases s <;> simp [call?]

/-- **What a call may have become.** Only the pushed word of its first row may differ, which never
changes once it is known, and the second row shows the scenario, which has moved by `moves`. -/
structure CallSection.Extends (moves : Scenario → Scenario → Prop) (c c' : CallSection) : Prop where
  rows : ∃ (stack : StackRow) (pushed? : Option Word) (rest more : List Row),
    c.rows = .stack stack :: .scenario c.scenario :: rest ∧
      c'.rows = .stack { stack with pushed? } :: .scenario c'.scenario :: (rest ++ more) ∧
      ∀ w, stack.pushed? = some w → pushed? = some w
  scenario : moves c.scenario c'.scenario
  /-- A scenario that is terminal stays so. -/
  terminal : c.scenario.isUndefined = false → c'.scenario.isUndefined = false

/-- **What a section may have become.** Sections of other kinds are only appended to. -/
inductive Section.Extends (moves : Scenario → Scenario → Prop) : Section → Section → Prop
  | launch {s s' : LaunchSection} (rows : s.trace.rows <+: s'.trace.rows) :
      Extends moves (.launch s) (.launch s')
  | settlement {s s' : SettlementSection} (rows : s.trace.rows <+: s'.trace.rows) :
      Extends moves (.settlement s) (.settlement s')
  | call {c c' : CallSection} (extends_ : c.Extends moves c') : Extends moves (.call c) (.call c')

theorem Section.Extends.mono {moves moves' : Scenario → Scenario → Prop} {s s' : Section}
    (h : s.Extends moves s') (more : ∀ s s', moves s s' → moves' s s') :
    s.Extends moves' s' := by
  cases h with
  | launch rows => exact .launch rows
  | settlement rows => exact .settlement rows
  | call extends_ => exact .call ⟨extends_.rows, more _ _ extends_.scenario, extends_.terminal⟩

theorem CallSection.Extends.trans {moves : Scenario → Scenario → Prop} {c c' c'' : CallSection}
    (compose : ∀ {s s' s'' : Scenario}, moves s s' → moves s' s'' → moves s s'')
    (h : c.Extends moves c') (h' : c'.Extends moves c'') : c.Extends moves c'' where
  rows := by
    obtain ⟨stack, pushed?, rest, more, old, new, kept⟩ := h.rows
    obtain ⟨stack', pushed?', rest', more', old', new', kept'⟩ := h'.rows
    rw [new] at old'
    obtain ⟨first, old'⟩ := List.cons.inj old'
    obtain ⟨-, rfl⟩ := List.cons.inj old'
    obtain rfl := Row.stack.inj first
    refine ⟨stack, pushed?', rest, more ++ more', old, ?_, fun w known => kept' w (kept w known)⟩
    rw [new', List.append_assoc]
  scenario := compose h.scenario h'.scenario
  terminal known := h'.terminal (h.terminal known)

theorem Section.Extends.trans {moves : Scenario → Scenario → Prop} {s s' s'' : Section}
    (compose : ∀ {s s' s'' : Scenario}, moves s s' → moves s' s'' → moves s s'')
    (h : s.Extends moves s') (h' : s'.Extends moves s'') : s.Extends moves s'' := by
  cases h with
  | launch rows =>
      cases h' with
      | launch rows' => exact .launch (rows.trans rows')
  | settlement rows =>
      cases h' with
      | settlement rows' => exact .settlement (rows.trans rows')
  | call extends_ =>
      cases h' with
      | call extends' => exact .call (extends_.trans compose extends')

/-! ## How scenarios move -/

/-- **A scenario moves at most one step**, and only if it is one of those that turn, which it then
no longer is. -/
def Scenario.Turns (turning : Scenario → Bool) (s s' : Scenario) : Prop :=
  s' = s ∨ turning s = true ∧ turning s' = false ∧ s.refines s' = true

namespace Scenario

variable {turning : Scenario → Bool} {s s' s'' : Scenario}

/-- A scenario that has turned does not turn again. -/
theorem Turns.trans (h : s.Turns turning s') (h' : s'.Turns turning s'') :
    s.Turns turning s'' := by
  rcases h with rfl | ⟨turns, settled, forward⟩
  · exact h'
  · rcases h' with rfl | ⟨again, -⟩
    · exact .inr ⟨turns, settled, forward⟩
    · rw [settled] at again
      cases again

theorem isUndefined_of_refines (forward : s.refines s' = true) (terminal : s.isUndefined = false) :
    s'.isUndefined = false := by
  cases s <;> cases s' <;> revert forward terminal <;> decide

/-- The counterpart of a scenario after a rollback has no counterpart of its own. -/
theorem willRevert?_of_willRevert? (known : s.willRevert? = some s') : s'.willRevert? = none := by
  cases s <;> cases known <;> rfl

end Scenario

/-- The scenarios that an occurrence may move. -/
def Occurrence.turning : Occurrence → Scenario → Bool
  | contextReEntry _ _ _ _ => Scenario.isUndefined
  | rollback _ _ => fun s => s.willRevert?.isSome
  | _ => fun _ => false

/-- The scenarios that an operation may move. -/
def Operation.turning : Operation → Scenario → Bool
  | reEnterContext _ _ => Scenario.isUndefined
  | rollBack _ _ => fun s => s.willRevert?.isSome
  | _ => fun _ => false

theorem Operation.Raises.turning_eq {operation : Operation} {occurrence : Occurrence}
    (raises : operation.Raises occurrence) : occurrence.turning = operation.turning := by
  cases raises <;> rfl

/-- **An event at which a call learns what it has pushed.** -/
def Event.Pushes : Event → Prop
  | opcodeEnd | contextReEntry _ => True
  | _ => False

/-! ## What reactions change -/

namespace CallSection

/-- **The terms of a call**: who calls whom, what moves, and how the two were found. -/
structure Terms where
  caller : Address
  callee : Address
  value : Word
  before? : Option Parties

/-- The terms on which a call was announced. -/
def terms (c : CallSection) : Terms where
  caller := c.caller
  callee := c.callee
  value := c.value
  before? := c.before?

theorem terms_eq_iff {c c' : CallSection} : c'.terms = c.terms ↔
    c'.caller = c.caller ∧ c'.callee = c.callee ∧ c'.value = c.value ∧ c'.before? = c.before? :=
  .of_eq (Terms.mk.injEq ..)

/-- **What a reaction changes of a call**: it appends rows, may move the scenario, and may record
what has been pushed if it is about that.  It never changes the terms. -/
structure Advances (pushes : Prop) (turning : Scenario → Bool) (c c' : CallSection) : Prop where
  shared : c'.shared = c.shared
  kind : c'.kind = c.kind
  stack : c'.stack = c.stack
  misc : c'.misc = c.misc
  terms : c'.terms = c.terms
  pushed : c'.pushed? = c.pushed? ∨ pushes
  scenario : c.scenario.Turns turning c'.scenario
  body : c.body <+: c'.body

variable {pushes : Prop} {turning : Scenario → Bool} {c c₁ c₂ : CallSection}

namespace Advances

theorem refl (c : CallSection) : c.Advances pushes turning c :=
  ⟨rfl, rfl, rfl, rfl, rfl, .inl rfl, .inl rfl, List.prefix_refl _⟩

/-- A change that concerns neither the rows nor the terms. -/
theorem congr (h : c.Advances pushes turning c₁) (trace : c₂.trace = c₁.trace)
    (kind : c₂.kind = c₁.kind) (terms : c₂.terms = c₁.terms)
    (scenario : c₂.scenario = c₁.scenario) : c.Advances pushes turning c₂ := by
  have rows : c₂.rows = c₁.rows := congrArg Trace.rows trace
  have first : c₂.stackRow = c₁.stackRow := by
    rw [stackRow, stackRow, rows, kind]
  exact {
    shared := (congrArg Trace.shared trace).trans h.shared
    kind := kind.trans h.kind
    stack := (congrArg StackRow.items first).trans h.stack
    misc := by
      rw [← h.misc, CallSection.misc, CallSection.misc, rows]
    terms := terms.trans h.terms
    pushed := h.pushed.imp_left (congrArg StackRow.pushed? first).trans
    scenario := scenario ▸ h.scenario
    body := by
      have body : c₂.body = c₁.body := congrArg (List.drop 4) rows
      exact body ▸ h.body }

theorem append (h : c.Advances pushes turning c₁) (rows : List Row) :
    c.Advances pushes turning (c₁.append rows) := by
  obtain ⟨stack, pushed, misc, body⟩ := c₁.append_shows rows
  exact ⟨h.shared, h.kind, stack.trans h.stack, misc.trans h.misc, h.terms,
    h.pushed.imp_left pushed.trans, h.scenario, h.body.trans (body ▸ List.prefix_append ..)⟩

/-- The call learns what it has pushed. -/
theorem push (h : c.Advances True turning c₁) (w : Word) :
    c.Advances True turning (c₁.push w) := by
  obtain ⟨stack, -, misc, body⟩ := c₁.push_shows w
  exact ⟨h.shared, h.kind, stack.trans h.stack, misc.trans h.misc, h.terms, .inr trivial,
    h.scenario, body.symm ▸ h.body⟩

/-- The scenario turns, if it has not done so yet. -/
theorem turn (h : c.Advances pushes turning c₁) {target : Scenario}
    (turns : turning c₁.scenario = true) (settled : turning target = false)
    (forward : c₁.scenario.refines target = true) :
    c.Advances pushes turning (c₁.withScenario target) := by
  obtain ⟨stack, pushed, misc, body⟩ := c₁.withScenario_shows target
  exact ⟨h.shared, h.kind, stack.trans h.stack, misc.trans h.misc, h.terms,
    h.pushed.imp_left pushed.trans, h.scenario.trans (.inr ⟨turns, settled, forward⟩),
    body.symm ▸ h.body⟩

/-- A reaction that goes on by moving the scenario forward. -/
theorem advanceTo_bind (h : c.Advances pushes turning c₁) {move : CallReaction}
    {rest : Unit → CallReaction} {target : Scenario} (turns : turning c₁.scenario = true)
    (settled : turning target = false)
    (moves : Ends (move c₁)
      (fun _ c' => c' = c₁.withScenario target ∧ c₁.scenario.refines target = true)
      (fun _ c' => c' = c₁))
    (leaves : ∀ c₂, c.Advances pushes turning c₂ →
      Leaves (rest () c₂) (c.Advances pushes turning)) :
    Leaves ((move >>= rest) c₁) (c.Advances pushes turning) := by
  refine Ends.bind (moves.mono (fun _ _ moved => moved) ?_) ?_
  · rintro _ _ rfl
    exact h
  · rintro _ _ ⟨rfl, forward⟩
    exact leaves _ (h.turn turns settled forward)

end Advances

/-! ### Reactions of calls -/

theorem enterChild_advances (c : CallSection) :
    Grants c.enterChild (c.Advances pushes turning) fun _ => True := by
  unfold enterChild
  split
  · refine (Grants.any _).bind fun before _ => (Grants.any _).bind fun after _ => ?_
    exact ((Advances.refl c).append _).congr rfl rfl rfl rfl
  · refine (Grants.any _).bind fun before _ => (Grants.any _).bind fun after _ => ?_
    exact (Advances.refl c).congr rfl rfl rfl rfl
  · trivial

theorem exitChild_advances (c : CallSection) (chain : Chain) (setting : Setting)
    (world : WorldState) (child : Nat) :
    Grants (c.exitChild chain setting world child) (c.Advances pushes turning) fun _ => True := by
  unfold exitChild
  split
  · exact (Advances.refl c).congr rfl rfl rfl rfl
  · trivial

theorem finishOpcode_advances (c : CallSection) (pushed? : Option Word) :
    Grants (c.finishOpcode pushed?) (c.Advances True turning) fun _ => True := by
  unfold finishOpcode
  split
  · exact (Advances.refl c).push _
  · trivial

theorem resolveExternal_advances (h : c.Advances pushes Scenario.isUndefined c₁)
    (undefined : c₁.scenario.isUndefined = true) (before reEntry : Parties) (child : Frame)
    (outcome : ContextOutcome) :
    Leaves (resolveExternal before reEntry child outcome c₁)
      (c.Advances pushes Scenario.isUndefined) := by
  unfold resolveExternal
  split
  · exact h.advanceTo_bind undefined rfl (advanceTo_ends _ c₁) fun c₂ h => h.append _
  · exact h

theorem resolvePrecompile_advances (h : c.Advances pushes Scenario.isUndefined c₁)
    (undefined : c₁.scenario.isUndefined = true) (before reEntry : Parties) (child : Frame)
    (outcome : ContextOutcome) :
    Leaves (resolvePrecompile before reEntry child outcome c₁)
      (c.Advances pushes Scenario.isUndefined) := by
  unfold resolvePrecompile
  refine h.advanceTo_bind undefined ?_ (advanceTo_ends _ c₁) fun c₂ h => ?_
  · cases outcome.success <;> rfl
  · exact (h.append _).congr rfl rfl rfl rfl

theorem resolveContract_advances (h : c.Advances pushes Scenario.isUndefined c₁)
    (undefined : c₁.scenario.isUndefined = true) (setting : Setting) (before : Parties)
    (child : Frame) (outcome : ContextOutcome) (event : Event) :
    Leaves (resolveContract setting before child outcome event c₁)
      (c.Advances pushes Scenario.isUndefined) := by
  unfold resolveContract
  split
  · refine (advanceTo_ends _ c₁).mono ?_ ?_
    · rintro _ _ ⟨rfl, forward⟩
      exact h.turn undefined rfl forward
    · rintro _ _ rfl
      exact h
  · refine h.advanceTo_bind undefined rfl (advanceTo_ends _ c₁) fun c₂ h => Ends.get_bind ?_
    exact Leaves.ofExcept_bind h fun after _ => h.append _

/-- **Control is back in the caller**: the call learns what it pushed, and stops being undefined. -/
theorem reEnter_advances (c : CallSection) (chain : Chain) (setting : Setting)
    (world : WorldState) (child : Frame) (outcome : ContextOutcome) :
    Leaves (reEnter chain setting world child outcome c)
      (c.Advances True Scenario.isUndefined) := by
  unfold reEnter
  refine Ends.get_bind (Leaves.ofExcept_bind (Advances.refl c) fun before _ => Ends.set_bind ?_)
  have pushed : c.Advances True Scenario.isUndefined (c.push (Word.ofBool outcome.success)) :=
    (Advances.refl c).push _
  generalize known : ({ c.push _ with reEntry? := _ } : CallSection) = c₁
  have h : c.Advances True Scenario.isUndefined c₁ := by
    subst known
    exact pushed.congr rfl rfl rfl rfl
  have same : c₁.scenario = c.scenario := known ▸ rfl
  have undefined : c.scenario.isUndefined = true → c₁.scenario.isUndefined = true := by
    rw [same]
    exact fun h => h
  generalize c.scenario = scenario at undefined
  cases scenario
  case externalUndefined => exact resolveExternal_advances h (undefined rfl) ..
  case precompileUndefined => exact resolvePrecompile_advances h (undefined rfl) ..
  case contractUndefined => exact resolveContract_advances h (undefined rfl) ..
  all_goals exact h

/-- **The context of the call is rolled back**: it moves to the counterpart of its scenario. -/
theorem rollBack_advances (c : CallSection) (chain : Chain) (setting : Setting)
    (world : WorldState) (frame : Frame) :
    Leaves (rollBack chain setting world frame c)
      (c.Advances pushes fun s => s.willRevert?.isSome) := by
  unfold rollBack
  refine Ends.get_bind (Ends.set_bind ?_)
  generalize known : ({ c with rolledBack? := _ } : CallSection) = c₁
  have h : c.Advances pushes (fun s => s.willRevert?.isSome) c₁ := by
    subst known
    exact (Advances.refl c).congr rfl rfl rfl rfl
  have same : c₁.scenario = c.scenario := known ▸ rfl
  refine Leaves.ofExcept_bind h fun before _ => ?_
  have undoes : ∀ {target : Scenario}, c.scenario.willRevert? = some target →
      ∀ (event : Event) (found : Except Violation Parties) (shown : Parties → List AccountRow),
      Leaves ((do
        advanceToWillRevert event
        let parties ← ofExcept found
        showRows (shown parties) : CallReaction) c₁)
          (c.Advances pushes fun s => s.willRevert?.isSome) := by
    intro target counterpart event found shown
    rw [← same] at counterpart
    have turns : c₁.scenario.willRevert?.isSome = true := by rw [counterpart]; rfl
    have settled : target.willRevert?.isSome = false := by
      rw [Scenario.willRevert?_of_willRevert? counterpart]
      rfl
    refine h.advanceTo_bind turns settled (advanceToWillRevert_ends counterpart event) ?_
    exact fun c₂ h => Leaves.ofExcept_bind h fun parties _ => h.append _
  generalize c.scenario = scenario at undoes
  cases scenario
  case abortWontRevert | externalSuccessWontRevert | contractFailureWontRevert |
      contractSuccessWontRevert | precompileSuccessWontRevert => exact undoes rfl _ _ _
  all_goals exact h

/-- **The transaction is over**: the call gets its last rows. -/
theorem close_advances (c : CallSection) : Leaves (close c) (c.Advances pushes turning) := by
  have complete : ∀ (c₁ : CallSection) (row : ContextRow), c.Advances pushes turning c₁ →
      c.Advances pushes turning { c₁.append [.context row] with closing? := none } :=
    fun c₁ row h => (h.append [.context row]).congr rfl rfl rfl rfl
  have h : c.Advances pushes turning c := .refl c
  unfold close
  refine Ends.get_bind ?_
  dsimp only
  split
  · exact h
  split
  · have h := h.append ((c.run?.map PrecompileRun.rows).getD [])
    refine Ends.modify_bind ?_
    cases c.closing? with
    | none => exact h
    | some row => exact complete _ row h
  · cases c.closing? with
    | none => exact h
    | some row => exact complete c row h

end CallSection

/-! ### Reactions of other sections -/

theorem LaunchSection.enterRoot_extends (s : LaunchSection) (setting : Setting) :
    Grants (s.enterRoot setting) (fun s' => s.trace.rows <+: s'.trace.rows) fun _ => True := by
  unfold enterRoot
  refine (Grants.any _).bind fun root _ => ?_
  split
  · trivial
  · exact List.prefix_refl _

theorem LaunchSection.finish_extends (s : LaunchSection) (setting : Setting)
    (outcome : TransactionOutcome) :
    Leaves (finish setting outcome s) fun s' => s.trace.rows <+: s'.trace.rows := by
  have unchanged : s.trace.rows <+: s.trace.rows := List.prefix_refl _
  have extend : ∀ {t : Trace} (rows : List Row), s.trace.rows <+: t.rows →
      s.trace.rows <+: (t.append rows).rows :=
    fun rows h => h.trans (List.prefix_append ..)
  unfold finish
  refine Ends.get_bind (Leaves.ofExcept_bind unchanged fun tx _ => ?_)
  cases s.root? with
  | none => exact unchanged
  | some root =>
      refine Ends.set_bind (Ends.modify_bind (Ends.modify_bind ?_))
      have shown := extend ((s.forwardRows tx).map .account)
        (extend [.misc {}, .transaction (.ofOutcome tx true outcome)] unchanged)
      split
      · exact extend [.context root] shown
      · refine Leaves.ofExcept_bind shown fun frame _ => Ends.modify_bind ?_
        exact extend [.context root] (extend _ shown)

theorem SettlementSection.finish_extends (s : SettlementSection) (chain : Chain)
    (setting : Setting) (world : WorldState) (outcome : TransactionOutcome) :
    Grants (s.finish chain setting world outcome) (fun s' => s.trace.rows <+: s'.trace.rows)
      fun _ => True := by
  unfold finish
  split
  · refine (Grants.any _).bind fun tx _ => (Grants.any _).bind fun transitions _ => ?_
    exact List.prefix_append ..
  · trivial

/-! ## What a call has pushed -/

/-- **A call that still waits for what it pushes has not pushed anything**, and waits for it at one
event only. -/
structure CallSection.Latched (waits : Event → Prop) (c : CallSection) : Prop where
  pushed : ∀ e : Event, e.Pushes → waits e → c.pushed? = none
  once : ∀ e f : Event, e.Pushes → f.Pushes → waits e → waits f → e = f

namespace CallSection

variable {waits : Event → Prop} {c c' : CallSection} {event : Event}

theorem Latched.mono (latched : c.Latched waits) {waits' : Event → Prop}
    (fewer : ∀ e, waits' e → waits e) : c.Latched waits' where
  pushed e pushes h := latched.pushed e pushes (fewer e h)
  once e f pushes pushes' h h' := latched.once e f pushes pushes' (fewer e h) (fewer f h')

/-- After a reaction, a call that still waits has learnt nothing. -/
theorem Latched.react (latched : c.Latched waits) (awaited : waits event)
    (pushed : c'.pushed? = c.pushed? ∨ event.Pushes) : c'.Latched fun e => waits e ∧ e ≠ event where
  pushed e pushes h := by
    rcases pushed with same | learnt
    · rw [same]
      exact latched.pushed e pushes h.1
    · exact absurd (latched.once e event pushes learnt h.1 awaited) h.2
  once e f pushes pushes' h h' := latched.once e f pushes pushes' h.1 h'.1

/-- What has been pushed is not pushed again. -/
theorem Latched.keeps (latched : c.Latched waits) (awaited : waits event)
    (pushed : c'.pushed? = c.pushed? ∨ event.Pushes) :
    ∀ w, c.pushed? = some w → c'.pushed? = some w := by
  intro w known
  rcases pushed with same | learnt
  · rw [same, known]
  · rw [latched.pushed event learnt awaited] at known
    cases known

/-- An announced call learns what it pushes at one event only. -/
theorem eq_of_mem_awaited {child : Nat} (awaited : event ∈ c.awaited child)
    (pushes : event.Pushes) : event =
      if c.scenario = .abortWontRevert then .opcodeEnd else .contextReEntry c.shared.context := by
  unfold CallSection.awaited at awaited
  cases event with
  | opcodeEnd => cases scenario : c.scenario <;> simp [scenario] at awaited ⊢
  | contextReEntry id =>
      cases scenario : c.scenario <;> simp [scenario] at awaited ⊢ <;> exact awaited
  | _ => exact pushes.elim

theorem Announced.latched {chain : Chain} {setting : Setting} {world : WorldState} {frame : Frame}
    {i : Invocation} (announced : Announced chain setting world frame i c) {child : Nat}
    (awaited : ∀ e, waits e → e ∈ c.awaited child) : c.Latched waits where
  pushed _ _ _ := announced.pushed
  once e f pushes pushes' h h' :=
    (eq_of_mem_awaited (awaited e h) pushes).trans (eq_of_mem_awaited (awaited f h') pushes').symm

end CallSection

namespace Section

/-- **What is left of a section**: it is still of its kind, what it shows has been appended to, and
its scenario has moved one step at most. -/
inductive Continues (turning : Scenario → Bool) : Section → Section → Prop
  | launch {s s' : LaunchSection} (rows : s.trace.rows <+: s'.trace.rows) :
      Continues turning (.launch s) (.launch s')
  | settlement {s s' : SettlementSection} (rows : s.trace.rows <+: s'.trace.rows) :
      Continues turning (.settlement s) (.settlement s')
  | call {c c' : CallSection} (advances : c.Advances True turning c')
      (keeps : ∀ w, c.pushed? = some w → c'.pushed? = some w) :
      Continues turning (.call c) (.call c')

variable {turning : Scenario → Bool} {s s' s'' : Section}

theorem Continues.refl (s : Section) : s.Continues turning s := by
  cases s with
  | launch s => exact .launch (List.prefix_refl _)
  | settlement s => exact .settlement (List.prefix_refl _)
  | call c => exact .call (.refl c) fun _ known => known

theorem Continues.trans (h : s.Continues turning s') (h' : s'.Continues turning s'') :
    s.Continues turning s'' := by
  cases h with
  | launch rows =>
      cases h' with
      | launch rows' => exact .launch (rows.trans rows')
  | settlement rows =>
      cases h' with
      | settlement rows' => exact .settlement (rows.trans rows')
  | call a keeps =>
      cases h' with
      | call a' keeps' =>
          refine .call ⟨a'.shared.trans a.shared, a'.kind.trans a.kind, a'.stack.trans a.stack,
            a'.misc.trans a.misc, a'.terms.trans a.terms, .inr trivial,
            a.scenario.trans a'.scenario, a.body.trans a'.body⟩ ?_
          exact fun w known => keeps' w (keeps w known)

/-- **What has been shown is shown still.** -/
theorem Continues.extends (h : s.Continues turning s') :
    s.Extends (Relation.ReflGen Scenario.Refines) s' := by
  cases h with
  | launch rows => exact .launch rows
  | settlement rows => exact .settlement rows
  | @call c c' a keeps =>
      refine .call ⟨?_, ?_, ?_⟩
      · obtain ⟨more, appended⟩ := a.body
        refine ⟨{ mnemonic := c.kind.mnemonic, items := c.stack, pushed? := c.pushed? }, c'.pushed?,
          [.context (.readCurrent c.shared.context), .misc c.misc] ++ c.body, more, ?_, ?_, keeps⟩
        · rw [c.rows_eq, c.prequel_eq]
          rfl
        · rw [c'.rows_eq, c'.prequel_eq, a.shared, a.kind, a.stack, a.misc, ← appended]
          rfl
      · rcases a.scenario with same | ⟨-, -, forward⟩
        · exact same ▸ .refl
        · exact .single forward
      · intro terminal
        rcases a.scenario with same | ⟨-, -, forward⟩
        · rw [same, terminal]
        · exact Scenario.isUndefined_of_refines forward terminal

/-- A section whose call, if it is one, is latched. -/
def Latched (s : Section) (waits : Event → Prop) : Prop :=
  ∀ c, s = .call c → c.Latched waits

theorem Latched.mono {waits waits' : Event → Prop} (latched : s.Latched waits)
    (fewer : ∀ e, waits' e → waits e) : s.Latched waits' :=
  fun c same => (latched c same).mono fewer

theorem Created.latched {stamp : Nat} {awaited : List Event} (created : s.Created stamp awaited)
    {waits : Event → Prop} (expected : ∀ e, waits e → e ∈ awaited) : s.Latched waits := by
  rintro c rfl
  cases created with
  | call _ announced => exact announced.latched expected

/-- **What an event makes of a section** continues it, wherever the reaction breaks off. -/
theorem react_continues {waits : Event → Prop} (latched : s.Latched waits) (chain : Chain)
    (setting : Setting) {occurrence : Occurrence} (awaited : waits occurrence.event) :
    Leaves (react chain setting occurrence s) fun s' =>
      s.Continues occurrence.turning s' ∧ s'.Latched fun e => waits e ∧ e ≠ occurrence.event := by
  have unchanged : s.Continues occurrence.turning s ∧
      s.Latched fun e => waits e ∧ e ≠ occurrence.event :=
    ⟨.refl s, latched.mono fun _ h => h.1⟩
  cases s with
  | launch s =>
      have carries : ∀ s' : LaunchSection, s.trace.rows <+: s'.trace.rows →
          (launch s).Continues occurrence.turning (launch s') ∧
            (launch s').Latched fun e => waits e ∧ e ≠ occurrence.event :=
        fun s' rows => ⟨.launch rows, fun c same => by cases same⟩
      cases occurrence
      case contextEntry => exact replace_leaves (s.enterRoot_extends setting) unchanged carries
      case transactionEnd => exact within_leaves (s.finish_extends setting _) carries
      all_goals exact unchanged
  | settlement s =>
      have carries : ∀ s' : SettlementSection, s.trace.rows <+: s'.trace.rows →
          (settlement s).Continues occurrence.turning (settlement s') ∧
            (settlement s').Latched fun e => waits e ∧ e ≠ occurrence.event :=
        fun s' rows => ⟨.settlement rows, fun c same => by cases same⟩
      cases occurrence
      case transactionEnd => exact replace_leaves (s.finish_extends ..) unchanged carries
      all_goals exact unchanged
  | call c =>
      have carries : ∀ c' : CallSection, c.Advances occurrence.event.Pushes occurrence.turning c' →
          (call c).Continues occurrence.turning (call c') ∧
            (call c').Latched fun e => waits e ∧ e ≠ occurrence.event := by
        intro c' a
        refine ⟨.call ⟨a.shared, a.kind, a.stack, a.misc, a.terms, .inr trivial, a.scenario,
          a.body⟩ ?_, ?_⟩
        · exact (latched c rfl).keeps awaited a.pushed
        · rintro _ ⟨⟩
          exact (latched c rfl).react awaited a.pushed
      cases occurrence
      case contextEntry => exact replace_leaves c.enterChild_advances unchanged carries
      case contextExit => exact replace_leaves (c.exitChild_advances ..) unchanged carries
      case contextReEntry => exact within_leaves (c.reEnter_advances ..) carries
      case opcodeEnd => exact replace_leaves (c.finishOpcode_advances _) unchanged carries
      case rollback => exact within_leaves (c.rollBack_advances ..) carries
      case transactionClosed => exact within_leaves c.close_advances carries
      case transactionEnd => exact unchanged

end Section

/-! ## Drivers -/

namespace Tracer

/-- **A tracer whose calls are all latched.** -/
structure Latched (t : Tracer) : Prop where
  seated : t.Seated
  latched : ∀ (id : Nat) (s : Section), t.sections[id]? = some s →
    s.Latched fun e => id ∈ t.agenda.waiting e

/-- **A tracer in which every section of an earlier one is continued.** -/
structure Continues (turning : Scenario → Bool) (start t : Tracer) : Prop extends Latched t where
  continues : ∀ (id : Nat) (s : Section), start.sections[id]? = some s →
    ∃ s', t.sections[id]? = some s' ∧ s.Continues turning s'

variable {chain : Chain} {turning : Scenario → Bool} {start t t' : Tracer}

theorem latched_empty : Latched {} where
  seated := seated_empty
  latched id s found := absurd found (by simp [Array.empty])

theorem Latched.continues (latched : t.Latched) (turning : Scenario → Bool) :
    t.Continues turning t where
  toLatched := latched
  continues _ s found := ⟨s, found, .refl s⟩

theorem latched_regime (chain : Chain) (turning : Scenario → Bool) :
    Regime chain (fun occurrence => occurrence.turning = turning) (fun s waits => s.Latched waits)
      fun s s' => s.Continues turning s' where
  fewer := fun latched fewer => Section.Latched.mono latched fewer
  refl := .refl
  reacts := by
    rintro occurrence rfl setting s waits latched awaited
    exact Section.react_continues latched chain setting awaited

namespace Continues

theorem fire_leaves (continues : start.Continues turning t) {occurrence : Occurrence}
    (turns : occurrence.turning = turning) :
    Leaves (fire chain occurrence t) (start.Continues turning) := by
  have seated := continues.seated
  have latched := (latched_regime chain turning).fire_leaves turns (seated.nodup _)
    continues.latched
  refine ((seated.fire_leaves chain occurrence).and latched).mono ?_
  rintro t' ⟨stayed, fired⟩
  refine ⟨⟨(seated.onward.fired stayed).seated, fun id s' found => ?_⟩, fun id s found => ?_⟩
  · have inside : id < t.sections.size := fired.size ▸ (Array.getElem?_eq_some_iff.1 found).1
    obtain ⟨s'', there, -, latched', -⟩ := fired.each id _ (Array.getElem?_eq_getElem inside)
    obtain rfl := Option.some.inj (there.symm.trans found)
    exact latched'
  · obtain ⟨s', found', continued⟩ := continues.continues id s found
    obtain ⟨s'', found'', continued', -⟩ := fired.each id s' found'
    exact ⟨s'', found'', continued.trans continued'⟩

theorem relax (continues : start.Continues turning t)
    (waiting : ∀ e, (t'.agenda.waiting e).Sublist (t.agenda.waiting e))
    (sections : t'.sections = t.sections) (stamp : t.stamp ≤ t'.stamp) :
    start.Continues turning t' := by
  refine ⟨⟨(continues.seated.onward.relax waiting sections stamp).seated, ?_⟩, ?_⟩
  · rw [sections]
    exact fun id s found => (continues.latched id s found).mono fun e h => (waiting e).subset h
  · rw [sections]
    exact continues.continues

theorem add {s : Section} {awaited : List Event} (continues : start.Continues turning t)
    (agenda : t'.agenda = t.agenda) (sections : t'.sections = t.sections)
    (stamp : t.stamp < t'.stamp) (created : s.Created t'.stamp awaited) :
    start.Continues turning { t' with
      sections := t'.sections.push s
      agenda := t'.agenda.scheduleAll awaited t'.sections.size } := by
  have seated := continues.seated
  have waiting : ∀ {e id}, id ∈ (t'.agenda.scheduleAll awaited t'.sections.size).waiting e →
      id ∈ t.agenda.waiting e ∨ e ∈ awaited ∧ id = t.sections.size := by
    intro e id h
    rw [Agenda.waiting_scheduleAll created.nodup, agenda, sections] at h
    rcases List.mem_append.1 h with old | new
    · exact .inl old
    · split at new
      · rename_i listed
        exact .inr ⟨listed, List.mem_singleton.1 new⟩
      · cases new
  refine ⟨⟨(seated.onward.add agenda sections stamp created).seated, fun id s' found => ?_⟩,
    fun id s' found => ?_⟩
  · rw [Array.getElem?_push, sections] at found
    split at found
    · rename_i new
      obtain rfl := Option.some.inj found
      refine created.latched fun e h => ?_
      rcases waiting h with old | ⟨listed, -⟩
      · exact absurd (seated.inside e id old) (new ▸ Nat.lt_irrefl _)
      · exact listed
    · rename_i old
      refine (continues.latched id s' found).mono fun e h => ?_
      exact (waiting h).resolve_right fun new => old new.2
  · obtain ⟨s'', there, continued⟩ := continues.continues id s' found
    have inside : id < t.sections.size := (Array.getElem?_eq_some_iff.1 there).1
    refine ⟨s'', ?_, continued⟩
    rw [Array.getElem?_push, sections, if_neg inside.ne]
    exact there

end Continues

/-- **No operation takes back what a section shows**, be it accepted or refused. -/
theorem Latched.after (latched : t.Latched) (chain : Chain) {operation : Operation}
    (remembers : operation ≠ .startConflation) :
    t.Continues operation.turning (t.after chain operation) := by
  have keeps : Keeps chain operation.Raises (t.Continues operation.turning) :=
    { inside := fun continues => continues.seated.inside
      fire := fun continues raises => continues.fire_leaves raises.turning_eq
      relax := Continues.relax
      add := fun _ => Continues.add }
  exact keeps.after remembers (latched.continues _)

/-- **Under any driver, calls are latched.** -/
theorem latched_drive (chain : Chain) (operations : List Operation) :
    (drive chain operations).Latched := by
  refine drive_of_after latched_empty (fun t operation latched => ?_) operations
  by_cases forgets : operation = .startConflation
  · subst forgets
    exact latched_empty
  · exact (latched.after chain forgets).toLatched

/-- What a driver may make of a tracer whose calls are latched. -/
theorem Latched.foldl_after (latched : t.Latched) (chain : Chain) {later : List Operation}
    (remembers : .startConflation ∉ later) {id : Nat} {s : Section}
    (found : t.sections[id]? = some s) :
    ∃ s', (later.foldl (Tracer.after chain) t).sections[id]? = some s' ∧
      s.Extends (Relation.ReflTransGen Scenario.Refines) s' := by
  have one : ∀ {s s' : Section}, s.Extends (Relation.ReflGen Scenario.Refines) s' →
      s.Extends (Relation.ReflTransGen Scenario.Refines) s' :=
    fun h => h.mono fun _ _ => Relation.ReflGen.to_reflTransGen
  induction later generalizing t s with
  | nil =>
      have unchanged : s.Continues (fun _ => false) s := .refl s
      exact ⟨s, found, one unchanged.extends⟩
  | cons operation later ih =>
      obtain ⟨first, rest⟩ := not_or.1 (List.mem_cons.not.1 remembers)
      have continues := latched.after chain (Ne.symm first)
      obtain ⟨s', found', continued⟩ := continues.continues id s found
      obtain ⟨s'', found'', extended⟩ := ih continues.toLatched rest found'
      exact ⟨s'', found'', (one continued.extends).trans .trans extended⟩

/-- **The trace is only appended to.** Whatever a driver has announced so far, and whatever it
announces next, accepted or refused, every section is still there, and the rows that it showed are
the first of those that it shows now.  Only two rows of a call may differ: its first row, in what
has been pushed, which never changes once it is known, and its second row, which shows the
scenario.  That moves one step in the refinement order at most, and is never undefined again once
it is terminal.  The same holds of any number of further announcements, with any number of
steps. -/
theorem drive_extends (chain : Chain) (operations : List Operation) :
    let t := drive chain operations
    (∀ operation : Operation, operation ≠ .startConflation →
      ∀ (id : Nat) (s : Section), t.sections[id]? = some s →
        ∃ s', (t.after chain operation).sections[id]? = some s' ∧
          s.Extends (Relation.ReflGen Scenario.Refines) s') ∧
      ∀ later : List Operation, .startConflation ∉ later →
        ∀ (id : Nat) (s : Section), t.sections[id]? = some s →
          ∃ s', (drive chain (operations ++ later)).sections[id]? = some s' ∧
            s.Extends (Relation.ReflTransGen Scenario.Refines) s' := by
  intro t
  have latched : t.Latched := latched_drive chain operations
  constructor
  · intro operation remembers id s found
    obtain ⟨s', there, continued⟩ := (latched.after chain remembers).continues id s found
    exact ⟨s', there, continued.extends⟩
  · intro later remembers id s found
    rw [drive_append]
    exact latched.foldl_after chain remembers found

/-- A call to an account without code learns what it pushed when control returns, and is undone
later, when the context that made it fails. -/
theorem external_call_extended :
    let world := WorldState.ofList [(Script.sender, { balance := Script.gwei 1000000000 }),
      (0xc0de, { code := [0x00] })]
    let tx := Script.messageCall Script.sender 0xc0de 1
    let operations : List Operation := [.beginTransaction world tx, .enterContext {},
      .announceCall world (.make .call 0xe0a 0), .enterContext {},
      .exitContext world (.succeeded [])]
    let return_ : Operation := .reEnterContext world 1
    let later : List Operation := [return_, .exitContext world .failed, .rollBack world 1]
    let t := drive .ethereum operations
    ∃ s s' s'', t.sections[1]? = some s ∧ s.scenario? = some .externalUndefined ∧
      (t.after .ethereum return_).sections[1]? = some s' ∧
        s'.scenario? = some .externalSuccessWontRevert ∧
        s.Extends (Relation.ReflGen Scenario.Refines) s' ∧
      (drive .ethereum (operations ++ later)).sections[1]? = some s'' ∧
        s''.scenario? = some .externalSuccessWillRevert ∧
        s.Extends (Relation.ReflTransGen Scenario.Refines) s'' := by
  intro world tx operations return_ later t
  have before : t.sections[1]?.bind Section.scenario? = some .externalUndefined := by
    decide +kernel
  have returned : (t.after .ethereum return_).sections[1]?.bind Section.scenario? =
      some .externalSuccessWontRevert := by decide +kernel
  have undone : (drive .ethereum (operations ++ later)).sections[1]?.bind Section.scenario? =
      some .externalSuccessWillRevert := by decide +kernel
  have remembers : return_ ≠ .startConflation := by simp [return_]
  have remembers' : .startConflation ∉ later := by simp [later, return_]
  obtain ⟨s, found, scenario⟩ := Option.bind_eq_some_iff.1 before
  obtain ⟨step, run⟩ := drive_extends .ethereum operations
  obtain ⟨s', found', extended⟩ := step return_ remembers 1 s found
  obtain ⟨s'', found'', extended'⟩ := run later remembers' 1 s found
  rw [found'] at returned
  rw [found''] at undone
  exact ⟨s, s', s'', found, scenario, found', returned, extended, found'', undone, extended'⟩

end Tracer

end ExecutionTrace
