import ExecutionTrace.Proofs.Tracer.Closing

/-!
# Sections that are not there

The only thing in a tracer that can miss a section is the handing out of an occurrence.  Whatever a
section does when an event reaches it, it never fails for want of a section.

## Main Definitions

* `Finding` — a computation that does not fail for that reason
* `Section.react_finding` — no reaction does

## Design Notes

Nothing is assumed of the arguments, so these lemmas hold under any driver.  They follow the code
step by step, and each step is covered by one lemma.
-/

namespace ExecutionTrace

namespace Tracer

theorem successBit_finds (top : Word) : Finds (successBit top) := by
  unfold successBit
  split
  · trivial
  split
  · trivial
  · exact fun h => h

theorem returnedChild_finds (contexts : ContextTree) (frame : Frame) :
    Finds (returnedChild contexts frame) := by
  unfold returnedChild
  cases frame.lastChild? with
  | none => exact fun h => h
  | some id =>
      refine (contexts.get_finds id).bind fun child => ?_
      cases child.outcome? with
      | some outcome => exact trivial
      | none => exact fun h => h

end Tracer

/-! ## Computations -/

/-- **A computation that does not fail for want of a section**, whatever it starts from. -/
def Finding (x : EStateM Violation σ α) : Prop :=
  ∀ s, Yields (x s) (fun _ _ => True) fun v => ¬v.MissesSection

namespace Finding

variable {x : EStateM Violation σ α} {rest : α → EStateM Violation σ β}

theorem bind (hx : Finding x) (hrest : ∀ a, Finding (rest a)) : Finding (x >>= rest) := fun s =>
  Ends.bind (hx s) fun a s' _ => hrest a s'

theorem pure (a : α) : Finding (Pure.pure a : EStateM Violation σ α) := fun _ => trivial

theorem get_bind {rest : σ → EStateM Violation σ β} (hrest : ∀ s, Finding (rest s)) :
    Finding (MonadState.get >>= rest) := fun s => hrest s s

theorem set_bind {s' : σ} {rest : PUnit → EStateM Violation σ β} (hrest : Finding (rest ⟨⟩)) :
    Finding (MonadStateOf.set s' >>= rest) := fun _ => hrest s'

theorem modify (change : σ → σ) : Finding (modify change : EStateM Violation σ PUnit) :=
  fun _ => trivial

theorem throw {v : Violation} (other : ¬v.MissesSection) :
    Finding (MonadExcept.throw v : EStateM Violation σ α) := fun _ => other

theorem ofExcept_bind {r : Except Violation α} (found : Finds r) (hrest : ∀ a, Finding (rest a)) :
    Finding (MonadExcept.ofExcept r >>= rest) := fun s =>
  Ends.ofExcept_bind found fun a _ => hrest a s

end Finding

/-! ## Reactions -/

namespace CallSection

variable (c : CallSection)

theorem advance_finds (target : Scenario) : Finds (c.advance target) := by
  unfold advance
  split
  · trivial
  · exact fun h => h

theorem captured_finds (parties? : Option Parties) (event : Event) :
    Finds (captured parties? event) := by
  unfold captured
  cases parties? with
  | some parties => exact trivial
  | none => exact fun h => h

theorem enterChild_finds : Finds c.enterChild := by
  unfold enterChild
  split
  · refine (captured_finds ..).bind fun before => ?_
    exact (Finds.of_grants (c.transfer_grants before)).bind fun _ => trivial
  · refine (captured_finds ..).bind fun before => ?_
    exact (Finds.of_grants (c.transfer_grants before)).bind fun _ => trivial
  · exact fun h => h

theorem exitChild_finds (chain : Chain) (setting : Setting) (world : WorldState) (child : Nat) :
    Finds (c.exitChild chain setting world child) := by
  unfold exitChild
  split
  · trivial
  · exact fun h => h

theorem finishOpcode_finds (pushed? : Option Word) : Finds (c.finishOpcode pushed?) := by
  unfold finishOpcode
  split
  · trivial
  · exact fun h => h

theorem advanceTo_finding (target : Scenario) : Finding (advanceTo target) :=
  .get_bind fun c => .ofExcept_bind (c.advance_finds target) fun _ _ => trivial

theorem advanceToWillRevert_finding (event : Event) : Finding (advanceToWillRevert event) := by
  refine .get_bind fun c => ?_
  cases c.scenario.willRevert? with
  | some target => exact advanceTo_finding target
  | none => exact .throw fun h => h

theorem resolveExternal_finding (before reEntry : Parties) (child : Frame)
    (outcome : ContextOutcome) : Finding (resolveExternal before reEntry child outcome) := by
  unfold resolveExternal
  split
  · exact (advanceTo_finding _).bind fun _ => .get_bind fun _ => .modify _
  · exact Finding.bind (.throw fun h => h) fun _ =>
      (advanceTo_finding _).bind fun _ => .get_bind fun _ => .modify _

theorem resolvePrecompile_finding (before reEntry : Parties) (child : Frame)
    (outcome : ContextOutcome) : Finding (resolvePrecompile before reEntry child outcome) :=
  (advanceTo_finding _).bind fun _ => .get_bind fun _ =>
    Finding.bind (.modify _) fun _ => .modify _

theorem resolveContract_finding (setting : Setting) (before : Parties) (child : Frame)
    (outcome : ContextOutcome) (event : Event) :
    Finding (resolveContract setting before child outcome event) := by
  unfold resolveContract
  split
  · exact advanceTo_finding _
  · exact (advanceTo_finding _).bind fun _ => .get_bind fun _ =>
      .ofExcept_bind (captured_finds ..) fun _ => .modify _

theorem reEnter_finding (chain : Chain) (setting : Setting) (world : WorldState) (child : Frame)
    (outcome : ContextOutcome) : Finding (reEnter chain setting world child outcome) := by
  unfold reEnter
  refine .get_bind fun c => .ofExcept_bind (captured_finds ..) fun before => .set_bind ?_
  generalize c.scenario = scenario
  cases scenario
  case externalUndefined => exact resolveExternal_finding _ _ _ _
  case precompileUndefined => exact resolvePrecompile_finding _ _ _ _
  case contractUndefined => exact resolveContract_finding _ _ _ _ _
  all_goals exact .throw fun h => h

theorem rollBack_finding (chain : Chain) (setting : Setting) (world : WorldState) (frame : Frame) :
    Finding (rollBack chain setting world frame) := by
  unfold rollBack
  refine .get_bind fun c => .set_bind (.ofExcept_bind (captured_finds ..) fun before => ?_)
  have undoes : ∀ (event : Event) (parties? : Option Parties) (shown : Parties → List AccountRow),
      Finding (do
        advanceToWillRevert event
        let parties ← ofExcept (captured parties? event)
        showRows (shown parties) : CallReaction) := fun event parties? shown =>
    (advanceToWillRevert_finding event).bind fun _ =>
      .ofExcept_bind (captured_finds ..) fun _ => .modify _
  generalize c.scenario = scenario
  cases scenario
  case precompileFailure => exact .pure _
  case abortWontRevert | externalSuccessWontRevert | contractFailureWontRevert |
      contractSuccessWontRevert | precompileSuccessWontRevert => exact undoes _ _ _
  all_goals exact .throw fun h => h

theorem close_finding : Finding close := by
  intro c
  unfold close
  refine Ends.get_bind ?_
  dsimp only
  split
  · exact fun h => h
  split
  · refine Ends.modify_bind ?_
    cases c.closing? with
    | some row => exact trivial
    | none => exact fun h => h
  · cases c.closing? with
    | some row => exact trivial
    | none => exact fun h => h

end CallSection

namespace LaunchSection

theorem enterRoot_finds (setting : Setting) (s : LaunchSection) : Finds (s.enterRoot setting) := by
  unfold enterRoot
  refine setting.contexts.currentFrame_finds.bind fun root => ?_
  split
  · exact fun h => h
  · trivial

theorem finish_finding (setting : Setting) (outcome : TransactionOutcome) :
    Finding (finish setting outcome) := by
  unfold finish
  refine .get_bind fun s => .ofExcept_bind (.transaction setting) fun tx => ?_
  cases s.root? with
  | none => exact .throw fun h => h
  | some root =>
      refine .set_bind (Finding.bind (.modify _) fun _ => Finding.bind (.modify _) fun _ => ?_)
      split
      · exact .modify _
      · exact .ofExcept_bind (setting.contexts.get_finds _) fun _ =>
          Finding.bind (.modify _) fun _ => .modify _

end LaunchSection

theorem SettlementSection.finish_finds (chain : Chain) (setting : Setting) (world : WorldState)
    (outcome : TransactionOutcome) (s : SettlementSection) :
    Finds (s.finish chain setting world outcome) := by
  unfold finish
  split
  · refine (Finds.transaction setting).bind fun tx => ?_
    refine Finds.bind ?_ fun _ => .pure _
    refine (Finds.of_grants (settleSender_grants ..)).bind fun _ => ?_
    refine (Finds.of_grants (settleRecipient_grants ..)).bind fun _ => ?_
    exact (Finds.of_grants (settleCoinbase_grants ..)).bind fun _ => .pure _
  · exact fun h => h

namespace Section

theorem within_finding {part : σ} {wrap : σ → Section} {change : EStateM Violation σ Unit}
    (finding : Finding change) :
    Yields (within wrap part change) (fun _ _ => True) fun v => ¬v.MissesSection := by
  have found := finding part
  unfold within
  cases result : change part <;> rw [result] at found <;> exact found

theorem replace_finding {part : σ} {wrap : σ → Section} {result : Except Violation σ}
    (found : Finds result) :
    Yields (replace wrap part result) (fun _ _ => True) fun v => ¬v.MissesSection := by
  unfold replace
  cases result <;> exact found

/-- **Whatever reaches a section, it does not fail for want of a section.** -/
theorem react_finding (chain : Chain) (setting : Setting) (occurrence : Occurrence) :
    Finding (react chain setting occurrence) := by
  intro s
  cases s with
  | launch s =>
      cases occurrence
      case contextEntry => exact replace_finding (s.enterRoot_finds setting)
      case transactionEnd => exact within_finding (LaunchSection.finish_finding _ _)
      all_goals exact fun h => h
  | settlement s =>
      cases occurrence
      case transactionEnd => exact replace_finding (s.finish_finds ..)
      all_goals exact fun h => h
  | call c =>
      cases occurrence
      case contextEntry => exact replace_finding c.enterChild_finds
      case contextExit => exact replace_finding (c.exitChild_finds ..)
      case contextReEntry => exact within_finding (CallSection.reEnter_finding _ _ _ _ _)
      case opcodeEnd => exact replace_finding (c.finishOpcode_finds _)
      case rollback => exact within_finding (CallSection.rollBack_finding _ _ _ _)
      case transactionClosed => exact within_finding CallSection.close_finding
      case transactionEnd => exact fun h => h

end Section

end ExecutionTrace
