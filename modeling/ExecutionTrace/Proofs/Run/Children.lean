import ExecutionTrace.Proofs.Context.Ending
import ExecutionTrace.Proofs.Rows.Grammar

/-!
# Calls and the contexts that they spawn

A call that is neither exceptional nor aborts spawns a context, and its rows say which one.  A call
to a contract settles that when it is announced, before the context exists; a call to a precompile
does so when the context has ended.

## Main Definitions

* `CallSection.spawns` — the calls that spawn a context
* `CallSection.HasChild` — a call and the frame of the context that it spawned
* `CallSection.Names`, `CallSection.Reports` — what a call is going to say about that context in its
  last rows, and what these rows say
* `CallSection.SameCall`, `CallSection.Persists` — later stages of a call
* `Tracer.Predicts` — what a call announced now is going to say
-/

namespace ExecutionTrace

/-- The call went to a contract, whatever became of it. -/
def Scenario.isContractCall : Scenario → Bool
  | contractUndefined | contractSuccessWontRevert | contractSuccessWillRevert
  | contractFailureWontRevert | contractFailureWillRevert => true
  | _ => false

/-- A precompile hands back its data from the context that it ran in. -/
theorem PrecompileRun.context_eq_of_mem_rows {run : PrecompileRun} {child : Nat}
    {outcome : ContextOutcome} {context : Nat} {data : Bytes}
    (listed : .context (.provideReturnData context data) ∈ (run.resolve child outcome).rows) :
    context = child := by
  unfold PrecompileRun.rows PrecompileRun.resolve at listed
  dsimp only at listed
  split at listed
  · have listed : context = child ∧ data = outcome.returnData := by simpa using listed
    exact listed.1
  · have listed : context = child ∧ data = outcome.returnData := by simpa using listed
    exact listed.1

namespace CallSection

/-- **A call spawns a context** unless it is exceptional or aborts. -/
def spawns (c : CallSection) : Bool :=
  c.scenario != .exception && !c.scenario.isAbort

/-- **A call and the frame of the context that it spawned.** -/
structure HasChild (t : ContextTree) (c : CallSection) (child : Frame) : Prop where
  found : t.frame? child.id = some child
  parent : child.parent? = some c.shared.context
  caller : child.entry.caller = c.caller
  code : child.entry.codeAddress = c.callee
  deeper : ∃ f, t.frame? c.shared.context = some f ∧ child.depth = f.depth + 1
  bounded : child.depth ≤ maxCallDepth
  /-- The parties of a call to a contract have been captured once its context has ended. -/
  captured : c.scenario.isContractCall = true → c.childExit?.isSome = child.outcome?.isSome

/-- **The rows that a call has yet to append** are about the context that it spawned. -/
structure Names (child : Nat) (c : CallSection) : Prop where
  shown : c.body = c.accountRows.map .account
  contract : c.scenario.isContractCall = true → c.closing? = some (.initializeChild child)
  precompile : c.scenario.isPrecompileCall = true →
    (∃ data, c.closing? = some (.updateReturnData c.shared.context child data)) ∧
      ∀ context data, .context (.provideReturnData context data) ∈
        (c.run?.map PrecompileRun.rows).getD [] → context = child

/-- **The rows of a call** are about the context that it spawned. -/
structure Reports (child : Nat) (c : CallSection) : Prop where
  contract : c.scenario.isContractCall = true →
    c.rows.getLast? = some (.context (.initializeChild child))
  precompile : c.scenario.isPrecompileCall = true →
    (∃ data, c.rows.getLast? =
      some (.context (.updateReturnData c.shared.context child data))) ∧
      ∀ context data, .context (.provideReturnData context data) ∈ c.rows → context = child

variable {c c' : CallSection} {t u : ContextTree} {child : Nat}

/-! ## Stages of one call -/

/-- **A later stage of a call**, which went to the same kind of callee. -/
structure SameCall (c c' : CallSection) : Prop where
  shared : c'.shared = c.shared
  caller : c'.caller = c.caller
  callee : c'.callee = c.callee
  spawns : c'.spawns = c.spawns
  contract : c'.scenario.isContractCall = c.scenario.isContractCall

/-- **A later stage of a call that knows no more about its context** than before. -/
structure Persists (c c' : CallSection) : Prop extends SameCall c c' where
  captured : c'.childExit? = c.childExit?
  names : ∀ child, c.Names child → c'.Names child

theorem SameCall.trans {c'' : CallSection} (h : c.SameCall c') (h' : c'.SameCall c'') :
    c.SameCall c'' :=
  ⟨h'.shared.trans h.shared, h'.caller.trans h.caller, h'.callee.trans h.callee,
    h'.spawns.trans h.spawns, h'.contract.trans h.contract⟩

theorem Persists.refl (c : CallSection) : c.Persists c :=
  ⟨⟨rfl, rfl, rfl, rfl, rfl⟩, rfl, fun _ names => names⟩

/-- A rollback of its context changes neither what a call went to nor what it is going to show. -/
theorem persists_reverted (c : CallSection) (rolledBack : Parties) (incarnations : Incarnations)
    (revertStamp : Nat) : c.Persists (c.reverted rolledBack incarnations revertStamp) := by
  have moved : (c.reverted rolledBack incarnations revertStamp).scenario =
      c.scenario.willRevert?.getD c.scenario := rfl
  have contract : (c.scenario.willRevert?.getD c.scenario).isContractCall =
      c.scenario.isContractCall := by
    cases c.scenario <;> rfl
  have precompile : (c.scenario.willRevert?.getD c.scenario).isPrecompileCall =
      c.scenario.isPrecompileCall := by
    cases c.scenario <;> rfl
  refine ⟨⟨rfl, rfl, rfl, ?_, ?_⟩, rfl, fun child names =>
    ⟨body_append names.shown (c.reverted_shows ..).2.2.2, ?_, ?_⟩⟩
  · unfold spawns
    rw [moved]
    cases c.scenario <;> rfl
  · rw [moved, contract]
  · rw [moved, contract]
    exact names.contract
  · rw [moved, precompile]
    exact names.precompile

theorem persists_fallBack (c : CallSection) (chain : Chain) (world : WorldState)
    (incarnations : Incarnations) (revertStamp : Nat) :
    c.Persists (c.fallBack chain world incarnations revertStamp) := by
  unfold fallBack heed
  split
  · exact c.persists_reverted _ _ _
  · exact .refl c

theorem Pending.closing_eq (pending : c.Pending child)
    (scenario : c.scenario = .contractUndefined) : c.closing? = some (.initializeChild child) := by
  rcases pending.course with ⟨other, -⟩ | ⟨other, -⟩ | ⟨-, -, closing⟩
  · simp [scenario] at other
  · simp [scenario] at other
  · exact closing

/-- A call to a contract has captured its parties once its context is about to terminate. -/
theorem Pending.sameCall_parting (pending : c.Pending child)
    (scenario : c.scenario = .contractUndefined) (chain : Chain) (world : WorldState)
    (incarnations : Incarnations) :
    c.SameCall (c.parting chain world incarnations child) ∧
      (c.parting chain world incarnations child).childExit?.isSome = true ∧
      ∀ id, c.Names id → (c.parting chain world incarnations child).Names id := by
  obtain ⟨-, hasLeft⟩ := pending.parting chain world incarnations
  refine ⟨?_, ?_, ?_⟩
  · unfold CallSection.parting heed
    split <;> exact ⟨rfl, rfl, rfl, rfl, rfl⟩
  · simpa [CallSection.hasLeft, scenario] using hasLeft
  · intro id names
    unfold CallSection.parting heed
    split
    · exact ⟨names.shown, names.contract, names.precompile⟩
    · exact names

/-! ## Calls that get control back -/

section Returning

variable {before reEntry : Parties} {incarnations : Incarnations} {frame : Frame}
  {outcome : ContextOutcome}

/-- Getting control back leaves the call the same. -/
theorem sameCall_returned (pending : c.scenario = .externalUndefined ∨
      c.scenario = .precompileUndefined ∨ c.scenario = .contractUndefined) :
    c.SameCall (c.returned before reEntry incarnations frame outcome) := by
  refine ⟨rfl, rfl, rfl, ?_, ?_⟩
  · rw [spawns, spawns, scenario_returned]
    rcases pending with scenario | scenario | scenario
    all_goals
      rw [scenario]
      cases outcome.success <;> rfl
  · rw [scenario_returned]
    rcases pending with scenario | scenario | scenario
    all_goals
      rw [scenario]
      cases outcome.success <;> rfl

/-- The answer to a call to a contract leaves its last row as it was. -/
theorem persists_answered (scenario : c.scenario = .contractUndefined) (chain : Chain)
    (world : WorldState) (incarnations : Incarnations) (frame : Frame) (outcome : ContextOutcome) :
    c.Persists (c.answered chain world incarnations frame outcome) := by
  cases latched : c.before? with
  | none =>
      rw [answered, latched]
      exact .refl c
  | some before =>
      rw [answered_eq_of_before latched]
      refine ⟨sameCall_returned (.inr (.inr scenario)), rfl, fun child names => ?_⟩
      refine ⟨body_append names.shown (c.returned_shows ..).2.2.2, fun _ => ?_,
        fun precompile => ?_⟩
      · rw [closing_returned (by simp [scenario])]
        exact names.contract (by rw [scenario]; rfl)
      · rw [scenario_returned, scenario] at precompile
        cases success : outcome.success <;> rw [success] at precompile <;> cases precompile

/-- A call to an account without code names no context. -/
theorem Names.returned_external (scenario : c.scenario = .externalUndefined)
    (shown : (c.returned before reEntry incarnations frame outcome).body =
      (c.returned before reEntry incarnations frame outcome).accountRows.map .account) :
    (c.returned before reEntry incarnations frame outcome).Names child := by
  have moved : (c.returned before reEntry incarnations frame outcome).scenario =
      .externalSuccessWontRevert := by
    rw [scenario_returned, scenario]
    rfl
  refine ⟨shown, fun contract => ?_, fun precompile => ?_⟩
  · rw [moved] at contract
    cases contract
  · rw [moved] at precompile
    cases precompile

/-- A call to a precompile names the context that it has got control back from. -/
theorem Names.returned_precompile (scenario : c.scenario = .precompileUndefined)
    (shown : (c.returned before reEntry incarnations frame outcome).body =
      (c.returned before reEntry incarnations frame outcome).accountRows.map .account) :
    (c.returned before reEntry incarnations frame outcome).Names frame.id := by
  refine ⟨shown, fun contract => ?_, fun _ => ⟨⟨outcome.returnData, if_pos scenario⟩, ?_⟩⟩
  · have contract : (returnScenario c.scenario outcome.success).isContractCall = true := contract
    rw [scenario] at contract
    cases success : outcome.success <;> rw [success] at contract <;> cases contract
  · intro context data listed
    have ran : (c.returned before reEntry incarnations frame outcome).run? =
        c.run?.map fun run => run.resolve frame.id outcome := if_pos scenario
    rw [ran] at listed
    cases run : c.run? with
    | none => simp [run] at listed
    | some run' =>
        rw [run] at listed
        exact PrecompileRun.context_eq_of_mem_rows listed

end Returning

/-! ## New calls -/

section Emerging

variable {chain : Chain} {setting : Setting} {world : WorldState} {frame : Frame} {i : Invocation}
  {before : Parties}

theorem Announced.spawns_eq (announced : c.Announced chain setting world frame i)
    (quiet : i.exceptions.any = false) (proceeds : i.aborts.any = false) : c.spawns = true := by
  unfold spawns
  rcases announced.course.scenario_of_proceeds quiet proceeds with scenario | scenario | scenario
  all_goals
    rw [scenario]
    rfl

/-- **The context that a call enters** is the one that it spawns. -/
theorem Announced.hasChild (announced : c.Announced chain setting world frame i)
    (quiet : i.exceptions.any = false) (proceeds : i.aborts.any = false)
    (current : t.current? = some frame.id) (found : t.frame? frame.id = some frame) :
    c.HasChild (t.enter c.childEntry) (t.newFrame c.childEntry) := by
  have depth := ContextTree.depth_newFrame c.childEntry current found
  obtain ⟨above, found', birth, -⟩ := ContextTree.exists_frame_enter c.childEntry found
  have same : above.depth = frame.depth := congrArg (fun b => b.2.2.1) birth
  refine ⟨?_, ?_, rfl, rfl, ⟨above, ?_, ?_⟩, ?_, fun _ => ?_⟩
  · rw [ContextTree.frame?_enter]
    exact if_pos rfl
  · rw [announced.context]
    exact current
  · rw [announced.context]
    exact found'
  · rw [depth, same]
  · rw [depth]
    exact (announced.parsed quiet).shallow proceeds
  · rw [announced.childExit]
    rfl

theorem Enters.sameCall (enters : c.Enters before c') : c.SameCall c' := by
  obtain ⟨rows, same⟩ := enters.eq
  rw [same]
  exact ⟨rfl, rfl, rfl, rfl, rfl⟩

/-- **A call to a contract** has predicted which context it is going to spawn. -/
theorem Announced.names_entered (announced : c.Announced chain setting world frame i)
    (scenario : c.scenario = .contractUndefined) (enters : c.Enters before c') :
    c'.Names setting.contexts.nextId := by
  obtain ⟨-, -, closing, -⟩ := announced.course.of_contract scenario
  obtain ⟨rows, same⟩ := enters.eq
  refine ⟨enters.body_eq announced.body, fun _ => ?_, fun precompile => ?_⟩
  · rw [same]
    exact closing
  · rw [enters.scenario_eq, scenario] at precompile
    cases precompile

/-- **A call whose context has ended by itself** says in its last rows which one that was. -/
theorem Announced.names_immediate (announced : c.Announced chain setting world frame i)
    (quiet : i.exceptions.any = false) (proceeds : i.aborts.any = false)
    (other : c.scenario ≠ .contractUndefined) (enters : c.Enters before c') (world' : WorldState)
    (incarnations : Incarnations) (frame' : Frame) (outcome : ContextOutcome) :
    c.SameCall (c'.answered chain world' incarnations frame' outcome) ∧
      (c'.answered chain world' incarnations frame' outcome).Names frame'.id ∧
      c.scenario.isContractCall = false := by
  obtain ⟨latched, same⟩ : c'.before? = c.before? ∧ c'.scenario = c.scenario := by
    obtain ⟨rows, same⟩ := enters.eq
    rw [same]
    exact ⟨rfl, rfl⟩
  rw [(announced.parsed quiet).before] at latched
  rw [answered_eq_of_before latched]
  have shown := fun reEntry => body_append (enters.body_eq announced.body)
    (c'.returned_shows (.canonical chain world setting.incarnations c.caller c.callee) reEntry
      incarnations frame' outcome).2.2.2
  -- Only a call to a precompile has anything to name; no contract is finished at once.
  rcases announced.course.scenario_of_proceeds quiet proceeds with found | found | found
  · have scenario := same.trans found
    refine ⟨enters.sameCall.trans (sameCall_returned (.inl scenario)),
      .returned_external scenario (shown _), ?_⟩
    rw [found]
    rfl
  · have scenario := same.trans found
    refine ⟨enters.sameCall.trans (sameCall_returned (.inr (.inl scenario))),
      .returned_precompile scenario (shown _), ?_⟩
    rw [found]
    rfl
  · exact absurd found other

end Emerging

/-- A later stage of a call spawned the same context. -/
theorem HasChild.later {frame frame' : Frame} (spawned : c.HasChild t frame)
    (sameCall : c.SameCall c') (remembers : t.Remembers u)
    (found : u.frame? frame.id = some frame') (same : frame'.birth = frame.birth)
    (captured : c.scenario.isContractCall = true →
      c'.childExit?.isSome = frame'.outcome?.isSome) : c'.HasChild u frame' := by
  have number : frame'.id = frame.id := congrArg (fun b => b.1) same
  have parent : frame'.parent? = frame.parent? := congrArg (fun b => b.2.1) same
  have depth : frame'.depth = frame.depth := congrArg (fun b => b.2.2.1) same
  have entry : frame'.entry = frame.entry := congrArg (fun b => b.2.2.2) same
  obtain ⟨above, foundAbove, deeper⟩ := spawned.deeper
  obtain ⟨above', foundAbove', sameAbove⟩ := remembers _ _ foundAbove
  have depthAbove : above'.depth = above.depth := congrArg (fun b => b.2.2.1) sameAbove
  refine ⟨number ▸ found, ?_, ?_, ?_, ⟨above', ?_, ?_⟩, ?_, ?_⟩
  · rw [parent, spawned.parent, sameCall.shared]
  · rw [entry, spawned.caller, sameCall.caller]
  · rw [entry, spawned.code, sameCall.callee]
  · rw [sameCall.shared]
    exact foundAbove'
  · rw [depth, deeper, depthAbove]
  · rw [depth]
    exact spawned.bounded
  · rw [sameCall.contract]
    exact captured

/-! ## The end of the transaction -/

/-- The end of the transaction changes nothing but the rows of a call. -/
theorem sameCall_shut (c : CallSection) :
    c.SameCall c.shut ∧ c.shut.childExit? = c.childExit? := by
  obtain ⟨body, closing, eq, -⟩ := c.shut_cases
  rw [eq]
  exact ⟨⟨rfl, rfl, rfl, rfl, rfl⟩, rfl⟩

/-- **What a call is going to say about its context**, it says when its transaction is over. -/
theorem Names.reports (names : c.Names child) : c.shut.Reports child := by
  obtain ⟨shared, -, -, scenario⟩ := c.shut_terms
  have last : ∀ {row}, c.closing? = some row → c.shut.rows.getLast? = some (.context row) := by
    intro row closing
    rw [rows_eq, body_shut closing, ← List.append_assoc]
    exact List.getLast?_concat
  constructor
  · intro contract
    rw [scenario] at contract
    exact last (names.contract contract)
  · intro precompile
    rw [scenario] at precompile
    obtain ⟨⟨data, closing⟩, provided⟩ := names.precompile precompile
    refine ⟨⟨data, ?_⟩, fun context data' listed => ?_⟩
    · rw [shared]
      exact last closing
    · rw [rows_eq, prequel_eq, body_shut closing, if_pos precompile, names.shown] at listed
      refine provided context data' ?_
      simpa [opening] using listed

end CallSection

/-! ## Predictions -/

namespace Tracer

variable {chain : Chain}

/-- **A call to a contract names a context that does not exist yet**: when it is announced, its
last row is going to be about the next context. -/
def Predicts (chain : Chain) (t : Tracer) : Prop :=
  ∀ world i id t', announceCall chain world i t = .ok id t' →
    t'.contexts = t.contexts ∧ t.contexts.frame? t.contexts.nextId = none ∧
      ∃ c, t'.sections[id]? = some (.call c) ∧
        (c.scenario.isContractCall = true →
          c.closing? = some (.initializeChild t.contexts.nextId))

theorem predicts (chain : Chain) (t : Tracer) : t.Predicts chain := by
  intro world i id t' accepted
  have announced := (Tracing.announceCall_announced chain world i t).value accepted
  obtain ⟨contexts, frame, c, found, announced⟩ := announced
  refine ⟨contexts, ContextTree.frame?_eq_none (Nat.le_refl _), c, found, fun contract => ?_⟩
  -- Of the ways a call may go, one leads to a contract.
  cases announced.course with
  | contract _ _ _ _ _ closing => exact contexts ▸ closing
  | exceptional _ scenario => simp [scenario, Scenario.isContractCall] at contract
  | aborting _ _ scenario => simp [scenario, Scenario.isContractCall] at contract
  | external _ _ _ scenario => simp [scenario, Scenario.isContractCall] at contract
  | precompile _ _ _ _ scenario => simp [scenario, Scenario.isContractCall] at contract

end Tracer

end ExecutionTrace
