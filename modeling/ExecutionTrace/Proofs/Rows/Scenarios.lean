import ExecutionTrace.Proofs.Rows.Grammar

/-!
# What scenarios say about rollbacks

At the end of its transaction every call has a terminal scenario.  The scenario says that the call
is undone exactly if the context it was made from, or one of those above it, has failed.

## Main Definitions

* `Episode.scenarios_tell_rollbacks` — what the scenario of a call says

## Design Notes

A call may be answered long before one of the contexts above it fails, and calls below the same
context may have been undone by then.  While the transaction executes, `ContextTree.Tells` says of
each call what the frame of its context says, and `ContextTree.Truthful` says what the stamps of
frames mean.
-/

namespace ExecutionTrace

variable {chain : Chain}

namespace CallSection

variable {c : CallSection}

theorem Standing.isWillRevert_eq (standing : c.Standing) : c.scenario.isWillRevert = false := by
  have canRevert := standing.canRevert
  unfold CanRevert at canRevert
  cases scenario : c.scenario <;> simp [scenario, Scenario.isWillRevert] at canRevert ⊢

/-- **A call that is over is marked as undone exactly if its context has been rolled back**, unless
there is nothing to undo. -/
theorem Resolved.isWillRevert_iff (isOver : c.Resolved) {t : ContextTree} (tells : t.Tells c) :
    c.scenario.isWillRevert = true ↔ c.scenario ≠ .exception ∧ c.scenario ≠ .precompileFailure ∧
      t.hasReverted c.shared.context = true := by
  cases isOver with
  | dismissed dismissed =>
      rw [dismissed.scenario]
      exact ⟨nofun, fun h => absurd rfl h.1⟩
  | standing standing =>
      rw [standing.isWillRevert_eq, (tells.standing standing).hasReverted_eq]
      exact ⟨nofun, fun h => absurd h.2.2 Bool.false_ne_true⟩
  | undone undone =>
      have reverted := tells.undone undone
      rcases undone.scenario with marked | failed
      · refine ⟨fun _ => ⟨?_, ?_, reverted⟩, fun _ => marked⟩
        all_goals
          intro other
          rw [other] at marked
          cases marked
      · rw [failed]
        exact ⟨nofun, fun h => absurd rfl h.2.1⟩

end CallSection

/-- **Scenarios tell the truth about rollbacks.** At the end of a transaction the scenario of a call
is terminal.  It is one of those that are undone exactly if there is something to undo and the
frame of the context that the call was made from is marked as rolled back, which it is exactly if
that context or one above it has ended in failure.  The first row of the call shows what was
pushed: nothing after an exception, one after a success and zero otherwise. -/
theorem Episode.scenarios_tell_rollbacks (run : Episode chain) {c : CallSection}
    (hc : c ∈ run.calls) :
    c.scenario.isUndefined = false ∧
      (∃ f, run.closed.tracer.contexts.frame? c.shared.context = some f ∧
        (c.scenario.isWillRevert = true ↔ c.scenario ≠ .exception ∧
          c.scenario ≠ .precompileFailure ∧ f.hasReverted = true) ∧
        (f.hasReverted = true ↔ run.closed.tracer.contexts.FailedAbove c.shared.context)) ∧
      c.rows.head? = some (.stack
        { mnemonic := c.kind.mnemonic, items := c.stack, pushed? := c.scenario.pushed? }) := by
  obtain ⟨o, staged⟩ := run.staged
  obtain ⟨l, revertStamp, -, departs⟩ := staged.departs o.keepsRunning
    ⟨staged.running, o.scripted_rootLevel⟩
  have pushed : c.pushed? = c.scenario.pushed? := by
    obtain ⟨i, calledBy⟩ := exists_calledBy hc
    obtain ⟨c', rfl, -, formed⟩ := calledBy.lasting (CallSection.lasting_formed chain _ i)
      fun emerges => emerges.formed.of_aborts
    rw [c'.shut_shows.2.1, formed.pushed, c'.shut_terms.2.2.2]
  rw [departs.calls_eq staged] at hc
  obtain ⟨c', listed, rfl⟩ := List.mem_map.1 hc
  have ended := departs.ended
  have isOver := ended.resolved c' listed
  have told := isOver.isWillRevert_iff (ended.told c' listed)
  have blamed := ended.truthful.hasReverted_iff ended.wellFormed c'.shared.context
  obtain ⟨f, found⟩ := ended.made c' listed
  have marked : run.left.tracer.contexts.hasReverted c'.shared.context = f.hasReverted := by
    rw [ContextTree.hasReverted, found]
    rfl
  rw [marked] at told blamed
  obtain ⟨shared, -, -, scenario⟩ := c'.shut_terms
  refine ⟨scenario ▸ isOver.isUndefined_eq, ⟨f, ?_, scenario ▸ told, ?_⟩, ?_⟩
  · rw [departs.closed.contexts, shared]
    exact found
  · rw [departs.closed.contexts, shared]
    exact blamed
  · rw [CallSection.rows_eq, CallSection.prequel_eq, ← pushed]
    rfl

/-- After a payment to a contract has failed and the root context has failed as well, the payment is
marked as undone. -/
theorem scenarios_tell_rollbacks_of_failed_root : ∃ run : Episode .ethereum, ∃ c ∈ run.calls,
    c.scenario = .contractFailureWillRevert ∧
      ∃ f, run.closed.tracer.contexts.frame? c.shared.context = some f ∧ f.hasReverted = true ∧
        run.closed.tracer.contexts.FailedAbove c.shared.context := by
  obtain ⟨run, c, hc, failed⟩ :=
    Script.exists_call .failed .contractFailureWillRevert (by decide +kernel)
  obtain ⟨-, ⟨f, found, told, blamed⟩, -⟩ := run.scenarios_tell_rollbacks hc
  rw [failed] at told
  have reverted := (told.1 rfl).2.2
  exact ⟨run, c, hc, failed, f, found, reverted, blamed.1 reverted⟩

end ExecutionTrace
