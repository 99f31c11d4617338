import ExecutionTrace.Proofs.Run.Levels
import ExecutionTrace.Proofs.Tracer.Closing

/-!
# Ending a transaction

What the end of a transaction leads to: no transaction is in progress, and nobody waits for
anything.  A transaction whose root context is active cannot be ended.

## Main Definitions

* `Transaction.settle?` — the world after a transaction that ran no code
* `Skipping.Closed`, `Ended.Closed` — what the end of a transaction leads to
* `Skipping.endTransaction_yields`, `Running.endTransaction_yields`,
  `Ended.endTransaction_yields` — the end of a transaction, by what it is doing
-/

namespace ExecutionTrace

/-- **The world in which a transaction that ran no code is over**, unless its sender cannot pay for
it. -/
def Transaction.settle? (tx : Transaction) (gasUsed : UInt64) (world : WorldState) :
    Option WorldState :=
  (world.debit? tx.sender (Word.saturatingAdd tx.value (tx.gasCost gasUsed))).map fun paid =>
    let moved := (paid.raiseNonce tx.sender).credit tx.recipient tx.value
    let created := if tx.isDeployment then moved.setNonce tx.recipient 1 else moved
    created.credit tx.coinbase (tx.coinbaseReward gasUsed)

namespace Machine

variable {m : Machine}

/-- **Settling a transaction that ran no code** changes nothing but the world. -/
theorem settle_yields (tx : Transaction) (gasUsed : UInt64) :
    Yields (settle tx gasUsed m)
      (fun _ m' => ∃ world, m' = { m with world } ∧
        tx.settle? gasUsed m.world = some (world.credit tx.coinbase (tx.coinbaseReward gasUsed)))
      (fun f => tx.settle? gasUsed m.world = none ∧ f.IsCannotPay) := by
  unfold settle Transaction.settle?
  cases debited : m.world.debit? tx.sender (Word.saturatingAdd tx.value (tx.gasCost gasUsed)) with
  | none =>
      refine Ends.bind (Q := fun _ _ => False) ?_ fun _ _ h => h.elim
      unfold debit
      refine Ends.get_bind ?_
      rw [debited]
      exact ⟨rfl, trivial⟩
  | some paid =>
      refine Ends.bind_ok (debit_eq_of_some debited) ?_
      refine Ends.bind_ok (modifyWorld_eq _) ?_
      refine Ends.bind_ok (credit_eq ..) ?_
      split
      · exact ⟨_, rfl, rfl⟩
      · exact ⟨_, rfl, rfl⟩

end Machine

variable {m : Machine} {tx : Transaction} {older : List Section} {chain : Chain}

/-- **What the end of a transaction that ran no code leads to.** -/
structure Skipping.Closed (chain : Chain) (m : Machine) (tx : Transaction) (older : List Section)
    (settlement : SettlementSection) (gasUsed : UInt64) (m' : Machine) : Prop where
  idle : Idle m'
  /-- The section reads its rows off the world in which everything is paid. -/
  settled : ∃ world settlement', tx.settle? gasUsed m.world = some world ∧
    m'.world = world.coolDown ∧
    settlement.finish chain m.tracer.toSetting world { success := true, gasUsed } =
      .ok settlement' ∧
    m'.tracer.sections.toList = older ++ [.settlement settlement']
  contexts : m'.tracer.contexts = m.tracer.contexts
  incarnations : m'.tracer.incarnations = m.tracer.incarnations

/-- **Why a transaction that ran no code cannot be ended**: its sender cannot pay, or its section
cannot account for what has been paid. -/
inductive Skipping.Fails (chain : Chain) (m : Machine) (tx : Transaction)
    (settlement : SettlementSection) (gasUsed : UInt64) (f : Fault) : Prop
  | unpaid (short : tx.settle? gasUsed m.world = none) (fault : f.IsCannotPay)
  | refused {world : WorldState} {v : Violation} (paid : tx.settle? gasUsed m.world = some world)
      (refuses : settlement.finish chain m.tracer.toSetting world { success := true, gasUsed } =
        .error v) (fault : f = .violation v)

/-- No such reason is a disagreement. -/
theorem Skipping.Fails.not_isDisagreement {settlement : SettlementSection} {gasUsed : UInt64}
    {f : Fault} (skipping : Skipping m tx older settlement)
    (fails : Skipping.Fails chain m tx settlement gasUsed f) : ¬f.IsDisagreement := by
  cases fails with
  | unpaid _ fault => exact fault.not_isDisagreement
  | @refused world v _ refuses fault =>
      rw [fault]
      have granted : Grants (settlement.finish chain m.tracer.toSetting world
          { success := true, gasUsed }) _ _ :=
        SettlementSection.finish_grants skipping.tracing rfl
      rw [refuses] at granted
      exact granted

/-- **Ending a transaction that ran no code.** -/
theorem Skipping.endTransaction_yields {settlement : SettlementSection}
    (skipping : Skipping m tx older settlement) (gasUsed : UInt64) :
    Yields (Machine.endTransaction chain gasUsed m)
      (fun _ m' => Skipping.Closed chain m tx older settlement gasUsed m')
      (Skipping.Fails chain m tx settlement gasUsed) := by
  have waits : settlement.awaits = [.transactionEnd] := if_pos skipping.waits
  unfold Machine.endTransaction
  refine Ends.get_bind ?_
  rw [skipping.transaction]
  dsimp only
  refine Ends.modify_bind ?_
  refine Ends.get_bind ?_
  dsimp only
  rw [if_pos skipping.skipped]
  refine Ends.bind ((Machine.settle_yields tx gasUsed).mono (fun _ _ h => h) fun f h =>
    .unpaid h.1 h.2) ?_
  rintro _ _ ⟨world, rfl, paid⟩
  refine Ends.bind_ok rfl ?_
  refine Ends.bind_ok (Machine.credit_eq ..) ?_
  refine Ends.get_bind ?_
  refine Machine.announce_bind (Tracer.endTransaction_of_settlement skipping.attuned
    skipping.tracing skipping.sections skipping.silent waits rfl)
    (fun v refuses => .refused paid refuses rfl) ?_
  rintro _ t ⟨setting, ⟨settlement', finished, sections⟩, attuned, silent⟩
  have incarnations : t.incarnations = m.tracer.incarnations := by rw [setting]
  have contexts : t.contexts = m.tracer.contexts := by rw [setting]
  refine ⟨⟨rfl, attuned, silent, skipping.checkpoints, ?_⟩,
    ⟨_, settlement', paid, rfl, finished, sections⟩, contexts, incarnations⟩
  show t.incarnations.Quiet
  rw [incarnations]
  exact skipping.quiet

/-- **A transaction whose root context is active cannot be ended.** -/
theorem Running.endTransaction_yields {launch : LaunchSection} {l : Level} {outer : List Level}
    (running : Running m tx older launch l outer) (gasUsed : UInt64) :
    Yields (Machine.endTransaction chain gasUsed m) (fun _ _ => False)
      (fun f => f = .rootRunning) := by
  obtain ⟨root, found, active⟩ := running.stacked.root_active
  unfold Machine.endTransaction
  refine Ends.get_bind ?_
  rw [running.transaction]
  dsimp only
  refine Ends.modify_bind ?_
  refine Ends.get_bind ?_
  dsimp only
  rw [if_neg (by simp [running.executing])]
  unfold Machine.refund
  refine Ends.bind (Q := fun _ _ => False) ?_ fun _ _ h => h.elim
  refine Ends.get_bind ?_
  refine Machine.ofResult_bind_ok (ContextTree.get_eq_ok found) ?_
  rw [active]
  exact rfl

/-- **What the end of a transaction that executed code leads to.** -/
structure Ended.Closed (m : Machine) (tx : Transaction) (older : List Section)
    (launch : LaunchSection) (calls : List CallSection) (outcome : ContextOutcome)
    (gasUsed : UInt64) (revertStamp : Nat) (m' : Machine) : Prop where
  idle : Idle m'
  contexts : m'.tracer.contexts = m.tracer.contexts
  incarnations : m'.tracer.incarnations = m.tracer.incarnations
  stamp : m'.tracer.stamp = m.tracer.stamp
  sections : m'.tracer.sections.toList = older ++
    .launch (launch.finished tx { success := outcome.success, gasUsed } m.tracer.incarnations
      revertStamp) :: (calls.map CallSection.shut).map .call
  stamped : outcome.success = false → revertStamp = m.tracer.stamp

/-- **Ending a transaction that executed code.** -/
theorem Ended.endTransaction_yields {launch : LaunchSection} {calls : List CallSection}
    {outcome : ContextOutcome} (ended : Ended m tx older launch calls outcome) (gasUsed : UInt64)
    {E : Fault → Prop} :
    Yields (Machine.endTransaction chain gasUsed m)
      (fun _ m' => ∃ revertStamp,
        Ended.Closed m tx older launch calls outcome gasUsed revertStamp m') E := by
  obtain ⟨root, found, left, stamped⟩ := ended.root
  unfold Machine.endTransaction
  refine Ends.get_bind ?_
  rw [ended.transaction]
  dsimp only
  refine Ends.modify_bind ?_
  refine Ends.get_bind ?_
  dsimp only
  rw [if_neg (by simp [ended.executing])]
  refine Ends.bind (Q := fun success m' => success = outcome.success ∧
    ∃ world, m' = { m with transaction? := none, world }) ?_ ?_
  · unfold Machine.refund
    refine Ends.get_bind ?_
    refine Machine.ofResult_bind_ok (ContextTree.get_eq_ok found) ?_
    rw [left]
    exact ⟨rfl, _, rfl⟩
  rintro _ _ ⟨rfl, world, rfl⟩
  refine Ends.bind_ok (Machine.credit_eq ..) ?_
  refine Ends.get_bind ?_
  refine Machine.announce_bind (ended.tracing.endTransaction_yields ended.traced found
    ended.resolved _ (E := fun _ => False)) nofun ?_
  rintro _ t ⟨setting, sections, attuned, silent⟩
  have incarnations : t.incarnations = m.tracer.incarnations := by rw [setting]
  refine ⟨root.revertStamp, ⟨rfl, attuned, silent, ended.checkpoints, ?_⟩, ?_, incarnations, ?_,
    sections, stamped⟩
  · show t.incarnations.Quiet
    rw [incarnations]
    exact ended.quiet
  · show t.contexts = m.tracer.contexts
    rw [setting]
  · show t.stamp = m.tracer.stamp
    rw [setting]

end ExecutionTrace
