import ExecutionTrace.Machine.Script
import ExecutionTrace.Proofs.Tracer.Construction

/-!
# The targets of deployments

A deployment with init code is accepted only where nothing is: its target has nonce zero and no
code.  A deployment without init code is a transaction that runs no code, and the checks of such
transactions do not look at the target, so one that is in use is accepted as well.

## Main Definitions

* `LaunchSection.Admits` — which deployments with init code are accepted, to another account than
  their sender
* `Tracer.deployment_accepted_iff`, `Tracer.skipped_accepted_iff` — which deployments are accepted,
  with and without init code
* `Tracer.deployment_targets_checked` — both, in any tracer and any world

## Design Notes

The lists of checks are stated as what they accept, whatever has been announced before.  Nothing is
assumed of the constructors that are running, so a tracer that a failed transaction has left behind
is no special case.
-/

namespace ExecutionTrace

namespace LaunchSection

/-- **What is accepted as a deployment with init code.** -/
structure Admits (incarnations : Incarnations) (world : WorldState) (tx : Transaction) : Prop where
  settled : ∀ a ∈ [tx.sender, tx.recipient], incarnations.isDeploying a = false
  /-- The sender can pay for gas and for the value. -/
  payable : tx.upfrontGasCost.toNat + tx.value.toNat ≤ (world.balance tx.sender).toNat
  countable : (world.account tx.sender).nonce.toNat + 1 < UInt64.size
  vacant : world.IsVacant tx.recipient
  /-- The recipient has room for the value. -/
  receivable : (world.balance tx.recipient).toNat + tx.value.toNat < Word.size

variable {world : WorldState} {tx : Transaction}

/-- What is accepted of a deployment to another account than its sender. -/
theorem admissible_iff_admits {incarnations : Incarnations} (deploys : tx.isDeployment = true)
    (apart : tx.sender ≠ tx.recipient) :
    Admissible incarnations world tx ↔ Admits incarnations world tx := by
  constructor
  · intro h
    exact ⟨h.settled, h.payable, h.countable, (h.vacant deploys).2, h.receivable.resolve_left apart⟩
  · intro h
    exact ⟨h.settled, h.payable, h.countable, .inr h.receivable, fun _ => ⟨apart, h.vacant⟩⟩

end LaunchSection

/-! ## The announcement -/

namespace Tracer

variable {chain : Chain} {world : WorldState} {tx : Transaction}

/-- **Which deployments with init code are accepted.** -/
theorem deployment_accepted_iff (t : Tracer) (deploys : tx.isDeployment = true)
    (apart : tx.sender ≠ tx.recipient) (coded : tx.payload ≠ []) :
    (∃ id t', beginTransaction chain world tx t = .ok id t') ↔
      LaunchSection.Admits t.incarnations world tx := by
  have executes : tx.requiresExecution world = true := by
    rw [Transaction.requiresExecution, if_pos deploys]
    simpa using coded
  rw [← LaunchSection.admissible_iff_admits deploys apart]
  exact Ends.ok_iff ((t.beginTransaction_launches chain executes).mono (fun _ _ h => h.2.1)
    fun _ _ h => h.2.rejected)

/-- **Which transactions that run no code are accepted.** -/
theorem skipped_accepted_iff (t : Tracer) (skips : tx.requiresExecution world = false) :
    (∃ id t', beginTransaction chain world tx t = .ok id t') ↔
      SettlementSection.Admits chain t.incarnations world tx :=
  Ends.ok_iff ((t.beginTransaction_settles chain skips).mono (fun _ _ h => h.2.1)
    fun _ _ h => h.2.rejected)

/-- **The targets of deployments.** Whatever has been announced before: a deployment with init code
is accepted only where nothing is; one without init code is accepted wherever a transaction that
runs no code may go, in particular where there is code already; and one that is rejected adds no
section and counts as no deployment. -/
theorem deployment_targets_checked (chain : Chain) (t : Tracer) (world : WorldState)
    (tx : Transaction) (deploys : tx.isDeployment = true) (apart : tx.sender ≠ tx.recipient) :
    (tx.payload ≠ [] →
      ((∃ id t', beginTransaction chain world tx t = .ok id t') ↔
        LaunchSection.Admits t.incarnations world tx) ∧
      ∀ id t', beginTransaction chain world tx t = .ok id t' → world.IsVacant tx.recipient) ∧
    (tx.payload = [] →
      ((∃ id t', beginTransaction chain world tx t = .ok id t') ↔
        SettlementSection.Admits chain t.incarnations world tx)) ∧
    ∀ v t', beginTransaction chain world tx t = .error v t' →
      t'.sections = t.sections ∧ t'.agenda = t.agenda ∧ t'.incarnations = t.incarnations := by
  refine ⟨fun coded => ?_, fun bare => ?_, fun v t' rejected => ?_⟩
  · have accepted : (∃ id t', beginTransaction chain world tx t = .ok id t') ↔
        LaunchSection.Admits t.incarnations world tx :=
      deployment_accepted_iff t deploys apart coded
    exact ⟨accepted, fun id t' begun => (accepted.1 ⟨id, t', begun⟩).vacant⟩
  · refine skipped_accepted_iff t ?_
    rw [Transaction.requiresExecution, if_pos deploys, bare]
    rfl
  · obtain ⟨-, rfl⟩ := (beginTransaction_ends t chain world tx).error rejected
    exact ⟨rfl, rfl, rfl⟩

/-- A new account is deployed to with init code and without, and a contract cannot be deployed to
with init code. -/
theorem deployment_targets_checked_on_samples :
    let world := WorldState.ofList [(Script.sender, { balance := Script.gwei 1000000000 }),
      (0xc0de, { code := [0x00] })]
    world.IsVacant 0xdec0 ∧
    SettlementSection.Admits .ethereum {} world (Script.deployment Script.sender 0xdec0 []) ∧
    ∃ v t', beginTransaction .ethereum world (Script.deployment Script.sender 0xc0de [0x60, 0x01])
        {} = .error v t' ∧ t'.sections = #[] := by
  intro world
  obtain ⟨coded, -, -⟩ := deployment_targets_checked .ethereum {} world
    (Script.deployment Script.sender 0xdec0 [0x60, 0x01]) rfl (by decide)
  obtain ⟨-, bare, -⟩ := deployment_targets_checked .ethereum {} world
    (Script.deployment Script.sender 0xdec0 []) rfl (by decide)
  obtain ⟨occupied, -, rejected⟩ := deployment_targets_checked .ethereum {} world
    (Script.deployment Script.sender 0xc0de [0x60, 0x01]) rfl (by decide)
  have accepts : ((beginTransaction .ethereum world
        (Script.deployment Script.sender 0xdec0 [0x60, 0x01])).run' {}).isSome = true ∧
      ((beginTransaction .ethereum world (Script.deployment Script.sender 0xdec0 [])).run'
        {}).isSome = true := by
    decide +kernel
  refine ⟨?_, ?_, ?_⟩
  · obtain ⟨id, numbered⟩ := Option.isSome_iff_exists.1 accepts.1
    obtain ⟨t', begun⟩ := exists_ok_of_run' numbered
    exact (coded (by decide)).2 id t' begun
  · obtain ⟨id, numbered⟩ := Option.isSome_iff_exists.1 accepts.2
    obtain ⟨t', begun⟩ := exists_ok_of_run' numbered
    exact (bare rfl).1 ⟨id, t', begun⟩
  · cases begun : beginTransaction .ethereum world
        (Script.deployment Script.sender 0xc0de [0x60, 0x01]) {} with
    | ok id t' => exact absurd ((occupied (by decide)).2 id t' begun) (by decide +kernel)
    | error v t' => exact ⟨v, t', rfl, (rejected v t' begun).1⟩

/-- **A contract can be deployed to without init code**, and counts as deployed to. -/
theorem contract_deployed_to_without_init_code :
    let world := WorldState.ofList [(Script.sender, { balance := Script.gwei 1000000000 }),
      (0xc0de, { code := [0x00] })]
    ∃ id t', beginTransaction .ethereum world (Script.deployment Script.sender 0xc0de []) {} =
        .ok id t' ∧ ¬world.IsVacant 0xc0de ∧ t'.sections.size = 1 ∧
          t'.incarnations.number 0xc0de = 1 := by
  intro world
  have seen : (match beginTransaction .ethereum world
      (Script.deployment Script.sender 0xc0de []) {} with
    | .ok _ t' => t'.sections.size == 1 && t'.incarnations.number 0xc0de == 1
    | .error _ _ => false) = true := by
    decide +kernel
  split at seen
  · rename_i id t' begun
    obtain ⟨added, counted⟩ := Bool.and_eq_true_iff.1 seen
    exact ⟨id, t', begun, by decide +kernel, beq_iff_eq.1 added, beq_iff_eq.1 counted⟩
  · cases seen

end Tracer

end ExecutionTrace
