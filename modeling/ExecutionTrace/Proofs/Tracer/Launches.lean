import ExecutionTrace.Machine.Script
import ExecutionTrace.Proofs.Tracer.Construction

/-!
# The launch of a transaction

When a transaction that executes code is accepted, and what it moves before any code runs: its
sender pays for gas and spends a nonce, and the value goes from the sender to the recipient.  The
two may be one account, and then the value goes there and back.

## Main Definitions

* `Transaction.together` — what the two parties of a transaction have
* `LaunchSection.Launches` — what the three transitions of a section move
* `LaunchSection.Announced.launches` — those of an accepted section do
* `Tracer.launch_accepted_iff` — which transactions are accepted, and what they move

## Design Notes

Amounts are added as natural numbers, so that no statement depends on how words wrap around.  A
transition is given as a whole, which says of everything it does not mention that it stays.
-/

namespace ExecutionTrace

/-- **What the two parties of a transaction have together**, given the balance of each.  An account
that is both is counted once. -/
def Transaction.together (tx : Transaction) (sender recipient : Word) : Nat :=
  if tx.sender = tx.recipient then recipient.toNat else sender.toNat + recipient.toNat

namespace LaunchSection

/-- **What the launch of a transaction moves**, given the world before it and the incarnations
before and after it. -/
structure Launches (world : WorldState) (incarnations incarnations' : Incarnations)
    (tx : Transaction) (s : LaunchSection) : Prop where
  /-- The sender, as it is in the world, pays for gas and spends a nonce. -/
  gasPayment : ∃ left, left.toNat + tx.upfrontGasCost.toNat = (world.balance tx.sender).toNat ∧
    s.gasPayment.before = .capture world incarnations tx.sender tx.senderPreWarmed ∧
    s.gasPayment.after = { s.gasPayment.before with
      balance := left
      nonce := (world.account tx.sender).nonce + 1
      isWarm := true }
  /-- The nonce does not wrap around. -/
  nonce : s.gasPayment.after.nonce.toNat = (world.account tx.sender).nonce.toNat + 1
  /-- The value leaves the sender. -/
  valueTransfer : ∃ left, left.toNat + tx.value.toNat = s.gasPayment.after.balance.toNat ∧
    s.valueTransfer =
      ⟨s.gasPayment.after, { s.gasPayment.after with balance := left }⟩
  /-- The recipient is the sender as it is by now, or as it is in the world. -/
  recipient : s.valueReception.before = if tx.sender = tx.recipient then s.valueTransfer.after
    else .capture world incarnations tx.recipient tx.recipientPreWarmed
  /-- The value reaches the recipient, which comes into existence if it is deployed. -/
  valueReception : ∃ sum, sum.toNat = s.valueReception.before.balance.toNat + tx.value.toNat ∧
    s.valueReception.after =
      if tx.isDeployment then
        { s.valueReception.before with
          balance := sum
          nonce := 1
          code := ⟨tx.payload⟩
          isWarm := true
          deploymentNumber := incarnations.number tx.recipient + 1
          deploymentStatus := true }
      else { s.valueReception.before with balance := sum, isWarm := true }
  /-- Only the price of gas is lost. -/
  together : tx.together s.valueTransfer.after.balance s.valueReception.after.balance +
      tx.upfrontGasCost.toNat =
    tx.together (world.balance tx.sender) (world.balance tx.recipient)
  /-- The table of deployments counts the one that starts. -/
  incarnations : incarnations' = if tx.isDeployment then
      incarnations.set tx.recipient
        { number := incarnations.number tx.recipient + 1, initCode? := some tx.payload }
    else incarnations

variable {setting : Setting} {world : WorldState} {tx : Transaction} {s : LaunchSection}
  {incarnations : Incarnations}

/-- What is accepted, if nothing is being deployed at either party. -/
theorem admissible_iff
    (settled : ∀ a ∈ [tx.sender, tx.recipient], incarnations.isDeploying a = false) :
    Admissible incarnations world tx ↔
      tx.upfrontGasCost.toNat + tx.value.toNat ≤ (world.balance tx.sender).toNat ∧
      (world.account tx.sender).nonce.toNat < UInt64.size - 1 ∧
      (tx.recipient = tx.sender ∨
        (world.balance tx.recipient).toNat + tx.value.toNat < Word.size) ∧
      (tx.isDeployment = true → tx.recipient ≠ tx.sender ∧
        (world.account tx.recipient).nonce = 0 ∧ world.hasCode tx.recipient = false) := by
  constructor
  · intro h
    exact ⟨h.payable, Nat.lt_sub_of_add_lt h.countable, h.receivable.imp_left Eq.symm,
      fun deploys => (h.vacant deploys).imp_left Ne.symm⟩
  · rintro ⟨payable, countable, receivable, vacant⟩
    exact ⟨settled, payable, Nat.add_lt_of_lt_sub countable, receivable.imp_left Eq.symm,
      fun deploys => (vacant deploys).imp_left Ne.symm⟩

/-- The deployment that an accepted section starts. -/
theorem Announced.started (announced : Announced setting world tx s incarnations)
    (deploys : tx.isDeployment = true) :
    incarnations = setting.incarnations.set tx.recipient
      { number := setting.incarnations.number tx.recipient + 1, initCode? := some tx.payload } := by
  have started := announced.incarnations
  rw [if_pos deploys] at started
  exact started.2

/-- The recipient of a deployment, once it has come into existence. -/
theorem created_eq {recipient : Snapshot} {sum : Word}
    (captured : recipient =
      .capture world setting.incarnations tx.recipient tx.recipientPreWarmed)
    (unused : (world.account tx.recipient).nonce = 0)
    (started : incarnations = setting.incarnations.set tx.recipient
      { number := setting.incarnations.number tx.recipient + 1, initCode? := some tx.payload }) :
    (({ recipient with balance := sum, nonce := recipient.nonce + 1 }.withCode
      ⟨tx.payload⟩).warmedUp).withDeploymentFrom incarnations =
    { recipient with
      balance := sum
      nonce := 1
      code := ⟨tx.payload⟩
      isWarm := true
      deploymentNumber := setting.incarnations.number tx.recipient + 1
      deploymentStatus := true } := by
  have address : recipient.address = tx.recipient := by
    rw [captured, Snapshot.address_capture]
  have nonce : recipient.nonce + 1 = 1 := by
    rw [captured, Snapshot.nonce_capture, unused]
    rfl
  have number : incarnations.number recipient.address =
      setting.incarnations.number tx.recipient + 1 := by
    rw [address, started, Incarnations.number_set, if_pos rfl]
  have status : incarnations.isDeploying recipient.address = true := by
    rw [address, started, Incarnations.isDeploying_set, if_pos rfl]
    rfl
  rw [nonce, Snapshot.withDeploymentFrom, Snapshot.withNumberFrom, Snapshot.warmedUp,
    Snapshot.withWarmth, Snapshot.withCode, number, status]

/-- **An accepted transaction moves what it says.** -/
theorem Announced.launches (announced : Announced setting world tx s incarnations)
    (admissible : Admissible setting.incarnations world tx) :
    Launches world setting.incarnations incarnations tx s := by
  obtain ⟨left, paid, charged⟩ := announced.charged
  obtain ⟨left', paid', debited⟩ := announced.debited
  obtain ⟨sum, received, credited⟩ := announced.credited
  have price := Word.checkedSub_eq_some_iff.1 paid
  have value := Word.checkedSub_eq_some_iff.1 paid'
  have gain := Word.checkedAdd_eq_some_iff.1 received
  have balance : s.sender.balance = world.balance tx.sender := by
    rw [announced.sender, Snapshot.balance_capture]
  have nonce : s.sender.nonce = (world.account tx.sender).nonce := by
    rw [announced.sender, Snapshot.nonce_capture]
  have sender : s.debited.balance.toNat + tx.value.toNat + tx.upfrontGasCost.toNat =
      (world.balance tx.sender).toNat := by
    have between : s.charged.balance = left := by rw [charged]
    have rest : s.debited.balance = left' := by rw [debited]
    rw [rest, value, between, price, balance]
  constructor
  · refine ⟨left, ?_, announced.sender, ?_⟩
    · rw [← balance]
      exact price
    · rw [← nonce]
      exact charged
  · show s.charged.nonce.toNat = _
    rw [charged, nonce]
    show ((world.account tx.sender).nonce + 1).toNat = _
    rw [UInt64.toNat_add, UInt64.toNat_one]
    exact Nat.mod_eq_of_lt admissible.countable
  · refine ⟨left', value, ?_⟩
    rw [valueTransfer, debited]
    rfl
  · exact announced.recipient
  · refine ⟨sum, gain, credited.trans ?_⟩
    split
    · rename_i deploys
      obtain ⟨apart, unused, -⟩ := admissible.vacant deploys
      exact created_eq (announced.recipient.trans (if_neg apart)) unused
        (announced.started deploys)
    · rfl
  · have gain : s.credited.balance.toNat = s.recipient.balance.toNat + tx.value.toNat := by
      rw [← gain, credited]
      split <;> rfl
    show tx.together s.debited.balance s.credited.balance + _ = _
    unfold Transaction.together
    split
    · rename_i same
      rw [announced.recipient, if_pos same] at gain
      rw [gain, sender, same]
    · rename_i apart
      rw [announced.recipient, if_neg apart, Snapshot.balance_capture] at gain
      omega
  · split
    · rename_i deploys
      exact announced.started deploys
    · rename_i stays
      have same := announced.incarnations
      rwa [if_neg stays] at same

end LaunchSection

/-! ## The announcement -/

namespace Tracer

variable {chain : Chain} {world : WorldState} {tx : Transaction}

/-- **When a transaction that executes code is accepted, and what it moves.** Whatever has been
announced before, as long as nothing is being deployed at its sender or recipient: it is accepted
exactly if the sender can pay for gas and for the value together and can spend a nonce, the
recipient has room for the value, and a deployment goes to another account than its sender, where
nothing is.  Its section then shows what it moves, which is nothing more than that. -/
theorem launch_accepted_iff (t : Tracer) (executes : tx.requiresExecution world = true)
    (settled : ∀ a ∈ [tx.sender, tx.recipient], t.incarnations.isDeploying a = false) :
    ((∃ id t', beginTransaction chain world tx t = .ok id t') ↔
      tx.upfrontGasCost.toNat + tx.value.toNat ≤ (world.balance tx.sender).toNat ∧
      (world.account tx.sender).nonce.toNat < UInt64.size - 1 ∧
      (tx.recipient = tx.sender ∨
        (world.balance tx.recipient).toNat + tx.value.toNat < Word.size) ∧
      (tx.isDeployment = true → tx.recipient ≠ tx.sender ∧
        (world.account tx.recipient).nonce = 0 ∧ world.hasCode tx.recipient = false)) ∧
    ∀ id t', beginTransaction chain world tx t = .ok id t' → ∃ s,
      id = t.sections.size ∧ t'.sections = t.sections.push (.launch s) ∧
      LaunchSection.Launches world t.incarnations t'.incarnations tx s := by
  have ends := t.beginTransaction_launches chain executes
  constructor
  · rw [← LaunchSection.admissible_iff settled]
    exact Ends.ok_iff (ends.mono (fun _ _ h => h.2.1) fun _ _ h => h.2.rejected)
  · intro id t' begun
    rw [begun] at ends
    obtain ⟨rfl, admissible, s, incarnations, announced, rfl⟩ := ends
    exact ⟨s, rfl, rfl, announced.launches admissible⟩

/-- A contract is deployed with a value, and a sender that could pay for either gas or the value
cannot pay for both. -/
theorem launches_accepted_on_samples :
    let rich := WorldState.ofList [(Script.sender, { balance := Script.gwei 1000000000 })]
    let tx := { Script.deployment Script.sender 0xdec0 [0x60, 0x01] with value := 5 }
    let poor := WorldState.ofList [(Script.sender, { balance := tx.upfrontGasCost })]
    (∃ t' s, beginTransaction .ethereum rich tx {} = .ok 0 t' ∧ t'.sections = #[.launch s] ∧
      s.valueReception.after.balance = 5 ∧ s.valueReception.after.deploymentNumber = 1) ∧
    ¬∃ id t', beginTransaction .ethereum poor tx {} = .ok id t' := by
  intro rich tx poor
  have settled : ∀ a ∈ [tx.sender, tx.recipient],
      ({} : Tracer).incarnations.isDeploying a = false := fun _ _ => rfl
  obtain ⟨accepted, moved⟩ := @launch_accepted_iff .ethereum rich tx {} (by decide +kernel) settled
  obtain ⟨refused, -⟩ := @launch_accepted_iff .ethereum poor tx {} (by decide +kernel) settled
  constructor
  · obtain ⟨id, t', begun⟩ := accepted.2 (by decide +kernel)
    obtain ⟨s, rfl, added, launches⟩ := moved id t' begun
    obtain ⟨sum, received, after⟩ := launches.valueReception
    have before := launches.recipient
    rw [if_neg (show tx.sender ≠ tx.recipient by decide)] at before
    rw [before, Snapshot.balance_capture] at received
    rw [if_pos (show tx.isDeployment = true from rfl)] at after
    refine ⟨t', s, begun, added, ?_, ?_⟩
    · rw [after]
      refine BitVec.eq_of_toNat_eq (received.trans ?_)
      decide +kernel
    · rw [after]
      rfl
  · intro accepted
    obtain ⟨payable, -⟩ := refused.1 accepted
    exact absurd payable (by decide +kernel)

end Tracer

end ExecutionTrace
