import ExecutionTrace.Proofs.Run.Close
import ExecutionTrace.Proofs.State.Supply

/-!
# The payments of a transaction that runs no code

A message call to an account without code consists of three payments: the sender pays the value and
the gas, the recipient receives the value, and the beneficiary is rewarded.  The settlement section
tells of them in three transitions, each of one party.  Whichever of the parties are the same
account, the three transitions are those of the three payments, made one after the other.

## Main Definitions

* `Transaction.Payments` — the worlds between the payments
* `Transaction.Payments.payable`, `Transaction.Payments.receives`,
  `Transaction.Payments.rewards` — none of them saturates
* `SettlementSection.payments` — the three transitions, read off the worlds between the payments
* `SettlementSection.Announced.settle_grants` — they are the transitions of the section

## Design Notes

The section reads the end of most transitions off the final world.  Where the sender is another
party as well it computes the sender's end forwards, and where the beneficiary is one it computes
the starts of the transitions backwards.  Each way leads to the world between two payments, so the
five ways in which the parties can coincide need no statements of their own.
-/

namespace ExecutionTrace

namespace WorldState

variable {w : WorldState} {a b : Address} {amount : Word}

theorem account_credit (w : WorldState) (a b : Address) (amount : Word) :
    (w.credit a amount).account b =
      if a = b then
        { w.account a with balance := Word.saturatingAdd (w.account a).balance amount }
      else w.account b :=
  account_update ..

/-- A credit whose sum fits. -/
theorem balance_credit {sum : Word} (fits : Word.checkedAdd (w.balance a) amount = some sum) :
    (w.credit a amount).balance a = sum := by
  rw [credit, balance_setBalance, if_pos rfl, Word.saturatingAdd_eq_of_checkedAdd fits]

end WorldState

/-! ## Snapshots of worlds between payments -/

namespace Snapshot

variable {w w' : WorldState} {incarnations : Incarnations} {a b : Address} {isWarm : Bool}
  {amount sum : Word}

/-- A snapshot shows no account but its own. -/
theorem capture_congr (same : w'.account a = w.account a) :
    capture w' incarnations a isWarm = capture w incarnations a isWarm := by
  rw [capture_eq, capture_eq, WorldState.balance, WorldState.balance, same]

theorem capture_credit_of_ne (other : b ≠ a) :
    capture (w.credit b amount) incarnations a isWarm = capture w incarnations a isWarm :=
  capture_congr (by rw [WorldState.account_credit, if_neg other])

/-- What a credit makes of a snapshot. -/
theorem capture_credit (fits : Word.checkedAdd (w.balance a) amount = some sum) :
    capture (w.credit a amount) incarnations a isWarm =
      { capture w incarnations a isWarm with balance := sum } := by
  rw [capture_eq, capture_eq, WorldState.balance_credit fits, WorldState.account_credit, if_pos rfl]

/-- **A credit whose sum fits leads from one snapshot to the other.** -/
theorem credit_capture (fits : Word.checkedAdd (w.balance a) amount = some sum) :
    (capture w incarnations a isWarm).credit amount =
      .ok (capture (w.credit a amount) incarnations a isWarm) := by
  have balance : (capture w incarnations a isWarm).balance = w.balance a := by rw [capture_eq]
  rw [credit, balance, fits, capture_credit fits]
  rfl

/-- **Taking a credit away** leads back. -/
theorem debit_capture_credit (fits : Word.checkedAdd (w.balance a) amount = some sum) :
    (capture (w.credit a amount) incarnations a isWarm).debit amount =
      .ok (capture w incarnations a isWarm) := by
  have back : Word.checkedSub sum amount = some (w.balance a) :=
    Word.checkedSub_eq_some_iff.2 (Word.checkedAdd_eq_some_iff.1 fits).symm
  rw [debit, capture_credit fits]
  dsimp only
  rw [back, capture_eq]
  rfl

end Snapshot

/-! ## The payments -/

namespace Transaction

/-- **The worlds between the payments** of a message call that runs no code. -/
structure Payments (tx : Transaction) (gasUsed : UInt64) (before paid moved final : WorldState) :
    Prop where
  pays : ∃ debited, before.debit? tx.sender (Word.saturatingAdd tx.value (tx.gasCost gasUsed)) =
    some debited ∧ paid = debited.raiseNonce tx.sender
  gives : moved = paid.credit tx.recipient tx.value
  closes : final = moved.credit tx.coinbase (tx.coinbaseReward gasUsed)
  /-- The supply fits into a word, and is not the largest one. -/
  solvent : before.totalBalance < Word.size - 1

variable {tx : Transaction} {gasUsed : UInt64} {before paid moved final : WorldState}

/-- The beneficiary gets no more than the sender pays for gas. -/
theorem coinbaseReward_le_gasCost (tx : Transaction) (gasUsed : UInt64) :
    (tx.coinbaseReward gasUsed).toNat ≤ (tx.gasCost gasUsed).toNat := by
  have price : (Word.saturatingSub tx.gasPrice tx.baseFee).toNat ≤ tx.gasPrice.toNat := by
    rw [Word.saturatingSub, Word.toNat_saturate]
    omega
  have product := Nat.mul_le_mul_right (Word.ofUInt64 gasUsed).toNat price
  rw [coinbaseReward, gasCost, Word.saturatingMul, Word.saturatingMul, Word.toNat_saturate,
    Word.toNat_saturate]
  exact Nat.le_min.2 ⟨(Nat.min_le_left _ _).trans product, Nat.min_le_right _ _⟩

/-- **The payments of a transaction that can be settled.** A deployment sets the nonce of its
recipient before the beneficiary is rewarded. -/
theorem exists_payments_of_settle? (settled : tx.settle? gasUsed before = some final)
    (solvent : before.totalBalance < Word.size - 1) :
    ∃ paid moved, tx.Payments gasUsed before paid moved
        (moved.credit tx.coinbase (tx.coinbaseReward gasUsed)) ∧
      final = (if tx.isDeployment then moved.setNonce tx.recipient 1 else moved).credit tx.coinbase
        (tx.coinbaseReward gasUsed) := by
  obtain ⟨debited, paid, rfl⟩ := Option.map_eq_some_iff.1 settled
  exact ⟨debited.raiseNonce tx.sender, _, ⟨⟨debited, paid, rfl⟩, rfl, rfl, solvent⟩, rfl⟩

/-- The payments of a message call that can be settled. -/
theorem exists_payments (message : tx.isDeployment = false)
    (settled : tx.settle? gasUsed before = some final)
    (solvent : before.totalBalance < Word.size - 1) :
    ∃ paid moved, tx.Payments gasUsed before paid moved final := by
  obtain ⟨paid, moved, payments, rfl⟩ := exists_payments_of_settle? settled solvent
  rw [if_neg (by simp [message])]
  exact ⟨paid, moved, payments⟩

namespace Payments

/-- What the sender pays does not saturate, since it is part of the supply. -/
theorem toNat_total (h : tx.Payments gasUsed before paid moved final) :
    (Word.saturatingAdd tx.value (tx.gasCost gasUsed)).toNat =
      tx.value.toNat + (tx.gasCost gasUsed).toNat := by
  obtain ⟨debited, debits, -⟩ := h.pays
  have supply := WorldState.totalBalance_of_debit debits
  have solvent := h.solvent
  rw [Word.saturatingAdd, Word.toNat_saturate] at supply ⊢
  omega

/-- **The sender pays the value and the gas.** -/
theorem payable (h : tx.Payments gasUsed before paid moved final) :
    ∃ left, Word.checkedSub (before.balance tx.sender) tx.value = some left ∧
      Word.checkedSub left (tx.gasCost gasUsed) = some (paid.balance tx.sender) := by
  have total := h.toNat_total
  obtain ⟨debited, debits, rfl⟩ := h.pays
  obtain ⟨rest, enough, rfl⟩ := Option.map_eq_some_iff.1 debits
  have sum := Word.checkedSub_eq_some_iff.1 enough
  obtain ⟨left, first⟩ := Word.checkedSub_isSome (a := before.balance tx.sender) (b := tx.value)
    (by omega)
  refine ⟨left, first, ?_⟩
  have first := Word.checkedSub_eq_some_iff.1 first
  rw [WorldState.balance_raiseNonce, WorldState.balance_setBalance, if_pos rfl,
    Word.checkedSub_eq_some_iff]
  omega

/-- What is paid is missing from the supply. -/
theorem totalBalance_paid (h : tx.Payments gasUsed before paid moved final) :
    paid.totalBalance + tx.value.toNat + (tx.gasCost gasUsed).toNat = before.totalBalance := by
  have total := h.toNat_total
  obtain ⟨debited, debits, rfl⟩ := h.pays
  have supply := WorldState.totalBalance_of_debit debits
  rw [WorldState.totalBalance_raiseNonce]
  omega

/-- The supply has room for the value. -/
theorem receives_fits (h : tx.Payments gasUsed before paid moved final) :
    paid.totalBalance + tx.value.toNat < Word.size := by
  have supply := h.totalBalance_paid
  have solvent := h.solvent
  omega

/-- What is paid for gas is missing from the supply once the value has been received. -/
theorem totalBalance_moved (h : tx.Payments gasUsed before paid moved final) :
    moved.totalBalance + (tx.gasCost gasUsed).toNat = before.totalBalance := by
  have supply := h.totalBalance_paid
  rw [h.gives, WorldState.totalBalance_credit h.receives_fits]
  omega

/-- The supply has room for the reward. -/
theorem rewards_fits (h : tx.Payments gasUsed before paid moved final) :
    moved.totalBalance + (tx.coinbaseReward gasUsed).toNat < Word.size := by
  have supply := h.totalBalance_moved
  have solvent := h.solvent
  have covered := tx.coinbaseReward_le_gasCost gasUsed
  omega

/-- **The recipient receives the value**, without saturation. -/
theorem receives (h : tx.Payments gasUsed before paid moved final) :
    Word.checkedAdd (paid.balance tx.recipient) tx.value = some (moved.balance tx.recipient) := by
  have fits : Word.checkedAdd (paid.balance tx.recipient) tx.value = _ :=
    WorldState.checkedAdd_of_fits h.receives_fits
  rw [h.gives, WorldState.balance_credit fits, fits]

/-- **The beneficiary is rewarded**, without saturation. -/
theorem rewards (h : tx.Payments gasUsed before paid moved final) :
    Word.checkedAdd (moved.balance tx.coinbase) (tx.coinbaseReward gasUsed) =
      some (final.balance tx.coinbase) := by
  have fits : Word.checkedAdd (moved.balance tx.coinbase) (tx.coinbaseReward gasUsed) = _ :=
    WorldState.checkedAdd_of_fits h.rewards_fits
  rw [h.closes, WorldState.balance_credit fits, fits]

/-- The payment of the sender changes its account alone. -/
theorem account_paid (h : tx.Payments gasUsed before paid moved final) (a : Address) :
    paid.account a =
      if tx.sender = a then
        { before.account tx.sender with
          balance := paid.balance tx.sender
          nonce := (before.account tx.sender).nonce + 1 }
      else before.account a := by
  obtain ⟨debited, debits, rfl⟩ := h.pays
  obtain ⟨rest, -, rfl⟩ := Option.map_eq_some_iff.1 debits
  rw [WorldState.balance_raiseNonce, WorldState.balance_setBalance, if_pos rfl,
    WorldState.raiseNonce, WorldState.account_update, WorldState.setBalance,
    WorldState.account_update, WorldState.account_update, if_pos rfl]
  split <;> rfl

end Payments

end Transaction

/-! ## The transitions of the section -/

namespace SettlementSection

variable {chain : Chain} {setting : Setting} {incarnations incarnations' : Incarnations}
  {tx : Transaction} {gasUsed : UInt64} {before paid moved final : WorldState}
  {s : SettlementSection} {a : Address}

@[simp]
theorem address_capture : (capture chain before incarnations a).address = a :=
  Snapshot.address_capture ..

/-! ### Snapshots between the payments -/

theorem capture_paid_of_ne (h : tx.Payments gasUsed before paid moved final)
    (other : tx.sender ≠ a) :
    capture chain paid incarnations a = capture chain before incarnations a :=
  Snapshot.capture_congr (by rw [h.account_paid, if_neg other])

theorem capture_moved_of_ne (h : tx.Payments gasUsed before paid moved final)
    (other : tx.recipient ≠ a) :
    capture chain moved incarnations a = capture chain paid incarnations a := by
  rw [h.gives]
  exact Snapshot.capture_credit_of_ne other

theorem capture_final_of_ne (h : tx.Payments gasUsed before paid moved final)
    (other : tx.coinbase ≠ a) :
    capture chain final incarnations a = capture chain moved incarnations a := by
  rw [h.closes]
  exact Snapshot.capture_credit_of_ne other

/-- **The sender pays.** Only the largest nonce stands in the way. -/
theorem pay_grants (h : tx.Payments gasUsed before paid moved final) :
    Grants (do
        let sent ← (capture chain before incarnations tx.sender).debit tx.value
        let charged ← sent.debit (tx.gasCost gasUsed)
        return ⟨capture chain before incarnations tx.sender, ← charged.raiseNonce⟩)
      (fun t : Transition => t = ⟨capture chain before incarnations tx.sender,
        capture chain paid incarnations tx.sender⟩)
      (fun v => v = .nonceOverflow tx.sender ∧
        (before.account tx.sender).nonce.toNat + 1 = UInt64.size) := by
  obtain ⟨left, first, second⟩ := h.payable
  have sends : (capture chain before incarnations tx.sender).debit tx.value =
      .ok { capture chain before incarnations tx.sender with balance := left } := by
    rw [Snapshot.debit, capture, Snapshot.capture_eq]
    dsimp only
    rw [first]
    rfl
  have charges : ({ capture chain before incarnations tx.sender with balance := left } :
      Snapshot).debit (tx.gasCost gasUsed) =
        .ok { capture chain before incarnations tx.sender with
          balance := paid.balance tx.sender } := by
    rw [Snapshot.debit]
    dsimp only
    rw [second]
    rfl
  have raised : capture chain paid incarnations tx.sender =
      { capture chain before incarnations tx.sender with
        balance := paid.balance tx.sender
        nonce := (capture chain before incarnations tx.sender).nonce + 1 } := by
    rw [capture, capture, Snapshot.capture_eq, Snapshot.capture_eq, h.account_paid, if_pos rfl]
  refine Grants.bind_ok sends ?_
  refine Grants.bind_ok charges ?_
  refine Grants.bind ((Snapshot.raiseNonce_exactly _).mono (fun _ h => h.1) ?_) ?_
  · rintro _ ⟨rfl, full⟩
    rw [capture, Snapshot.capture_eq] at full ⊢
    exact ⟨rfl, full⟩
  · rintro _ rfl
    rw [raised]
    exact rfl

/-- The recipient's snapshot before it received the value. -/
theorem debit_recipient (h : tx.Payments gasUsed before paid moved final) :
    (capture chain moved incarnations tx.recipient).debit tx.value =
      .ok (capture chain paid incarnations tx.recipient) := by
  have fits := h.receives
  rw [h.gives] at fits ⊢
  exact Snapshot.debit_capture_credit fits

theorem credit_recipient (h : tx.Payments gasUsed before paid moved final) :
    (capture chain paid incarnations tx.recipient).credit tx.value =
      .ok (capture chain moved incarnations tx.recipient) := by
  have fits := h.receives
  rw [h.gives] at fits ⊢
  exact Snapshot.credit_capture fits

/-- The beneficiary's snapshot before it was rewarded. -/
theorem debit_coinbase (h : tx.Payments gasUsed before paid moved final) :
    (capture chain final incarnations tx.coinbase).debit (tx.coinbaseReward gasUsed) =
      .ok (capture chain moved incarnations tx.coinbase) := by
  have fits := h.rewards
  rw [h.closes] at fits ⊢
  exact Snapshot.debit_capture_credit fits

/-! ### The three transitions -/

namespace Announced

theorem senderIsRecipient (announced : Announced chain setting before tx s incarnations) :
    s.senderIsRecipient = (tx.sender == tx.recipient) := by
  rw [SettlementSection.senderIsRecipient, announced.sender, announced.recipient, address_capture,
    address_capture]

theorem senderIsCoinbase (announced : Announced chain setting before tx s incarnations) :
    s.senderIsCoinbase = (tx.sender == tx.coinbase) := by
  rw [SettlementSection.senderIsCoinbase, announced.sender, announced.coinbase, address_capture,
    address_capture]

theorem recipientIsCoinbase (announced : Announced chain setting before tx s incarnations) :
    s.recipientIsCoinbase = (tx.recipient == tx.coinbase) := by
  rw [SettlementSection.recipientIsCoinbase, announced.recipient, announced.coinbase,
    address_capture, address_capture]

/-- **The sender's transition** is its payment. -/
theorem settleSender_grants (announced : Announced chain setting before tx s incarnations)
    (h : tx.Payments gasUsed before paid moved final) :
    Grants (s.settleSender tx gasUsed (capture chain final setting.incarnations tx.sender))
      (fun t => t = ⟨capture chain before setting.incarnations tx.sender,
        capture chain paid setting.incarnations tx.sender⟩)
      (fun v => v = .nonceOverflow tx.sender ∧
        (before.account tx.sender).nonce.toNat + 1 = UInt64.size) := by
  unfold settleSender
  rw [announced.senderIsRecipient, announced.senderIsCoinbase, announced.sender]
  split
  · exact pay_grants h
  -- Neither of the other payments concerns the sender, so the final world shows it as it has paid.
  · rename_i apart
    obtain ⟨recipient, coinbase⟩ : tx.sender ≠ tx.recipient ∧ tx.sender ≠ tx.coinbase := by
      simpa using apart
    rw [capture_final_of_ne h coinbase.symm, capture_moved_of_ne h recipient.symm]
    exact rfl

/-- **The recipient's transition** is its gain. -/
theorem settleRecipient_eq (announced : Announced chain setting before tx s incarnations)
    (h : tx.Payments gasUsed before paid moved final) (source : Snapshot) :
    s.settleRecipient tx (tx.coinbaseReward gasUsed)
        ⟨source, capture chain paid setting.incarnations tx.sender⟩
        (capture chain final setting.incarnations tx.recipient)
        (capture chain final setting.incarnations tx.coinbase) =
      .ok ⟨capture chain paid setting.incarnations tx.recipient,
        capture chain moved setting.incarnations tx.recipient⟩ := by
  unfold settleRecipient
  rw [announced.senderIsRecipient, announced.recipientIsCoinbase, announced.recipient]
  split
  -- The sender's transition ends where this one starts.
  · rename_i same
    rw [eq_of_beq same, credit_recipient h]
    rfl
  rename_i apart
  have sender : tx.sender ≠ tx.recipient := by simpa using apart
  split
  -- Both ends come from the final world, the reward and then the value taken back.
  · rename_i same
    rw [debit_coinbase h, ← eq_of_beq same]
    dsimp only [bind, Except.bind]
    rw [debit_recipient h]
    rfl
  · rename_i other
    have coinbase : tx.recipient ≠ tx.coinbase := by simpa using other
    rw [capture_final_of_ne h coinbase.symm, capture_paid_of_ne h sender]
    rfl

/-- **The beneficiary's transition** is its reward. -/
theorem settleCoinbase_eq (announced : Announced chain setting before tx s incarnations)
    (h : tx.Payments gasUsed before paid moved final) :
    s.settleCoinbase (tx.coinbaseReward gasUsed)
        (capture chain final setting.incarnations tx.coinbase) =
      .ok ⟨capture chain moved setting.incarnations tx.coinbase,
        capture chain final setting.incarnations tx.coinbase⟩ := by
  unfold settleCoinbase
  rw [announced.senderIsCoinbase, announced.recipientIsCoinbase, announced.coinbase]
  split
  · rw [debit_coinbase h]
    rfl
  -- Nobody else's payment concerns the beneficiary, so it is where it was before all of them.
  · rename_i apart
    obtain ⟨sender, recipient⟩ : tx.sender ≠ tx.coinbase ∧ tx.recipient ≠ tx.coinbase := by
      simpa using apart
    rw [capture_moved_of_ne h recipient, capture_paid_of_ne h sender]
    rfl

end Announced

/-- **The transitions of the three payments.** -/
def payments (chain : Chain) (incarnations : Incarnations) (tx : Transaction)
    (before paid moved final : WorldState) : List Transition :=
  [⟨capture chain before incarnations tx.sender, capture chain paid incarnations tx.sender⟩,
    ⟨capture chain paid incarnations tx.recipient, capture chain moved incarnations tx.recipient⟩,
    ⟨capture chain moved incarnations tx.coinbase, capture chain final incarnations tx.coinbase⟩]

/-- **The section tells of the three payments**, whichever of their parties coincide. -/
theorem Announced.settle_grants (announced : Announced chain setting before tx s incarnations)
    (h : tx.Payments gasUsed before paid moved final) :
    Grants (s.settle chain final setting.incarnations tx gasUsed)
      (fun ts => ts = payments chain setting.incarnations tx before paid moved final)
      (fun v => v = .nonceOverflow tx.sender ∧
        (before.account tx.sender).nonce.toNat + 1 = UInt64.size) := by
  unfold settle
  dsimp only
  rw [announced.sender, announced.recipient, announced.coinbase, address_capture, address_capture,
    address_capture]
  refine Grants.bind (announced.settleSender_grants h) ?_
  rintro _ rfl
  refine Grants.bind_ok (announced.settleRecipient_eq h _) ?_
  refine Grants.bind_ok (announced.settleCoinbase_eq h) ?_
  exact rfl

end SettlementSection

end ExecutionTrace
