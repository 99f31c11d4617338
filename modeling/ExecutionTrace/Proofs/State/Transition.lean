import ExecutionTrace.Proofs.Disagreement
import ExecutionTrace.Proofs.State.Face
import ExecutionTrace.Proofs.Stateful

/-!
# Transitions of snapshots and of worlds

What paying, receiving and spending a nonce make of a snapshot, and of the account itself.  The
two agree: what a snapshot can pay the account can pay, and with the same balance left.

## Main Definitions

* `Snapshot.debit_grants`, `Snapshot.credit_grants`, `Snapshot.raiseNonce_grants` — the result
  of a transition, and that its failure is no disagreement
* `WorldState.debit?_eq`, `WorldState.credit_eq` — the same of the world
-/

namespace ExecutionTrace

namespace Snapshot

variable (s : Snapshot) (amount : Word)

/-- **Only what exceeds the balance cannot be taken away.** -/
theorem debit_exactly : Grants (s.debit amount)
    (fun t => ∃ left, Word.checkedSub s.balance amount = some left ∧ t = { s with balance := left })
    (fun v => v = .balanceUnderflow s.address s.balance amount ∧
      s.balance.toNat < amount.toNat) := by
  unfold debit
  cases paid : Word.checkedSub s.balance amount with
  | some left => exact ⟨left, rfl, rfl⟩
  | none => exact ⟨rfl, Word.checkedSub_eq_none_iff.1 paid⟩

theorem debit_grants : Grants (s.debit amount)
    (fun t => ∃ left, Word.checkedSub s.balance amount = some left ∧ t = { s with balance := left })
    (fun v => ¬v.IsDisagreement) :=
  (s.debit_exactly amount).mono (fun _ h => h) fun _ h => h.1 ▸ id

/-- **Only a sum that exceeds the largest word cannot be credited.** -/
theorem credit_exactly : Grants (s.credit amount)
    (fun t => ∃ sum, Word.checkedAdd s.balance amount = some sum ∧ t = { s with balance := sum })
    (fun v => v = .balanceOverflow s.address s.balance amount ∧
      Word.size ≤ s.balance.toNat + amount.toNat) := by
  unfold credit
  cases received : Word.checkedAdd s.balance amount with
  | some sum => exact ⟨sum, rfl, rfl⟩
  | none => exact ⟨rfl, Word.checkedAdd_eq_none_iff.1 received⟩

theorem credit_grants : Grants (s.credit amount)
    (fun t => ∃ sum, Word.checkedAdd s.balance amount = some sum ∧ t = { s with balance := sum })
    (fun v => ¬v.IsDisagreement) :=
  (s.credit_exactly amount).mono (fun _ h => h) fun _ h => h.1 ▸ id

/-- **Only the largest nonce cannot be raised.** -/
theorem raiseNonce_exactly : Grants s.raiseNonce
    (fun t => t = { s with nonce := s.nonce + 1 } ∧ s.nonce.toNat + 1 < UInt64.size)
    (fun v => v = .nonceOverflow s.address ∧ s.nonce.toNat + 1 = UInt64.size) := by
  unfold raiseNonce
  split
  · rename_i fits
    exact ⟨rfl, fits⟩
  · rename_i full
    have bound := s.nonce.toNat_lt
    refine ⟨rfl, ?_⟩
    simp only [UInt64.size] at full ⊢
    omega

theorem raiseNonce_grants : Grants s.raiseNonce
    (fun t => t = { s with nonce := s.nonce + 1 } ∧ s.nonce.toNat + 1 < UInt64.size)
    (fun v => ¬v.IsDisagreement) :=
  s.raiseNonce_exactly.mono (fun _ h => h) fun _ h => h.1 ▸ id

end Snapshot

namespace Word

variable {a b c : Word}

/-- A sum that fits is the saturating one. -/
theorem saturatingAdd_eq_of_checkedAdd (h : checkedAdd a b = some c) : saturatingAdd a b = c := by
  have sum := checkedAdd_eq_some_iff.1 h
  have fits := toNat_lt_size c
  apply BitVec.eq_of_toNat_eq
  rw [saturatingAdd, toNat_saturate, sum]
  omega

/-- What is taken away and given back leaves everything as it was. -/
theorem saturatingAdd_of_checkedSub (h : checkedSub a b = some c) : saturatingAdd c b = a := by
  have sum := checkedSub_eq_some_iff.1 h
  have fits := toNat_lt_size a
  apply BitVec.eq_of_toNat_eq
  rw [saturatingAdd, toNat_saturate]
  omega

/-- Nothing is taken away. -/
theorem eq_of_checkedSub_zero (h : checkedSub a 0 = some c) : c = a := by
  have sum := checkedSub_eq_some_iff.1 h
  have none : (0 : Word).toNat = 0 := rfl
  apply BitVec.eq_of_toNat_eq
  omega

/-- Nothing is added. -/
theorem eq_of_checkedAdd_zero (h : checkedAdd a 0 = some c) : c = a := by
  have sum := checkedAdd_eq_some_iff.1 h
  have none : (0 : Word).toNat = 0 := rfl
  apply BitVec.eq_of_toNat_eq
  omega

theorem checkedSub_isSome (h : b.toNat ≤ a.toNat) : ∃ c, checkedSub a b = some c := by
  cases found : checkedSub a b with
  | some c => exact ⟨c, rfl⟩
  | none =>
      have := checkedSub_eq_none_iff.1 found
      omega

end Word

namespace WorldState

variable (w : WorldState) {a b : Address} {amount left : Word}

theorem debit?_eq (h : Word.checkedSub (w.balance a) amount = some left) :
    w.debit? a amount = some (w.setBalance a left) := by
  rw [debit?, h]
  rfl

theorem balance_setBalance : (w.setBalance a amount).balance b =
    if a = b then amount else w.balance b := by
  unfold balance setBalance
  rw [account_update]
  split <;> rfl

@[simp]
theorem balance_raiseNonce : (w.raiseNonce a).balance b = w.balance b := by
  unfold balance raiseNonce
  rw [account_update]
  split
  · rename_i same
    rw [same]
  · rfl

@[simp]
theorem hasCode_warmUp : (w.warmUp a).hasCode b = w.hasCode b := rfl

@[simp]
theorem hasCode_setBalance : (w.setBalance a amount).hasCode b = w.hasCode b := by
  unfold hasCode setBalance
  rw [account_update]
  split
  · rename_i same
    rw [same]
    rfl
  · rfl

/-! What a debit leaves alone, whether or not it can be paid. -/

@[simp]
theorem isWarm_debit : ((w.debit? a amount).getD w).isWarm b = w.isWarm b := by
  unfold debit?
  cases Word.checkedSub (w.balance a) amount <;> rfl

@[simp]
theorem hasCode_debit : ((w.debit? a amount).getD w).hasCode b = w.hasCode b := by
  unfold debit?
  cases Word.checkedSub (w.balance a) amount with
  | none => rfl
  | some left => exact hasCode_setBalance w

@[simp]
theorem hasCode_credit : (w.credit a amount).hasCode b = w.hasCode b :=
  hasCode_setBalance w

end WorldState

end ExecutionTrace
