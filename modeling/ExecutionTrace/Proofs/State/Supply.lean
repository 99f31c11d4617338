import ExecutionTrace.Proofs.State.Transition
import Mathlib.Algebra.BigOperators.Fin
import Mathlib.Algebra.Order.BigOperators.Group.Finset
import Mathlib.Data.FinEnum

/-!
# The supply of a world

All balances of a world together.  A payment takes from the supply what it takes from the account,
and as long as the supply fits into a word no credit out of what has been paid can saturate.

## Main Definitions

* `WorldState.totalBalance` — the supply
* `WorldState.totalBalance_of_debit`, `WorldState.totalBalance_credit` — how payments change it
* `WorldState.totalBalance_transfer` — a payment from one account to another keeps it
* `WorldState.checkedAdd_of_fits` — a credit that the supply has room for is exact
-/

namespace ExecutionTrace

namespace WorldState

variable {w w' : WorldState} {a : Address} {amount : Word}

/-- **All balances together.** -/
def totalBalance (w : WorldState) : Nat :=
  ∑ a : Address, (w.balance a).toNat

theorem balance_le_totalBalance (w : WorldState) (a : Address) :
    (w.balance a).toNat ≤ w.totalBalance :=
  Finset.single_le_sum (f := fun a => (w.balance a).toNat) (fun _ _ => Nat.zero_le _)
    (Finset.mem_univ a)

/-- The supply depends on nothing but balances. -/
theorem totalBalance_congr (same : ∀ a, w'.balance a = w.balance a) :
    w'.totalBalance = w.totalBalance :=
  Finset.sum_congr rfl fun a _ => by rw [same]

/-- **Changing one balance** changes the supply by as much. -/
theorem totalBalance_setBalance (w : WorldState) (a : Address) (amount : Word) :
    (w.setBalance a amount).totalBalance + (w.balance a).toNat =
      w.totalBalance + amount.toNat := by
  -- Of all summands only that of the account differs, so it is taken out on both sides.
  have split : ∀ w : WorldState, w.totalBalance =
      (w.balance a).toNat + ∑ b ∈ Finset.univ.erase a, (w.balance b).toNat :=
    fun w => (Finset.add_sum_erase _ (fun b => (w.balance b).toNat) (Finset.mem_univ a)).symm
  have others : ∑ b ∈ Finset.univ.erase a, ((w.setBalance a amount).balance b).toNat =
      ∑ b ∈ Finset.univ.erase a, (w.balance b).toNat := by
    refine Finset.sum_congr rfl fun b hb => ?_
    rw [balance_setBalance, if_neg (Ne.symm (Finset.ne_of_mem_erase hb))]
  rw [split, split w, others, balance_setBalance, if_pos rfl]
  omega

/-- A change that leaves the balance of an account alone leaves every balance alone. -/
theorem balance_update {change : Account → Account}
    (same : ∀ account, (change account).balance = account.balance) (w : WorldState)
    (a b : Address) : (w.update a change).balance b = w.balance b := by
  rw [balance, account_update]
  split
  · rename_i own
    rw [same, own, balance]
  · rfl

@[simp]
theorem balance_setNonce (w : WorldState) (a b : Address) (nonce : UInt64) :
    (w.setNonce a nonce).balance b = w.balance b := by
  refine balance_update (fun account => ?_) w a b
  rfl

@[simp]
theorem balance_setCode (w : WorldState) (a b : Address) (code : Bytes) :
    (w.setCode a code).balance b = w.balance b := by
  refine balance_update (fun account => ?_) w a b
  rfl

@[simp]
theorem totalBalance_raiseNonce (w : WorldState) (a : Address) :
    (w.raiseNonce a).totalBalance = w.totalBalance :=
  totalBalance_congr fun _ => balance_raiseNonce w

@[simp]
theorem totalBalance_setNonce (w : WorldState) (a : Address) (nonce : UInt64) :
    (w.setNonce a nonce).totalBalance = w.totalBalance :=
  totalBalance_congr fun b => balance_setNonce w a b nonce

@[simp]
theorem totalBalance_setCode (w : WorldState) (a : Address) (code : Bytes) :
    (w.setCode a code).totalBalance = w.totalBalance :=
  totalBalance_congr fun b => balance_setCode w a b code

@[simp]
theorem totalBalance_warmUp (w : WorldState) (a : Address) :
    (w.warmUp a).totalBalance = w.totalBalance :=
  totalBalance_congr fun _ => rfl

@[simp]
theorem totalBalance_coolDown (w : WorldState) : w.coolDown.totalBalance = w.totalBalance :=
  totalBalance_congr fun _ => rfl

/-- **What is paid leaves the supply.** -/
theorem totalBalance_of_debit (paid : w.debit? a amount = some w') :
    w'.totalBalance + amount.toNat = w.totalBalance := by
  obtain ⟨left, enough, rfl⟩ := Option.map_eq_some_iff.1 paid
  have changed := totalBalance_setBalance w a left
  have rest := Word.checkedSub_eq_some_iff.1 enough
  omega

/-- **No balance is raised** from one world to another. -/
def RaisesNone (w w' : WorldState) : Prop :=
  ∀ a, (w'.balance a).toNat ≤ (w.balance a).toNat

theorem RaisesNone.trans {w'' : WorldState} (first : w.RaisesNone w') (second : w'.RaisesNone w'') :
    w.RaisesNone w'' :=
  fun a => (second a).trans (first a)

theorem RaisesNone.of_eq (same : ∀ a, w'.balance a = w.balance a) : w.RaisesNone w' :=
  fun a => (congrArg BitVec.toNat (same a)).le

theorem RaisesNone.totalBalance_le (raises : w.RaisesNone w') :
    w'.totalBalance ≤ w.totalBalance :=
  Finset.sum_le_sum fun a _ => raises a

/-- What an account pays raises no balance. -/
theorem RaisesNone.of_debit (paid : w.debit? a amount = some w') : w.RaisesNone w' := by
  intro b
  obtain ⟨left, enough, rfl⟩ := Option.map_eq_some_iff.1 paid
  have rest := Word.checkedSub_eq_some_iff.1 enough
  rw [balance_setBalance]
  split
  · rename_i own
    rw [← own]
    omega
  · rfl

/-- **A credit that the supply has room for is exact.** -/
theorem checkedAdd_of_fits (fits : w.totalBalance + amount.toNat < Word.size) :
    Word.checkedAdd (w.balance a) amount = some (Word.saturatingAdd (w.balance a) amount) := by
  have part := w.balance_le_totalBalance a
  rw [Word.checkedAdd_eq_some_iff, Word.saturatingAdd, Word.toNat_saturate]
  omega

/-- **What is credited joins the supply.** -/
theorem totalBalance_credit (fits : w.totalBalance + amount.toNat < Word.size) :
    (w.credit a amount).totalBalance = w.totalBalance + amount.toNat := by
  have changed := totalBalance_setBalance w a (Word.saturatingAdd (w.balance a) amount)
  have sum := Word.checkedAdd_eq_some_iff.1 (checkedAdd_of_fits (a := a) fits)
  unfold credit
  omega

/-- **A transfer keeps the supply**, whether or not it is made to another account. -/
theorem totalBalance_transfer {b : Address} (paid : w.debit? a amount = some w')
    (fits : w.totalBalance < Word.size) :
    (w'.credit b amount).totalBalance = w.totalBalance := by
  have left := totalBalance_of_debit paid
  rw [totalBalance_credit (by omega), left]

/-! ## The supply of a listed world -/

theorem totalBalance_empty : ({} : WorldState).totalBalance = 0 := by
  refine Finset.sum_eq_zero fun a _ => ?_
  simp [balance, account, account?]

/-- A new account adds its balance to the supply at most, whatever it replaces. -/
theorem totalBalance_insert_le (w : WorldState) (a : Address) (account : Account) :
    (w.insert a account).totalBalance ≤ w.totalBalance + account.balance.toNat := by
  have same : ∀ b, (w.insert a account).balance b = (w.setBalance a account.balance).balance b := by
    intro b
    rw [balance_setBalance, balance, WorldState.account, account?_insert]
    split <;> rfl
  have changed := totalBalance_setBalance w a account.balance
  rw [totalBalance_congr same]
  omega

/-- The accounts that a world starts with have its supply at least. -/
theorem totalBalance_ofList_le (accounts : List (Address × Account)) :
    (ofList accounts).totalBalance ≤ (accounts.map fun entry => entry.2.balance.toNat).sum := by
  have grows : ∀ w : WorldState,
      (accounts.foldl (fun w entry => w.insert entry.1 entry.2) w).totalBalance ≤
        w.totalBalance + (accounts.map fun entry => entry.2.balance.toNat).sum := by
    induction accounts with
    | nil => simp
    | cons entry accounts ih =>
        intro w
        have first := totalBalance_insert_le w entry.1 entry.2
        refine (ih (w.insert entry.1 entry.2)).trans ?_
        rw [List.map_cons, List.sum_cons]
        omega
  -- The fold starts from the empty world, whose supply is nothing.
  have total := grows {}
  rw [totalBalance_empty, Nat.zero_add] at total
  exact total

end WorldState

end ExecutionTrace
