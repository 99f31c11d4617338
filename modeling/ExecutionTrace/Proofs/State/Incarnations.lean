import ExecutionTrace.Proofs.Stateful

/-!
# Reading the table of incarnations

What the table says of an address after it has been changed, and after a constructor has ended.

## Main Definitions

* `Incarnations.start_eq`, `Incarnations.stop_eq` — what a change does to the table, also when it is
  refused
* `Incarnations.Quiet` — no constructor is running
* `Incarnations.ended` — the table once a constructor has ended
-/

namespace ExecutionTrace

namespace Incarnations

/-- No constructor is running. -/
def Quiet (t : Incarnations) : Prop :=
  ∀ a, t.isDeploying a = false

variable {t : Incarnations}

theorem number_set (t : Incarnations) (a b : Address) (incarnation : Incarnation) :
    (t.set a incarnation).number b = if a = b then incarnation.number else t.number b := by
  rw [number, get_set]
  split <;> rfl

theorem initCode?_set (t : Incarnations) (a b : Address) (incarnation : Incarnation) :
    (t.set a incarnation).initCode? b =
      if a = b then incarnation.initCode? else t.initCode? b := by
  rw [initCode?, get_set]
  split <;> rfl

theorem isDeploying_set (t : Incarnations) (a b : Address) (incarnation : Incarnation) :
    (t.set a incarnation).isDeploying b =
      if a = b then incarnation.initCode?.isSome else t.isDeploying b := by
  rw [isDeploying, initCode?, get_set]
  split <;> rfl

/-! ## Changes -/

/-- The entry that a start makes for its address says nothing new about it. -/
theorem touch_eq (t : Incarnations) (a : Address) :
    touch a t = .ok (t.get a) ⟨t.table.insertIfNew a {}⟩ := by
  have same : (⟨t.table.insertIfNew a {}⟩ : Incarnations).get a = t.get a := by
    rw [Incarnations.get, Std.ExtTreeMap.getD_insertIfNew]
    split
    · rename_i missing
      exact (Std.ExtTreeMap.getD_eq_fallback missing.2).symm
    · rfl
  exact congrArg (EStateM.Result.ok · _) same

/-- Where a constructor is running there is an entry. -/
theorem touched_of_isDeploying {a : Address} (busy : t.isDeploying a = true) :
    (⟨t.table.insertIfNew a {}⟩ : Incarnations) = t := by
  have there : a ∈ t.table := by
    refine Decidable.byContradiction fun missing => ?_
    rw [isDeploying, initCode?, Incarnations.get, Std.ExtTreeMap.getD_eq_fallback missing] at busy
    cases busy
  refine congrArg Incarnations.mk (Std.ExtTreeMap.ext_getElem? fun b => ?_)
  rw [Std.ExtTreeMap.getElem?_insertIfNew, if_neg]
  rintro ⟨same, missing⟩
  exact missing there

/-- What is written over an entry that has just been made does not depend on it. -/
theorem set_touched (t : Incarnations) (a : Address) (incarnation : Incarnation) :
    (⟨t.table.insertIfNew a {}⟩ : Incarnations).set a incarnation = t.set a incarnation := by
  refine congrArg Incarnations.mk (Std.ExtTreeMap.ext_getElem? fun b => ?_)
  rw [Std.ExtTreeMap.getElem?_insert, Std.ExtTreeMap.getElem?_insert]
  split
  · rfl
  · rename_i other
    rw [Std.ExtTreeMap.getElem?_insertIfNew, if_neg fun both => other both.1]

/-- **A start** is refused where a constructor is running, and then it leaves the table alone. -/
theorem start_eq (t : Incarnations) (a : Address) (initCode? : Option Bytes) :
    start a initCode? t =
      if t.isDeploying a then .error (.deploymentInProgress a) t
      else .ok () (t.set a { number := t.number a + 1, initCode? }) := by
  refine (bind_eq_of_ok (touch_eq t a)).trans ?_
  cases busy : t.isDeploying a with
  | true =>
      have running : (t.get a).initCode?.isSome = true := busy
      rw [if_pos running, if_pos rfl]
      exact congrArg (EStateM.Result.error _) (touched_of_isDeploying busy)
  | false =>
      have vacant : ¬(t.get a).initCode?.isSome = true := Bool.eq_false_iff.1 busy
      rw [if_neg vacant]
      exact congrArg (EStateM.Result.ok ()) (t.set_touched ..)

/-- **An end** is refused where no constructor is running, and then it leaves the table alone. -/
theorem stop_eq (t : Incarnations) (a : Address) :
    stop a t =
      if t.isDeploying a then .ok () (t.set a { number := t.number a })
      else .error (.notDeploying a) t := by
  refine (get_bind_eq).trans ?_
  rw [isDeploying, initCode?]
  cases (t.get a).initCode? <;> rfl

/-- The deployment to an address that is not being deployed to can start. -/
theorem start_eq_ok {a : Address} (vacant : t.isDeploying a = false) (initCode? : Option Bytes) :
    start a initCode? t = .ok () (t.set a { number := t.number a + 1, initCode? }) := by
  rw [start_eq, if_neg (Bool.eq_false_iff.1 vacant)]

/-- A deployment without a constructor leaves everything quiet. -/
theorem Quiet.set (quiet : t.Quiet) (a : Address) (number : Nat) :
    (t.set a { number, initCode? := none }).Quiet := by
  intro b
  rw [isDeploying_set]
  split
  · rfl
  · exact quiet b

/-! ## The end of a constructor -/

/-- The incarnations once a constructor is no longer running at an address. -/
def ended (t : Incarnations) (a : Address) : Incarnations :=
  if t.isDeploying a then t.set a { number := t.number a, initCode? := none } else t

/-- The end of a constructor gives no number back. -/
@[simp]
theorem number_ended (t : Incarnations) (a b : Address) : (t.ended a).number b = t.number b := by
  unfold ended
  split
  · rw [number_set]
    split
    · rename_i same
      rw [same]
    · rfl
  · rfl

/-- **Nothing is deployed where a constructor has ended.** -/
theorem initCode?_ended (t : Incarnations) (a b : Address) :
    (t.ended a).initCode? b = if a = b then none else t.initCode? b := by
  unfold ended
  split
  · rw [initCode?_set]
  · rename_i ended
    split
    · rename_i same
      rw [← same]
      simpa [isDeploying] using ended
    · rfl

end Incarnations

end ExecutionTrace
