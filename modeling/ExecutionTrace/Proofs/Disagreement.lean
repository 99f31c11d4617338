import ExecutionTrace.Announcement.Flags
import ExecutionTrace.Proofs.Stateful

/-!
# Disagreements

A fault can lie in what a script asks for: an account that cannot pay, a stack that is too
short, a deployment to an account that exists.  Every other fault would mean that the machine
and the tracer understand one run differently.

## Main Definitions

* `Violation.IsDisagreement`, `Fault.IsDisagreement` — the faults that must never happen
* `Violation.MissesSection` — a section was asked for that does not exist
* `Finds` — a function that does not fail for that reason
* `ExceptionFlags.Declared.any_iff` — declared exceptions are the four that are looked at
-/

namespace ExecutionTrace

/-- **A violation that no script is to blame for.** -/
def Violation.IsDisagreement : Violation → Prop
  | illegalTransition _ _ _ | unresolvedScenario _ _ | unexpectedEvent _ _
  | invalidSuccessBit _ | successBitMismatch _ _ | stipendAlreadyCollected _
  | unknownContext _ | rollbackOfSuccessfulContext _ | deploymentInProgress _
  | notDeploying _ | unsuccessfulSkippedTransaction | unknownSection _ => True
  | _ => False

/-- **A section was asked for that does not exist.** -/
def Violation.MissesSection : Violation → Prop
  | unknownSection _ => True
  | _ => False

/-- A missing section would be a disagreement. -/
theorem Violation.MissesSection.isDisagreement {v : Violation} (misses : v.MissesSection) :
    v.IsDisagreement := by
  cases v
  case unknownSection => exact trivial
  all_goals exact misses.elim

/-- **A fault that no script is to blame for.** -/
def Fault.IsDisagreement : Fault → Prop
  | violation v => v.IsDisagreement
  | noCheckpoint => True
  | _ => False

/-- An account that cannot pay. -/
def Fault.IsCannotPay : Fault → Prop
  | cannotPay _ _ _ => True
  | _ => False

theorem Fault.IsCannotPay.not_isDisagreement {f : Fault} (h : f.IsCannotPay) :
    ¬f.IsDisagreement := by
  cases f with
  | cannotPay => exact fun h => h
  | _ => exact h.elim

namespace ExceptionFlags

variable {e f : ExceptionFlags}

theorem any_of_meets (h : e.meets f = true) : e.any = true := by
  unfold any
  unfold meets at h
  rw [bne_iff_ne] at *
  intro none
  rw [none, UInt8.zero_and] at h
  exact h rfl

/-- No check finds anything in an empty set. -/
theorem meets_of_quiet (quiet : e.any = false) (f : ExceptionFlags) : e.meets f = false :=
  Bool.eq_false_iff.2 fun found => by simp [any_of_meets found] at quiet

/-- A set of declared exceptions is nonempty exactly if one of the four checks finds one. -/
theorem Declared.any_iff (declared : e.Declared) :
    e.any = (e.hasStackException || e.hasStaticFault || e.hasMemoryExpansion || e.hasOutOfGas) := by
  have every : ∀ n : Fin 32, (UInt8.ofNat n != 0) =
      ((UInt8.ofNat n &&& 1 != 0 || UInt8.ofNat n &&& 2 != 0) || UInt8.ofNat n &&& 4 != 0 ||
        UInt8.ofNat n &&& 8 != 0 || UInt8.ofNat n &&& 16 != 0) := by decide
  have small : e.bits.toNat < 32 := UInt8.lt_iff_toNat_lt.1 declared
  have found := every ⟨e.bits.toNat, small⟩
  rw [UInt8.ofNat_toNat] at found
  exact found

end ExceptionFlags

/-! ## Functions that miss no section -/

variable {α β : Type}

/-- **A function that does not fail for want of a section.** -/
def Finds (r : Except Violation α) : Prop :=
  Grants r (fun _ => True) fun v => ¬v.MissesSection

namespace Finds

theorem bind {x : Except Violation α} {f : α → Except Violation β} (hx : Finds x)
    (hf : ∀ a, Finds (f a)) : Finds (x >>= f) :=
  Grants.bind hx fun a _ => hf a

theorem pure (a : α) : Finds (Pure.pure a : Except Violation α) := trivial

theorem error {r : Except Violation α} (found : Finds r) {v : Violation} (failed : r = .error v) :
    ¬v.MissesSection := by
  subst failed
  exact found

/-- A function that does not fail with a disagreement. -/
theorem of_grants {r : Except Violation α} {Q : α → Prop}
    (h : Grants r Q fun v => ¬v.IsDisagreement) : Finds r :=
  h.mono (fun _ _ => trivial) fun _ blameless misses => blameless misses.isDisagreement

theorem transaction (setting : Setting) : Finds setting.transaction := by
  unfold Setting.transaction
  cases setting.transaction? with
  | some tx => exact trivial
  | none => exact id

end Finds

namespace ContextTree

variable (t : ContextTree) (id : Nat)

theorem get_finds : Finds (t.get id) := by
  unfold get
  cases t.frame? id with
  | some f => exact trivial
  | none => exact fun h => h

theorem currentFrame_finds : Finds t.currentFrame := by
  unfold currentFrame
  cases t.current? with
  | some id => exact t.get_finds id
  | none => exact fun h => h

theorem exit_finds (outcome : ContextOutcome) : Finds (t.exit outcome) := by
  unfold exit
  cases t.current? with
  | some id => exact (t.get_finds id).bind fun _ => trivial
  | none => exact fun h => h

theorem subtree_finds : Finds (t.subtree id) :=
  (t.get_finds id).bind fun _ => trivial

theorem markReverted_finds (stamp : Nat) : Finds (t.markReverted id stamp) :=
  (t.subtree_finds id).bind fun _ => trivial

end ContextTree

end ExecutionTrace
