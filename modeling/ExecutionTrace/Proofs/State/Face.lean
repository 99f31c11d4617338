import ExecutionTrace.State.Snapshot
import Mathlib.Logic.Function.Basic

/-!
# What can be seen of the accounts

Account rows are compared on the balance, nonce, code and warmth of an account.  A world and
the incarnations show every address with these four, and everything that a step does to a
world is an update of that view at one address.

## Main Definitions

* `Face` — balance, nonce, code and warmth of one account
* `View` — the faces of all accounts; `WorldState.view` is the one that a machine shows
* `Snapshot.IsCurrent` — a snapshot carries the deployment number and status of now

## Design Notes

The incarnations matter to a view only through the init code of deployments in progress.  While
that stays the same, views depend on the world alone.
-/

namespace ExecutionTrace

/-- **What account rows are compared on.** -/
structure Face where
  balance : Word
  nonce : UInt64
  code : Bytecode
  isWarm : Bool
  deriving DecidableEq

/-- The face of every account. -/
abbrev View := Address → Face

/-- **Views that agree on everything but code.** -/
def View.SameButCode (v w : View) : Prop :=
  ∀ a, ∃ code, v a = { w a with code }

theorem View.SameButCode.trans {u v w : View} (h : u.SameButCode v) (h' : v.SameButCode w) :
    u.SameButCode w := by
  intro a
  obtain ⟨code, same⟩ := h a
  obtain ⟨code', same'⟩ := h' a
  exact ⟨code, by rw [same, same']⟩

namespace Snapshot

def face (s : Snapshot) : Face where
  balance := s.balance
  nonce := s.nonce
  code := s.code
  isWarm := s.isWarm

/-- The deployment number and status of a snapshot are those that the incarnations show. -/
def IsCurrent (incarnations : Incarnations) (s : Snapshot) : Prop :=
  s.deploymentNumber = incarnations.number s.address ∧
    s.deploymentStatus = incarnations.isDeploying s.address

/-- Snapshots of one address with current deployment information are told apart by their
faces. -/
theorem eq_of_face {incarnations : Incarnations} {s t : Snapshot} (address : s.address = t.address)
    (hs : s.IsCurrent incarnations) (ht : t.IsCurrent incarnations) (face : s.face = t.face) :
    s = t := by
  obtain ⟨number, status⟩ := hs
  obtain ⟨number', status'⟩ := ht
  rw [address] at number status
  cases s
  cases t
  simp_all [Snapshot.face]

variable (chain : Chain) (world : WorldState) (incarnations : Incarnations) (a : Address)

/-- A captured snapshot, field by field. -/
theorem capture_eq (isWarm : Bool) : capture world incarnations a isWarm =
    { address := a
      balance := world.balance a
      nonce := (world.account a).nonce
      code := ⟨(incarnations.initCode? a).getD (world.account a).code⟩
      isWarm := isWarm
      deploymentNumber := incarnations.number a
      deploymentStatus := incarnations.isDeploying a } := by
  unfold capture
  cases incarnations.initCode? a <;> rfl

theorem isCurrent_capture (isWarm : Bool) :
    (capture world incarnations a isWarm).IsCurrent incarnations := by
  rw [capture_eq]
  exact ⟨rfl, rfl⟩

theorem isCurrent_canonical : (canonical chain world incarnations a).IsCurrent incarnations :=
  isCurrent_capture ..

@[simp]
theorem address_canonical : (canonical chain world incarnations a).address = a := by
  rw [canonical, capture_eq]

@[simp]
theorem balance_canonical : (canonical chain world incarnations a).balance = world.balance a := by
  rw [canonical, capture_eq]

end Snapshot

namespace WorldState

/-- **What a machine shows of its accounts.** -/
def view (chain : Chain) (world : WorldState) (incarnations : Incarnations) : View := fun a =>
  { balance := world.balance a
    nonce := (world.account a).nonce
    code := ⟨(incarnations.initCode? a).getD (world.account a).code⟩
    isWarm := a.isPrecompile chain || world.isWarm a }

variable (chain : Chain) (world : WorldState) (incarnations : Incarnations) (a : Address)

theorem face_canonical : (Snapshot.canonical chain world incarnations a).face =
    world.view chain incarnations a := by
  rw [Snapshot.canonical, Snapshot.capture_eq]
  rfl

theorem view_warmUp : (world.warmUp a).view chain incarnations =
    Function.update (world.view chain incarnations) a
      { world.view chain incarnations a with isWarm := true } := by
  funext b
  by_cases same : b = a
  · subst same
    simp [view, isWarm_warmUp, balance, account]
  · have other : ¬a = b := fun h => same h.symm
    simp [view, isWarm_warmUp, balance, account, same, other]

/-- Changing an account changes the view at its address. -/
theorem view_update (change : Account → Account) : (world.update a change).view chain incarnations =
    Function.update (world.view chain incarnations) a
      { balance := (change (world.account a)).balance
        nonce := (change (world.account a)).nonce
        code := ⟨(incarnations.initCode? a).getD (change (world.account a)).code⟩
        isWarm := a.isPrecompile chain || world.isWarm a } := by
  have warmth : ∀ b, (world.update a change).isWarm b = world.isWarm b := fun _ => rfl
  funext b
  by_cases same : b = a
  · subst same
    simp [view, balance, account_update, warmth]
  · have other : ¬a = b := fun h => same h.symm
    simp [view, balance, account_update, warmth, same, other]

theorem view_setBalance (amount : Word) : (world.setBalance a amount).view chain incarnations =
    Function.update (world.view chain incarnations) a
      { world.view chain incarnations a with balance := amount } :=
  view_update ..

/-- Code is all that incarnations decide about a view. -/
theorem view_sameButCode (later : Incarnations) :
    (world.view chain incarnations).SameButCode (world.view chain later) :=
  fun _ => ⟨_, rfl⟩

theorem view_setCode_sameButCode (code : Bytes) :
    (world.view chain incarnations).SameButCode
      ((world.setCode a code).view chain incarnations) := by
  have set : (world.setCode a code).view chain incarnations = _ := view_update ..
  intro b
  rw [set]
  by_cases own : b = a
  · rw [own, Function.update_self]
    exact ⟨_, rfl⟩
  · rw [Function.update_of_ne own]
    exact ⟨_, rfl⟩

end WorldState

end ExecutionTrace
