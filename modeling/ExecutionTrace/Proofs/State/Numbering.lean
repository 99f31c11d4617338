import ExecutionTrace.Proofs.State.Incarnations
import Mathlib.Data.List.DropRight
import Mathlib.Data.List.Basic

/-!
# How incarnations are numbered

The table of incarnations under any sequence of attempts to start a deployment, to end one or to
reset everything, at any addresses.  What the table says of an address can be read off the
operations that have succeeded there since the last reset: it counts the starts among them, and a
constructor is running exactly if the last one set it running.

## Main Definitions

* `Incarnations.Operation`, `Incarnations.attempt`, `Incarnations.perform` — what may be done with
  the table, its answer and what it leaves behind
* `Incarnations.carryOut` — the table after any sequence of attempts
* `Incarnations.eventsAt` — what has succeeded at an address since the last reset
* `Incarnations.change_eq` — when an operation is refused, and what it changes otherwise
* `Incarnations.get_carryOut` — an address is what its events have made of it
* `Incarnations.numbering_law` — what the table says after any sequence of attempts

## Design Notes

Whether an operation succeeds is decided by the table that it is attempted on, and the events are
the operations that did succeed.  So the law has two halves that lean on each other: what the table
says in terms of the events, and what becomes an event in terms of what the table says.

A start makes an entry for its address before it is refused.  It is only refused where a constructor
is running, and there the entry has been made long before.
-/

namespace ExecutionTrace

namespace Incarnations

/-! ## What is done with the table -/

/-- **What may be done with the incarnations.** -/
inductive Operation
  | startExecuting (a : Address) (initCode : Bytes)
  | startSkipped (a : Address)
  | finish (a : Address)
  | reset
  deriving DecidableEq

namespace Operation

/-- The address that an operation is about.  A reset is about all of them. -/
def address? : Operation → Option Address
  | startExecuting a _ | startSkipped a | finish a => some a
  | reset => none

/-- The operation is about an address, possibly among others. -/
def concerns (a : Address) (o : Operation) : Bool :=
  o.address?.all (· = a)

/-- The operation starts a deployment, whether a constructor is to run or not. -/
def isStart : Operation → Bool
  | startExecuting _ _ | startSkipped _ => true
  | finish _ | reset => false

/-- The init code of the constructor that the operation sets running. -/
def initCode? : Operation → Option Bytes
  | startExecuting _ initCode => some initCode
  | startSkipped _ | finish _ | reset => none

/-- **Why an operation is refused**, if it is: nothing starts where a constructor is running, and
nothing ends where none is. -/
def refusal? (t : Incarnations) : Operation → Option Violation
  | startExecuting a _ | startSkipped a =>
      if t.isDeploying a then some (.deploymentInProgress a) else none
  | finish a => if t.isDeploying a then none else some (.notDeploying a)
  | reset => none

/-- What an operation that is not refused makes of an address that it is about. -/
def outcome (i : Incarnation) : Operation → Incarnation
  | startExecuting _ initCode => { number := i.number + 1, initCode? := some initCode }
  | startSkipped _ => { number := i.number + 1 }
  | finish _ => { number := i.number }
  | reset => {}

end Operation

/-- **What an operation does to the table**, also when it is refused. -/
def Operation.change : Operation → Change Unit
  | startExecuting a initCode => start a (some initCode)
  | startSkipped a => start a none
  | finish a => stop a
  | reset => modify Incarnations.reset

/-- **Attempting an operation**: the table that it leads to, unless it is refused. -/
def attempt (t : Incarnations) : Operation → Except Violation Incarnations
  | .startExecuting a initCode => t.startExecuting a initCode
  | .startSkipped a => t.startSkipped a
  | .finish a => t.finish a
  | .reset => .ok t.reset

/-- **The table after an attempt**, whether it is refused or not.  An operation that is refused has
made its entry by then. -/
def perform (t : Incarnations) (o : Operation) : Incarnations :=
  match o.change t with
  | .ok _ t' => t'
  | .error _ t' => t'

/-- The table after any sequence of attempts. -/
def carryOut (t : Incarnations) (operations : List Operation) : Incarnations :=
  operations.foldl perform t

/-- The operations of a sequence that succeed, each at its time. -/
def accepted (t : Incarnations) : List Operation → List Operation
  | [] => []
  | o :: operations =>
      (if (t.attempt o).isOk then [o] else []) ++ accepted (t.perform o) operations

/-- **What has happened at an address**: the operations that have succeeded there since the last
reset. -/
def eventsAt (a : Address) (operations : List Operation) : List Operation :=
  ((accepted {} operations).rtakeWhile (· ≠ .reset)).filter (·.concerns a)

/-- **What events make of an address** that nothing has happened at before. -/
def told (events : List Operation) : Incarnation where
  number := events.countP (·.isStart)
  initCode? := events.getLast?.bind (·.initCode?)

variable {t t' : Incarnations} {o : Operation} {a : Address}

theorem carryOut_append (t : Incarnations) (first rest : List Operation) :
    t.carryOut (first ++ rest) = (t.carryOut first).carryOut rest :=
  List.foldl_append ..

theorem carryOut_concat (t : Incarnations) (operations : List Operation) (o : Operation) :
    t.carryOut (operations ++ [o]) = (t.carryOut operations).perform o :=
  List.foldl_concat ..

/-! ## One attempt -/

/-- The table after an operation that is not refused. -/
def altered (t : Incarnations) (o : Operation) : Incarnations :=
  match o.address? with
  | some a => t.set a (o.outcome (t.get a))
  | none => {}

/-- **An operation succeeds unless there is a reason to refuse it**, and one that is refused leaves
the table as it was. -/
theorem change_eq (t : Incarnations) (o : Operation) :
    o.change t = match o.refusal? t with
      | some v => .error v t
      | none => .ok () (t.altered o) := by
  cases o with
  | startExecuting b initCode =>
      rw [Operation.change, start_eq, Operation.refusal?]
      cases t.isDeploying b <;> rfl
  | startSkipped b =>
      rw [Operation.change, start_eq, Operation.refusal?]
      cases t.isDeploying b <;> rfl
  | finish b =>
      rw [Operation.change, stop_eq, Operation.refusal?]
      cases t.isDeploying b <;> rfl
  | reset => rfl

theorem attempt_eq (t : Incarnations) (o : Operation) :
    t.attempt o = match o.refusal? t with
      | some v => .error v
      | none => .ok (t.altered o) := by
  have same : t.attempt o = answer o.change t := by
    cases o <;> rfl
  rw [same, answer, change_eq]
  cases o.refusal? t <;> rfl

theorem attempt_eq_error_iff {v : Violation} :
    t.attempt o = .error v ↔ o.refusal? t = some v := by
  rw [attempt_eq]
  cases o.refusal? t <;> simp

theorem isOk_attempt (t : Incarnations) (o : Operation) :
    (t.attempt o).isOk = (o.refusal? t).isNone := by
  rw [attempt_eq]
  cases o.refusal? t <;> rfl

theorem perform_eq (t : Incarnations) (o : Operation) :
    t.perform o = if (o.refusal? t).isNone then t.altered o else t := by
  rw [perform, change_eq]
  cases o.refusal? t <;> rfl

/-- Only a reset is about no address in particular. -/
theorem Operation.eq_reset (h : o.address? = none) : o = .reset := by
  cases o with
  | reset => rfl
  | _ => cases h

/-- **What succeeds changes nothing but what it is about.** -/
theorem get_altered (t : Incarnations) (o : Operation) (a : Address) :
    (t.altered o).get a = if o.concerns a then o.outcome (t.get a) else t.get a := by
  unfold altered
  cases about : o.address? with
  | none =>
      rw [Operation.eq_reset about]
      exact get_empty a
  | some b =>
      rw [get_set, Operation.concerns, about]
      by_cases own : b = a <;> simp [own]

/-- Whether an operation is refused depends on the address that it is about. -/
theorem refusal?_congr (about : o.concerns a = true) (same : t.get a = t'.get a) :
    o.refusal? t = o.refusal? t' := by
  have status : t.isDeploying a = t'.isDeploying a := by
    rw [isDeploying, isDeploying, initCode?, initCode?, same]
  cases o with
  | reset => rfl
  | _ b =>
      obtain rfl : b = a := of_decide_eq_true about
      simp only [Operation.refusal?, status]

/-! ## Attempts at other addresses -/

/-- **No attempt is observable at an address that it is not about.** -/
theorem get_perform_of_not_concerns (other : o.concerns a = false) :
    (t.perform o).get a = t.get a := by
  rw [perform_eq]
  split
  · rw [get_altered, if_neg (by simp [other])]
  · rfl

/-- An attempt at an address depends on what is known of this address. -/
theorem get_perform_congr (about : o.concerns a = true) (same : t.get a = t'.get a) :
    (t.perform o).get a = (t'.perform o).get a := by
  rw [perform_eq, perform_eq, refusal?_congr about same]
  split
  · rw [get_altered, get_altered, same]
  · exact same

/-- **An address depends on the attempts at it alone.** -/
theorem get_carryOut_filter (operations : List Operation) (a : Address) :
    (carryOut {} (operations.filter (·.concerns a))).get a = (carryOut {} operations).get a := by
  induction operations using List.reverseRecOn with
  | nil => rfl
  | append_singleton operations o ih =>
      rw [List.filter_append, List.filter_singleton, carryOut_concat]
      cases about : o.concerns a with
      | true =>
          rw [cond_true, carryOut_concat]
          exact get_perform_congr about ih
      | false =>
          rw [cond_false, List.append_nil, get_perform_of_not_concerns about]
          exact ih

/-- **Attempts that are refused might as well not have been made.** -/
theorem carryOut_accepted (t : Incarnations) (operations : List Operation) :
    t.carryOut (t.accepted operations) = t.carryOut operations := by
  induction operations generalizing t with
  | nil => rfl
  | cons o operations ih =>
      have first : t.carryOut (if (t.attempt o).isOk then [o] else []) = t.perform o := by
        split
        · rfl
        · rename_i refused
          rw [perform_eq, ← isOk_attempt, if_neg refused]
          rfl
      rw [accepted, carryOut_append, first]
      exact ih (t.perform o)

/-! ## Events -/

theorem accepted_concat (t : Incarnations) (operations : List Operation) (o : Operation) :
    t.accepted (operations ++ [o]) =
      t.accepted operations ++ if ((t.carryOut operations).attempt o).isOk then [o] else [] := by
  induction operations generalizing t with
  | nil => exact List.append_nil _
  | cons o' operations ih =>
      rw [List.cons_append, accepted, accepted, ih, List.append_assoc]
      rfl

/-- **One more attempt adds an event** where it succeeds, unless it is a reset. -/
theorem eventsAt_concat (a : Address) (operations : List Operation) (o : Operation) :
    eventsAt a (operations ++ [o]) =
      if (o.refusal? (carryOut {} operations)).isSome then eventsAt a operations
      else if o = .reset then []
      else eventsAt a operations ++ if o.concerns a then [o] else [] := by
  rw [eventsAt, accepted_concat, isOk_attempt]
  cases refused : o.refusal? (carryOut {} operations) with
  | some v => simp [eventsAt]
  | none =>
      by_cases resets : o = .reset
      · simp [resets]
      · rw [Option.isNone_none, if_pos rfl,
          List.rtakeWhile_concat_pos _ _ _ (by simpa using resets), List.filter_append,
          List.filter_singleton]
        simp [eventsAt, resets]

theorem concerns_of_mem_eventsAt {operations : List Operation}
    (listed : o ∈ eventsAt a operations) : o.concerns a = true :=
  (List.mem_filter.1 listed).2

/-- One more event has its outcome. -/
theorem told_concat (events : List Operation) (h : o ≠ .reset) :
    told (events ++ [o]) = o.outcome (told events) := by
  cases o with
  | reset => exact absurd rfl h
  | _ => simp [told, Operation.outcome, Operation.isStart, Operation.initCode?]

/-- **An address is what its events have made of it.** -/
theorem get_carryOut (operations : List Operation) (a : Address) :
    (carryOut {} operations).get a = told (eventsAt a operations) := by
  induction operations using List.reverseRecOn with
  | nil => exact get_empty a
  | append_singleton operations o ih =>
      rw [carryOut_concat, perform_eq, eventsAt_concat]
      cases refused : o.refusal? (carryOut {} operations) with
      | some v => exact ih
      | none =>
          rw [Option.isNone_none, if_pos rfl, get_altered, ih]
          by_cases resets : o = .reset
          · subst resets
            rfl
          · cases about : o.concerns a with
            | true => simp [resets, told_concat]
            | false => simp [resets]

/-! ## The law -/

/-- The events at an address are about it, so that one which sets a constructor running does so
there. -/
theorem initCode?_getLast?_iff (operations : List Operation) (a : Address) (initCode : Bytes) :
    (eventsAt a operations).getLast?.bind (·.initCode?) = some initCode ↔
      (eventsAt a operations).getLast? = some (.startExecuting a initCode) := by
  rw [Option.bind_eq_some_iff]
  constructor
  · rintro ⟨o, last, sets⟩
    have about := concerns_of_mem_eventsAt (List.mem_of_getLast? last)
    cases o with
    | startExecuting b =>
        obtain rfl : b = a := of_decide_eq_true about
        obtain rfl := Option.some.inj sets
        exact last
    | _ => cases sets
  · intro last
    exact ⟨_, last, rfl⟩

/-- **A start is refused exactly while a constructor is running** at its address. -/
theorem start_refused_iff (starts : o.isStart = true) (here : o.address? = some a) (v : Violation) :
    t.attempt o = .error v ↔ t.isDeploying a = true ∧ v = .deploymentInProgress a := by
  rw [attempt_eq_error_iff]
  cases o with
  | finish | reset => cases starts
  | _ b =>
      obtain rfl := Option.some.inj here
      cases deploying : t.isDeploying b <;> simp [Operation.refusal?, deploying, eq_comm]

/-- **An end is refused exactly while no constructor is running** at its address. -/
theorem finish_refused_iff (t : Incarnations) (a : Address) (v : Violation) :
    t.attempt (.finish a) = .error v ↔ t.isDeploying a = false ∧ v = .notDeploying a := by
  rw [attempt_eq_error_iff]
  cases deploying : t.isDeploying a <;> simp [Operation.refusal?, deploying, eq_comm]

/-- **The numbering law.** After any sequence of attempts, the number of an address is that of the
starts that have succeeded there since the last reset; a constructor is running exactly if the last
event there set it running, and the init code is the one that it was given.  A start is refused
exactly while a constructor is running, and an end exactly while none is.  No attempt is observable
at an address that it is not about, and one that is refused is not observable at all. -/
theorem numbering_law (operations : List Operation) (a : Address) :
    let t := carryOut {} operations
    let events := eventsAt a operations
    t.number a = events.countP (·.isStart) ∧
    (t.isDeploying a = true ↔
      ∃ initCode, events.getLast? = some (.startExecuting a initCode)) ∧
    (∀ initCode, t.initCode? a = some initCode ↔
      events.getLast? = some (.startExecuting a initCode)) ∧
    (∀ o : Operation, o.isStart = true → o.address? = some a →
      ∀ v, t.attempt o = .error v ↔ t.isDeploying a = true ∧ v = .deploymentInProgress a) ∧
    (∀ v, t.attempt (.finish a) = .error v ↔ t.isDeploying a = false ∧ v = .notDeploying a) ∧
    (∀ o : Operation, o.concerns a = false → (t.perform o).get a = t.get a) ∧
    (∀ o v, t.attempt o = .error v → t.perform o = t) ∧
    (carryOut {} (operations.filter (·.concerns a))).get a = t.get a ∧
    carryOut {} (accepted {} operations) = t := by
  intro t events
  have here : t.get a = told events := get_carryOut operations a
  have shown : ∀ initCode, t.initCode? a = some initCode ↔
      events.getLast? = some (.startExecuting a initCode) := by
    intro initCode
    rw [Incarnations.initCode?, here]
    exact initCode?_getLast?_iff operations a initCode
  refine ⟨?_, ?_, shown, ?_, t.finish_refused_iff a, ?_, ?_, ?_, ?_⟩
  · rw [number, here]
    rfl
  · rw [isDeploying, Option.isSome_iff_exists]
    exact exists_congr shown
  · intro o starts about
    exact start_refused_iff starts about
  · intro o other
    exact get_perform_of_not_concerns other
  · intro o v refused
    rw [perform_eq, attempt_eq_error_iff.1 refused]
    rfl
  · exact get_carryOut_filter operations a
  · exact carryOut_accepted {} operations

/-- Of two addresses that are deployed to in turns, one is being deployed to for the third time
since the reset, whatever has been refused meanwhile and whatever happens at the other one. -/
theorem numbering_of_interleaved_deployments :
    let t := carryOut {} [.startSkipped 0xa, .reset, .startExecuting 0xa [0x60], .startSkipped 0xb,
      .startExecuting 0xa [0x61], .finish 0xb, .finish 0xa, .startSkipped 0xa,
      .startExecuting 0xa [0x62]]
    t.number 0xa = 3 ∧ t.initCode? 0xa = some [0x62] ∧
    t.attempt (.startSkipped 0xa) = .error (.deploymentInProgress 0xa) ∧
    (t.perform (.startSkipped 0xb)).get 0xa = t.get 0xa ∧
    t.perform (.startSkipped 0xa) = t := by
  intro t
  obtain ⟨counted, running, shown, starts, -, apart, refused, -⟩ := numbering_law _ 0xa
  have deploying : t.isDeploying 0xa = true := running.2 ⟨[0x62], by decide +kernel⟩
  have refusal := (starts (.startSkipped 0xa) rfl rfl _).2 ⟨deploying, rfl⟩
  refine ⟨counted.trans (by decide +kernel), (shown _).2 (by decide +kernel), refusal, ?_, ?_⟩
  · exact apart (.startSkipped 0xb) (by decide)
  · exact refused _ _ refusal

end Incarnations

end ExecutionTrace
