import ExecutionTrace.Context.Agenda
import Mathlib.Data.List.DropRight
import Mathlib.Data.List.Basic

/-!
# The agenda is a log

An agenda keeps the sections that wait for each event apart.  All that it ever answers can be read
off a single list of registrations in the order in which they were made, from which taking an event
removes the registrations for it.

## Main Definitions

* `Agenda.Operation`, `Agenda.carryOut` — what may be done with an agenda, in any order
* `Agenda.handedOut` — everything that has been handed out on the way
* `Log`, `Log.of` — the registrations that remain, in chronological order
* `Log.Listing` — a listing of a log by kind of event, then by context, then by time
* `Agenda.Keeps` — an agenda keeps the registrations of a log
* `Agenda.refines_log` — whatever is done with it, an agenda answers as the log does

## Design Notes

Nothing distinguishes registrations of the same section for the same event, so that none is lost or
duplicated is a statement on lists up to order, with multiplicity.

A store of an agenda may have a place for a context that nobody waits for.  `Keeps` compares the
waiting sections only, and so does not notice.
-/

namespace ExecutionTrace

/-! ## The listing order -/

namespace Event

/-- The place of the kind of an event in the listing order. -/
def kind : Event → Nat
  | transactionEnd => 0
  | contextEntry => 1
  | contextExit _ => 2
  | contextReEntry _ => 3
  | opcodeEnd => 4
  | rollback _ => 5
  | transactionClosed => 6

/-- The context that an event is about; zero for those about no particular one. -/
def context : Event → Nat
  | contextExit c | contextReEntry c | rollback c => c
  | _ => 0

/-- **An event is listed before another one**, or in the same place: by kind, in the order in which
the kinds are declared, and within a kind by context. -/
def Precedes (e f : Event) : Prop :=
  e.kind < f.kind ∨ e.kind = f.kind ∧ e.context ≤ f.context

theorem Precedes.refl (e : Event) : e.Precedes e :=
  .inr ⟨rfl, Nat.le_refl _⟩

end Event

/-! ## What is done with an agenda -/

namespace Agenda

/-- **What may be done with an agenda.** -/
inductive Operation
  | schedule (e : Event) (waiter : Nat)
  | take (e : Event)
  | clear
  deriving DecidableEq, Repr

namespace Operation

/-- The registration that an operation makes. -/
def registration? : Operation → Option (Event × Nat)
  | schedule e waiter => some (e, waiter)
  | take _ | clear => none

/-- After the operation nobody waits for the event any longer. -/
def empties (e : Event) : Operation → Bool
  | schedule _ _ => false
  | take f => f = e
  | clear => true

end Operation

/-- **Doing something with an agenda**: the registrations that are handed out, and the agenda
without them. -/
def perform (a : Agenda) : Operation → List (Event × Nat) × Agenda
  | .schedule e waiter => ([], a.schedule e waiter)
  | .take e => ((a.take e).1.map fun w => (e, w), (a.take e).2)
  | .clear => a.clear

/-- The agenda after any sequence of operations. -/
def carryOut (a : Agenda) (operations : List Operation) : Agenda :=
  operations.foldl (fun a o => (a.perform o).2) a

/-- Everything that has been handed out in a sequence of operations, in this order. -/
def handedOut (a : Agenda) : List Operation → List (Event × Nat)
  | [] => []
  | o :: operations => (a.perform o).1 ++ handedOut (a.perform o).2 operations

/-- The registrations that a sequence of operations makes. -/
def registrations (operations : List Operation) : List (Event × Nat) :=
  operations.filterMap Operation.registration?

/-- **The sections scheduled for an event since it was last taken**, or everything cleared, in the
order in which they were scheduled. -/
def scheduledSince (e : Event) (operations : List Operation) : List Nat :=
  ((registrations (operations.rtakeWhile fun o => !o.empties e)).filter (·.1 = e)).map Prod.snd

end Agenda

/-! ## Logs -/

/-- **A log**: registrations in the order in which they were made. -/
abbrev Log := List (Event × Nat)

namespace Log

/-- The sections that a log lists for an event. -/
def waiting (l : Log) (e : Event) : List Nat :=
  (l.filter (·.1 = e)).map Prod.snd

/-- **Keeping a log**: a registration goes to its end, and one that is handed out is removed. -/
def update (l : Log) : Agenda.Operation → Log
  | .schedule e waiter => l ++ [(e, waiter)]
  | .take e => l.filter (·.1 ≠ e)
  | .clear => []

/-- The log after any sequence of operations. -/
def of (operations : List Agenda.Operation) : Log :=
  operations.foldl update []

/-- **A listing of a log**: everything in it and nothing else, grouped by kind of event, then by
context, and for one event in the order of the log. -/
structure Listing (l : Log) (listed : List (Event × Nat)) : Prop where
  perm : listed.Perm l
  grouped : listed.Pairwise fun r s => r.1.Precedes s.1
  chronological : ∀ e, listed.filter (·.1 = e) = l.filter (·.1 = e)

theorem of_concat (operations : List Agenda.Operation) (o : Agenda.Operation) :
    of (operations ++ [o]) = (of operations).update o := by
  rw [of, List.foldl_append]
  rfl

/-- The entries for one event are its waiting sections. -/
theorem filter_eq_map_waiting (l : Log) (e : Event) :
    l.filter (·.1 = e) = (l.waiting e).map fun w => (e, w) := by
  rw [waiting, List.map_map]
  refine (List.map_id _).symm.trans (List.map_congr_left fun r listed => ?_)
  obtain ⟨-, same⟩ := List.mem_filter.1 listed
  exact Prod.ext (of_decide_eq_true same) rfl

theorem waiting_schedule (l : Log) (e f : Event) (waiter : Nat) :
    (l.update (.schedule e waiter)).waiting f =
      l.waiting f ++ if e = f then [waiter] else [] := by
  by_cases same : e = f <;> simp [update, waiting, List.filter_append, same]

theorem waiting_take (l : Log) (e f : Event) :
    (l.update (.take e)).waiting f = if e = f then [] else l.waiting f := by
  rw [update, waiting, List.filter_filter]
  split
  · rename_i same
    simp [same]
  · rename_i other
    refine congrArg (List.map Prod.snd) (List.filter_congr fun r _ => ?_)
    by_cases here : r.1 = f <;> simp [here, Ne.symm other]

theorem waiting_clear (l : Log) (e : Event) : (l.update .clear).waiting e = [] := rfl

end Log

/-! ## Agendas that keep a log -/

namespace Agenda

/-- **An agenda keeps the registrations of a log.** -/
def Keeps (a : Agenda) (l : Log) : Prop :=
  ∀ e, a.waiting e = l.waiting e

variable {a : Agenda} {l : Log}

theorem keeps_empty : Keeps {} [] := by
  intro e
  rw [waiting_empty]
  rfl

/-- **What is done with an agenda is done with its log.** -/
theorem Keeps.perform (keeps : a.Keeps l) (o : Operation) : (a.perform o).2.Keeps (l.update o) := by
  intro e
  cases o with
  | schedule f waiter =>
      rw [Agenda.perform, waiting_schedule, Log.waiting_schedule]
      split
      · rename_i same
        rw [same, keeps e]
      · rw [keeps e, List.append_nil]
  | take f => rw [Agenda.perform, waiting_take, Log.waiting_take, keeps e]
  | clear => exact waiting_empty e

theorem keeps_carryOut (operations : List Operation) :
    (carryOut {} operations).Keeps (.of operations) := by
  induction operations using List.reverseRecOn with
  | nil => exact keeps_empty
  | append_singleton operations o ih =>
      rw [Log.of_concat, carryOut, List.foldl_append]
      exact ih.perform o

/-! ### Entries -/

theorem kind_of_mem_flat {e : Event} {waiters : List Nat} {entry : Event × Nat}
    (listed : entry ∈ flat e waiters) : entry.1.kind = e.kind := by
  obtain ⟨w, -, rfl⟩ := List.mem_map.1 listed
  rfl

theorem kind_of_mem_keyed (event : Nat → Event) {n : Nat} (alike : ∀ c, (event c).kind = n)
    {store : Std.ExtTreeMap Nat (List Nat)} {entry : Event × Nat}
    (listed : entry ∈ keyed event store) : entry.1.kind = n := by
  obtain ⟨place, -, listed⟩ := List.mem_flatMap.1 listed
  exact (kind_of_mem_flat listed).trans (alike _)

theorem pairwise_flat (e : Event) (waiters : List Nat) :
    (flat e waiters).Pairwise fun r s => r.1.Precedes s.1 :=
  List.pairwise_map.2 (List.pairwise_of_forall fun _ _ => .refl _)

/-- The entries of a store come by context. -/
theorem pairwise_keyed (event : Nat → Event)
    (ascending : ∀ {c d}, c < d → (event c).Precedes (event d))
    (store : Std.ExtTreeMap Nat (List Nat)) :
    (keyed event store).Pairwise fun r s => r.1.Precedes s.1 := by
  refine List.pairwise_flatMap.2 ⟨fun place _ => pairwise_flat .., ?_⟩
  refine Std.ExtTreeMap.ordered_keys_toList.imp fun before r listed s listed' => ?_
  obtain ⟨w, -, rfl⟩ := List.mem_map.1 listed
  obtain ⟨w', -, rfl⟩ := List.mem_map.1 listed'
  exact ascending (Nat.compare_eq_lt.1 before)

/-- Entries listed by kind stay so if others of a later kind follow them. -/
theorem pairwise_append_of_kind {front back : List (Event × Nat)} (n : Nat)
    (ordered : front.Pairwise fun r s => r.1.Precedes s.1) (early : ∀ r ∈ front, r.1.kind < n)
    (ordered' : back.Pairwise fun r s => r.1.Precedes s.1) (late : ∀ s ∈ back, s.1.kind = n) :
    (front ++ back).Pairwise (fun r s => r.1.Precedes s.1) ∧
      ∀ r ∈ front ++ back, r.1.kind < n + 1 := by
  refine ⟨List.pairwise_append.2 ⟨ordered, ordered', fun r listed s listed' => ?_⟩, ?_⟩
  · exact .inl (late s listed' ▸ early r listed)
  · intro r listed
    rcases List.mem_append.1 listed with listed | listed
    · exact Nat.lt_succ_of_lt (early r listed)
    · exact late r listed ▸ Nat.lt_succ_self _

/-- Entries are grouped by event, in the listing order. -/
theorem pairwise_entries (a : Agenda) :
    a.entries.Pairwise fun r s => r.1.Precedes s.1 := by
  have zero := pairwise_append_of_kind 0 .nil (fun _ h => nomatch h)
    (pairwise_flat .transactionEnd a.transactionEnd) fun _ => kind_of_mem_flat
  have one := pairwise_append_of_kind 1 zero.1 zero.2
    (pairwise_flat .contextEntry a.contextEntry) fun _ => kind_of_mem_flat
  have two := pairwise_append_of_kind 2 one.1 one.2
    (pairwise_keyed .contextExit (fun before => .inr ⟨rfl, before.le⟩) a.contextExit) fun _ =>
      kind_of_mem_keyed .contextExit fun _ => rfl
  have three := pairwise_append_of_kind 3 two.1 two.2
    (pairwise_keyed .contextReEntry (fun before => .inr ⟨rfl, before.le⟩) a.contextReEntry) fun _ =>
      kind_of_mem_keyed .contextReEntry fun _ => rfl
  have four := pairwise_append_of_kind 4 three.1 three.2
    (pairwise_flat .opcodeEnd a.opcodeEnd) fun _ => kind_of_mem_flat
  have five := pairwise_append_of_kind 5 four.1 four.2
    (pairwise_keyed .rollback (fun before => .inr ⟨rfl, before.le⟩) a.rollback) fun _ =>
      kind_of_mem_keyed .rollback fun _ => rfl
  exact (pairwise_append_of_kind 6 five.1 five.2
    (pairwise_flat .transactionClosed a.transactionClosed) fun _ => kind_of_mem_flat).1

/-- **The entries of an agenda are a listing of its log.** -/
theorem Keeps.listing (keeps : a.Keeps l) : l.Listing a.entries := by
  have same : ∀ e, a.entries.filter (·.1 = e) = l.filter (·.1 = e) := fun e => by
    rw [filter_entries, keeps e, flat, Log.filter_eq_map_waiting]
  refine ⟨List.perm_iff_count.2 fun r => ?_, a.pairwise_entries, same⟩
  have counted : ∀ l : Log, l.count r = (l.filter (·.1 = r.1)).count r := fun l =>
    (List.count_filter (by exact decide_eq_true rfl)).symm
  rw [counted a.entries, counted l, same]

theorem keeps_entries (a : Agenda) : a.Keeps a.entries := fun e => by
  rw [Log.waiting, filter_entries, flat, List.map_map]
  exact (List.map_id _).symm

/-! ### Nothing is lost or handed out twice -/

/-- An operation takes what it hands out from what was there or is registered by it. -/
theorem perm_perform (a : Agenda) (o : Operation) :
    (a.entries ++ o.registration?.toList).Perm ((a.perform o).1 ++ (a.perform o).2.entries) := by
  have kept := (a.keeps_entries.perform o).listing.perm
  refine List.Perm.trans ?_ (List.Perm.append_left _ kept.symm)
  cases o with
  | schedule e waiter => exact .refl _
  | take e =>
      have taken : (a.take e).1.map (fun w => (e, w)) = a.entries.filter (·.1 = e) := by
        rw [take_fst, filter_entries, flat]
      have rest := List.filter_append_perm (fun r => decide (r.1 = e)) a.entries
      simp only [Operation.registration?, Option.toList_none, List.append_nil, Agenda.perform,
        Log.update, taken]
      refine rest.symm.trans (.of_eq ?_)
      congr 1
      exact List.filter_congr fun r _ => by simp
  | clear => exact .refl _

/-- **Every registration is handed out once or remains.** -/
theorem perm_handedOut (operations : List Operation) : ∀ a : Agenda,
    (a.entries ++ registrations operations).Perm
      (a.handedOut operations ++ (a.carryOut operations).entries) := by
  induction operations with
  | nil => exact fun a => by simp [registrations, handedOut, carryOut]
  | cons o operations ih =>
      intro a
      have first := a.perm_perform o
      have rest := ih (a.perform o).2
      have split : registrations (o :: operations) =
          o.registration?.toList ++ registrations operations := by
        cases made : o.registration? <;> simp [registrations, made]
      rw [split, handedOut, ← List.append_assoc]
      refine (first.append_right (registrations operations)).trans ?_
      rw [List.append_assoc, List.append_assoc]
      exact rest.append_left _

/-! ### The sections that wait -/

/-- **Who waits for an event** are the sections scheduled for it since it was last taken. -/
theorem waiting_log (operations : List Operation) (e : Event) :
    (Log.of operations).waiting e = scheduledSince e operations := by
  induction operations using List.reverseRecOn with
  | nil => rfl
  | append_singleton operations o ih =>
      rw [Log.of_concat]
      cases o with
      | schedule f waiter =>
          rw [Log.waiting_schedule, ih, scheduledSince, scheduledSince,
            List.rtakeWhile_concat_pos _ _ _ rfl]
          by_cases same : f = e <;> simp [registrations, Operation.registration?, same]
      | take f =>
          rw [Log.waiting_take, ih, scheduledSince, scheduledSince]
          by_cases same : f = e
          · rw [if_pos same, List.rtakeWhile_concat_neg _ _ _ (by simp [Operation.empties, same])]
            rfl
          · rw [if_neg same, List.rtakeWhile_concat_pos _ _ _ (by simp [Operation.empties, same])]
            simp [registrations, Operation.registration?]
      | clear =>
          rw [Log.waiting_clear, scheduledSince,
            List.rtakeWhile_concat_neg _ _ _ (by simp [Operation.empties])]
          rfl

/-- **An agenda behaves as the log of its registrations.** Whatever has been scheduled, taken and
cleared, taking an event hands out the sections scheduled for it since it was last taken or
everything was cleared, and keeps all others; what is pending, listed or cleared is what remains in
the log; and every registration has been handed out once or remains. -/
theorem refines_log (operations : List Operation) :
    let a := carryOut {} operations
    let l := Log.of operations
    (∀ e, (a.take e).1 = scheduledSince e operations ∧ (a.take e).1 = l.waiting e ∧
      ∀ f, ((a.take e).2.take f).1 = if e = f then [] else (a.take f).1) ∧
    (∀ waiter, a.pending waiter = l.countP (·.2 = waiter)) ∧
    l.Listing a.entries ∧
    a.clear.1 = a.entries ∧ a.clear.2.entries = [] ∧
    (a.isEmpty = true ↔ l = []) ∧
    (registrations operations).Perm (handedOut {} operations ++ l) := by
  intro a l
  have keeps : a.Keeps l := keeps_carryOut operations
  have listing := keeps.listing
  refine ⟨fun e => ⟨?_, ?_, fun f => ?_⟩, fun waiter => ?_, listing, rfl, rfl, ?_, ?_⟩
  · rw [take_fst, keeps e]
    exact waiting_log operations e
  · rw [take_fst, keeps e]
  · rw [take_fst, waiting_take, take_fst]
  · rw [pending, listing.perm.countP_eq]
    exact List.countP_congr fun r _ => by simp
  · rw [isEmpty, List.isEmpty_iff]
    constructor
    · intro none
      exact List.nil_perm.1 (none ▸ listing.perm)
    · intro none
      exact List.perm_nil.1 (none ▸ listing.perm)
  · have all := perm_handedOut operations {}
    exact all.trans (listing.perm.append_left _)

/-- What is left when everything is cleared comes by kind, then by context, then by time. -/
example : handedOut {} [.schedule (.rollback 2) 7, .schedule (.rollback 3) 8,
    .schedule (.contextReEntry 2) 7, .schedule (.contextExit 4) 7, .schedule (.rollback 2) 6,
    .take (.rollback 1), .take (.rollback 3), .clear] =
    [(.rollback 3, 8), (.contextExit 4, 7), (.contextReEntry 2, 7), (.rollback 2, 7),
      (.rollback 2, 6)] := by
  decide +kernel

end Agenda

end ExecutionTrace
