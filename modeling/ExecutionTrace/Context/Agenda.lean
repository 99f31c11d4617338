import ExecutionTrace.Context.Frame
import Std.Data.ExtTreeMap

/-!
# The agenda

Which sections wait for which event.  Sections are known by their number; those waiting
for one event are kept in the order in which they were scheduled.

## Main Definitions

* `Agenda` — one store for every kind of event
* `Agenda.schedule`, `Agenda.take`, `Agenda.clear`
* `Agenda.entries` — everything that waits, store by store
* `Agenda.waiting` — the sections waiting for an event, oldest first
* `Agenda.waiting_schedule`, `Agenda.take_fst`, `Agenda.waiting_take`, `Agenda.filter_entries` —
  what the operations do to the stores is what they do to `waiting`

## Design Notes

An event about a context has a place in its store once somebody has waited for it, and loses
the place when it is taken.  All other events have a store of their own, which is emptied.
Either way, what there is to know about the stores is the function `waiting`: `schedule`
extends it at one event and `take` empties it at one event.
-/

namespace ExecutionTrace

/-- **Sections waiting for events.** -/
structure Agenda where
  transactionEnd : List Nat := []
  contextEntry : List Nat := []
  contextExit : Std.ExtTreeMap Nat (List Nat) := ∅
  contextReEntry : Std.ExtTreeMap Nat (List Nat) := ∅
  opcodeEnd : List Nat := []
  rollback : Std.ExtTreeMap Nat (List Nat) := ∅
  transactionClosed : List Nat := []

namespace Agenda

/-- Changes the sections at the place of a context, which is there from then on. -/
def atPlace (change : List Nat → List Nat) (store : Std.ExtTreeMap Nat (List Nat))
    (context : Nat) : Std.ExtTreeMap Nat (List Nat) :=
  store.insert context (change (store.getD context []))

/-- Changes the sections that wait for an event. -/
def atSlot (change : List Nat → List Nat) (a : Agenda) : Event → Agenda
  | .transactionEnd => { a with transactionEnd := change a.transactionEnd }
  | .contextEntry => { a with contextEntry := change a.contextEntry }
  | .contextExit c => { a with contextExit := atPlace change a.contextExit c }
  | .contextReEntry c => { a with contextReEntry := atPlace change a.contextReEntry c }
  | .opcodeEnd => { a with opcodeEnd := change a.opcodeEnd }
  | .rollback c => { a with rollback := atPlace change a.rollback c }
  | .transactionClosed => { a with transactionClosed := change a.transactionClosed }

/-- Lets a section wait for an event, behind those that already do. -/
def schedule (a : Agenda) (e : Event) (waiter : Nat) : Agenda :=
  a.atSlot (· ++ [waiter]) e

/-- Lets a section wait for each of several events. -/
def scheduleAll (a : Agenda) (es : List Event) (waiter : Nat) : Agenda :=
  es.foldl (fun a e => a.schedule e waiter) a

/-- **Taking an event.** The sections that waited for it, oldest first, and the agenda in
which nobody does any longer. -/
def take (a : Agenda) : Event → List Nat × Agenda
  | .transactionEnd => (a.transactionEnd, { a with transactionEnd := [] })
  | .contextEntry => (a.contextEntry, { a with contextEntry := [] })
  | .contextExit c => (a.contextExit.getD c [], { a with contextExit := a.contextExit.erase c })
  | .contextReEntry c =>
      (a.contextReEntry.getD c [], { a with contextReEntry := a.contextReEntry.erase c })
  | .opcodeEnd => (a.opcodeEnd, { a with opcodeEnd := [] })
  | .rollback c => (a.rollback.getD c [], { a with rollback := a.rollback.erase c })
  | .transactionClosed => (a.transactionClosed, { a with transactionClosed := [] })

/-- The entries for one event. -/
def flat (e : Event) (waiters : List Nat) : List (Event × Nat) :=
  waiters.map fun w => (e, w)

/-- The entries of a store that has a place for every context, by context. -/
def keyed (event : Nat → Event) (store : Std.ExtTreeMap Nat (List Nat)) : List (Event × Nat) :=
  store.toList.flatMap fun (c, waiters) => flat (event c) waiters

/-- Every section that waits, beside the event that it waits for. -/
def entries (a : Agenda) : List (Event × Nat) :=
  flat .transactionEnd a.transactionEnd ++ flat .contextEntry a.contextEntry ++
    keyed .contextExit a.contextExit ++ keyed .contextReEntry a.contextReEntry ++
    flat .opcodeEnd a.opcodeEnd ++ keyed .rollback a.rollback ++
    flat .transactionClosed a.transactionClosed

/-- How many events a section still waits for, with multiplicity. -/
def pending (a : Agenda) (waiter : Nat) : Nat :=
  a.entries.countP fun (_, w) => w == waiter

def isEmpty (a : Agenda) : Bool :=
  a.entries.isEmpty

/-- Drops everything, returning what was still waiting. -/
def clear (a : Agenda) : List (Event × Nat) × Agenda :=
  (a.entries, {})

/-! ## The stores as one function -/

/-- **The sections waiting for an event**, oldest first. -/
def waiting (a : Agenda) : Event → List Nat
  | .transactionEnd => a.transactionEnd
  | .contextEntry => a.contextEntry
  | .contextExit c => a.contextExit.getD c []
  | .contextReEntry c => a.contextReEntry.getD c []
  | .opcodeEnd => a.opcodeEnd
  | .rollback c => a.rollback.getD c []
  | .transactionClosed => a.transactionClosed

@[simp]
theorem waiting_empty (e : Event) : ({} : Agenda).waiting e = [] := by
  cases e <;> simp [waiting]

theorem waiting_atSlot (change : List Nat → List Nat) (a : Agenda) (e f : Event) :
    (a.atSlot change e).waiting f = if e = f then change (a.waiting e) else a.waiting f := by
  cases e <;> cases f <;> simp [atSlot, atPlace, waiting, Std.ExtTreeMap.getD_insert]

theorem waiting_schedule (a : Agenda) (e f : Event) (waiter : Nat) :
    (a.schedule e waiter).waiting f =
      if e = f then a.waiting e ++ [waiter] else a.waiting f :=
  waiting_atSlot ..

theorem take_fst (a : Agenda) (e : Event) : (a.take e).1 = a.waiting e := by
  cases e <;> rfl

theorem waiting_take (a : Agenda) (e f : Event) :
    (a.take e).2.waiting f = if e = f then [] else a.waiting f := by
  cases e <;> cases f <;> simp [take, waiting, Std.ExtTreeMap.getD_erase]

/-! ## Entries by event -/

variable {event : Nat → Event} {store : Std.ExtTreeMap Nat (List Nat)}

theorem filter_flat (e f : Event) (waiters : List Nat) :
    (flat f waiters).filter (·.1 = e) = if f = e then flat e waiters else [] := by
  split
  · rename_i same
    subst same
    exact List.filter_eq_self.2 fun entry listed => by
      obtain ⟨w, -, rfl⟩ := List.mem_map.1 listed
      exact decide_eq_true rfl
  · rename_i other
    exact List.filter_eq_nil_iff.2 fun entry listed => by
      obtain ⟨w, -, rfl⟩ := List.mem_map.1 listed
      simpa using other

/-- A store has no entry for the events of another one. -/
theorem filter_keyed_of_ne {e : Event} (other : ∀ c, event c ≠ e) :
    (keyed event store).filter (·.1 = e) = [] := by
  rw [keyed, List.filter_flatMap]
  refine List.flatMap_eq_nil_iff.2 fun place _ => ?_
  rw [filter_flat, if_neg (other place.1)]

/-- The entries for one event of a store are those at its place. -/
theorem filter_keyed (injective : ∀ {c d}, event c = event d → c = d) (context : Nat) :
    (keyed event store).filter (·.1 = event context) =
      flat (event context) (store.getD context []) := by
  have foreign : ∀ places : List (Nat × List Nat), (∀ place ∈ places, place.1 ≠ context) →
      places.flatMap (fun place =>
        (flat (event place.1) place.2).filter (·.1 = event context)) = [] := fun places other =>
    List.flatMap_eq_nil_iff.2 fun place listed => by
      rw [filter_flat, if_neg fun same => other place listed (injective same)]
  have distinct := Std.ExtTreeMap.distinct_keys_toList (t := store)
  rw [keyed, List.filter_flatMap, Std.ExtTreeMap.getD_eq_getD_getElem?]
  cases found : store[context]? with
  | none =>
      refine foreign _ fun place listed same => ?_
      have there := Std.ExtTreeMap.mem_toList_iff_getElem?_eq_some.1 listed
      rw [same, found] at there
      cases there
  | some waiters =>
      -- The store has one place for the context, and no other place has entries for the event.
      have listed := Std.ExtTreeMap.mem_toList_iff_getElem?_eq_some.2 found
      obtain ⟨front, back, split⟩ := List.append_of_mem listed
      rw [split] at distinct ⊢
      obtain ⟨-, behind, apart⟩ := List.pairwise_append.1 distinct
      have before : ∀ place ∈ front, place.1 ≠ context := fun place h same =>
        apart place h _ (List.mem_cons_self ..) (Std.LawfulEqCmp.compare_eq_iff_eq.2 same)
      have after : ∀ place ∈ back, place.1 ≠ context := fun place h same =>
        (List.pairwise_cons.1 behind).1 place h (Std.LawfulEqCmp.compare_eq_iff_eq.2 same.symm)
      rw [List.flatMap_append, List.flatMap_cons, foreign front before, foreign back after,
        filter_flat, if_pos rfl]
      simp

/-- **The entries for one event** are its waiting sections. -/
theorem filter_entries (a : Agenda) (e : Event) :
    a.entries.filter (·.1 = e) = flat e (a.waiting e) := by
  cases e <;>
    simp [entries, waiting, List.filter_append, filter_flat, filter_keyed_of_ne, filter_keyed]

/-- The entries of an agenda list who waits for what. -/
theorem mem_entries {a : Agenda} {entry : Event × Nat} :
    entry ∈ a.entries ↔ entry.2 ∈ a.waiting entry.1 := by
  have own : entry ∈ a.entries ↔ entry ∈ a.entries.filter (·.1 = entry.1) := by simp
  rw [own, filter_entries, flat, List.mem_map]
  constructor
  · rintro ⟨w, waits, same⟩
    exact congrArg Prod.snd same ▸ waits
  · exact fun waits => ⟨entry.2, waits, rfl⟩

end Agenda

end ExecutionTrace
