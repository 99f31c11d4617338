import ExecutionTrace.Proofs.Tracer.Announcements
import ExecutionTrace.Proofs.Tracer.Resolution

/-!
# What an agenda lists

Between two announcements the agenda says for every event which sections wait for it.  The end of a
transaction lets sections react twice and drops what is left.

## Main Definitions

* `Tracer.waiters_of_filter` — the only section that awaits an event
* `Tracing.filter_awaits` — in the course of a transaction, only calls await anything but its end
* `Tracer.dropped` — what the end of a transaction drops
* `Tracer.dropped_of_endTransaction` — whatever waits, for any event but the two that the end raises
-/

namespace ExecutionTrace

/-- An agenda has no entry twice if it lists nobody twice at one event. -/
theorem Agenda.nodup_entries {a : Agenda} (nodup : ∀ e, (a.waiting e).Nodup) :
    a.entries.Nodup := by
  refine List.nodup_iff_count_le_one.2 fun entry => ?_
  have own : a.entries.count entry = (a.entries.filter (·.1 = entry.1)).count entry :=
    (List.count_filter (by exact decide_eq_true rfl)).symm
  rw [own, filter_entries]
  exact List.nodup_iff_count_le_one.1
    ((nodup entry.1).map fun _ _ same => congrArg Prod.snd same) entry

namespace Tracer

variable {t t' : Tracer}

theorem waiters_eq_singleton {e : Event} {id : Nat} (only : ∀ i, i ∈ t.waiters e ↔ i = id) :
    t.waiters e = [id] := by
  refine List.perm_singleton.1 ?_
  refine (List.perm_ext_iff_of_nodup (t.nodup_waiters e) (List.nodup_singleton _)).2 fun i => ?_
  rw [List.mem_singleton]
  exact only i

/-- **The only section that awaits an event** is the only one listed there. -/
theorem waiters_of_filter {e : Event} {s : Section}
    (sole : t.sections.toList.filter (fun s => decide (e ∈ s.awaits)) = [s]) :
    ∃ id, t.waiters e = [id] ∧ t.sections[id]? = some s := by
  obtain ⟨front, back, split, before, waits, after⟩ := List.filter_eq_cons_iff.1 sole
  have at_each : ∀ i : Nat, t.sections[i]? = (front ++ s :: back)[i]? := by
    intro i
    rw [← split, Array.getElem?_toList]
  have found : t.sections[front.length]? = some s := by
    rw [at_each, List.getElem?_append_right (Nat.le_refl _), Nat.sub_self]
    rfl
  refine ⟨front.length, waiters_eq_singleton fun i => ?_, found⟩
  rw [mem_waiters]
  constructor
  · rintro ⟨s', there, waits'⟩
    rw [at_each] at there
    -- What stands in front of the section or behind it does not await the event.
    rcases Nat.lt_trichotomy i front.length with earlier | same | later
    · rw [List.getElem?_append_left earlier] at there
      exact absurd (decide_eq_true waits') (before s' (List.mem_of_getElem? there))
    · exact same
    · obtain ⟨k, rfl⟩ := Nat.exists_eq_add_of_lt later
      rw [List.getElem?_append_right (by omega), Nat.add_assoc, Nat.add_sub_cancel_left,
        List.getElem?_cons_succ] at there
      exact absurd (decide_eq_true waits')
        (List.filter_eq_nil_iff.1 after s' (List.mem_of_getElem? there))
  · rintro rfl
    exact ⟨s, found, of_decide_eq_true waits⟩

end Tracer

/-- **In the course of a transaction**, only its calls await anything but its end. -/
theorem Tracing.filter_awaits {t : Tracer} {older : List Section} {launch : LaunchSection}
    {calls : List CallSection} (tracing : Tracing t older launch calls) {e : Event}
    (other : e ≠ .transactionEnd) :
    t.sections.toList.filter (fun s => decide (e ∈ s.awaits)) =
      (calls.filter fun c => decide (e ∈ c.awaits)).map .call := by
  have silent : older.filter (fun s => decide (e ∈ s.awaits)) = [] := by
    refine List.filter_eq_nil_iff.2 fun s old waits => ?_
    have waits := of_decide_eq_true waits
    rw [tracing.silent s old] at waits
    cases waits
  have launched : e ∉ (Section.launch launch).awaits := by
    intro waits
    have waits : e ∈ launch.awaits := waits
    rw [tracing.launched] at waits
    exact other (List.mem_singleton.1 waits)
  rw [tracing.sections, List.filter_append, silent, List.nil_append,
    List.filter_cons_of_neg (by simpa using launched), List.filter_map]
  rfl

/-! ## The end of a transaction -/

namespace Tracer

variable {t t' : Tracer} {chain : Chain} {world : WorldState} {outcome : TransactionOutcome}

/-- The reactions to the end of a transaction. -/
def wrapUp (chain : Chain) (world : WorldState) (outcome : TransactionOutcome) :
    Announcement Unit := do
  requireTransaction
  fire chain (.transactionEnd world outcome)
  fire chain .transactionClosed

/-- **What the end of a transaction drops**: whoever waits after the reactions to it, and what
for. -/
def dropped (chain : Chain) (world : WorldState) (outcome : TransactionOutcome) (t : Tracer) :
    List (Event × Nat) :=
  match wrapUp chain world outcome t with
  | .ok _ t' => t'.agenda.clear.1
  | .error _ _ => []

/-- After the reactions there is nothing left to do but to drop the rest. -/
theorem endTransaction_eq : endTransaction chain world outcome = (do
    wrapUp chain world outcome
    modify fun t => { t with agenda := t.agenda.clear.2, transaction? := none }) := by
  unfold endTransaction wrapUp
  simp only [bind_assoc]

/-- **Who waits after the reactions**: whoever waited before, for any other event. -/
theorem waiting_of_wrapUp (wrapped : wrapUp chain world outcome t = .ok () t') (e : Event) :
    t'.agenda.waiting e =
      if e = .transactionEnd ∨ e = .transactionClosed then [] else t.agenda.waiting e := by
  have fired : ∀ occurrence t, Yields (fire chain occurrence t)
      (fun _ t' => t'.agenda = (t.agenda.take occurrence.event).2) fun _ => True := by
    intro occurrence t
    unfold fire
    dsimp only
    split
    · exact rfl
    · trivial
  have takes : Yields (wrapUp chain world outcome t)
      (fun _ t' => t'.agenda =
        ((t.agenda.take .transactionEnd).2.take .transactionClosed).2) fun _ => True := by
    unfold wrapUp
    refine Ends.bind ((requireTransaction_ends t).mono (fun _ _ h => h) fun _ _ _ => trivial) ?_
    rintro _ _ ⟨rfl, -⟩
    refine Ends.bind (fired _ _) fun _ t₁ first => ?_
    refine (fired _ t₁).mono (fun _ t₂ second => ?_) fun _ h => h
    rw [second, first]
    rfl
  rw [takes.value wrapped, Agenda.waiting_take, Agenda.waiting_take]
  by_cases closing : e = .transactionClosed
  · simp [closing]
  · simp [closing, eq_comm]

/-- **What is dropped** are all registrations but those for the two events that the end raises, and
none of them twice. -/
theorem dropped_of_endTransaction (attuned : t.Attuned)
    (ended : endTransaction chain world outcome t = .ok () t') :
    (dropped chain world outcome t).Nodup ∧ ∀ e id, (e, id) ∈ dropped chain world outcome t ↔
      id ∈ t.agenda.waiting e ∧ e ≠ .transactionEnd ∧ e ≠ .transactionClosed := by
  unfold dropped
  cases wrapped : wrapUp chain world outcome t with
  | error v t₁ =>
      -- The announcement would have failed together with the reactions.
      have refused : Yields (endTransaction chain world outcome t) (fun _ _ => False)
          fun _ => True := by
        rw [endTransaction_eq]
        refine Ends.bind (Q := fun _ _ => False) ?_ fun _ _ h => h.elim
        rw [wrapped]
        trivial
      exact (refused.value ended).elim
  | ok _ t₁ =>
      have waiting := waiting_of_wrapUp wrapped
      refine ⟨Agenda.nodup_entries fun e => ?_, fun e id => ?_⟩
      · rw [waiting e]
        split
        · exact List.nodup_nil
        · rw [attuned e]
          exact t.nodup_waiters e
      · refine Agenda.mem_entries.trans ?_
        show id ∈ t₁.agenda.waiting e ↔ _
        rw [waiting e]
        split <;> rename_i raised
        · refine ⟨fun waits => absurd waits List.not_mem_nil, fun h => ?_⟩
          exact absurd raised (not_or.2 h.2)
        · exact ⟨fun waits => ⟨waits, not_or.1 raised⟩, fun h => h.1⟩

end Tracer

end ExecutionTrace
