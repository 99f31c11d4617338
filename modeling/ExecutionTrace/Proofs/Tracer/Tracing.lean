import ExecutionTrace.Proofs.Call.Reaction
import Mathlib.Data.List.Basic

/-!
# The sections of one transaction

While a transaction that executes code is traced, the sections of the trace are those of
earlier transactions, which wait for nothing, then the launch section, then one section for each
call.  This file says what the announcements made in the course of a transaction do to the list
of its calls.

## Main Definitions

* `Tracing` — the sections of a tracer, split into earlier ones, launch section and calls
* `CallSection.heed` — a call after an event, if it waits for the event
* `Tracing.fire_yields`, `Tracing.rollBackAll_yields` — an event reaches the calls that wait for it
* `Tracing.announceCall_yields` — an accepted call joins the others

## Design Notes

Nothing but the end of the transaction concerns the launch section once the root context is
active, so every other event is a map over the list of calls.
-/

namespace ExecutionTrace

/-- **The sections of a tracer** in the course of a transaction that executes code. -/
structure Tracing (t : Tracer) (older : List Section) (launch : LaunchSection)
    (calls : List CallSection) : Prop where
  sections : t.sections.toList = older ++ .launch launch :: calls.map .call
  attuned : t.Attuned
  silent : ∀ s ∈ older, s.awaits = []
  launched : launch.awaits = [.transactionEnd]

namespace CallSection

/-- A call after an event, if it waits for the event. -/
def heed (e : Event) (change : CallSection → CallSection) (c : CallSection) : CallSection :=
  if e ∈ c.awaits then change c else c

/-- A call after the rollback of its context, if it waits for that, the world being as given. -/
def fallBack (chain : Chain) (world : WorldState) (incarnations : Incarnations)
    (revertStamp : Nat) (c : CallSection) : CallSection :=
  c.heed (.rollback c.shared.context) fun c =>
    c.reverted (.canonical chain world incarnations c.caller c.callee) incarnations revertStamp

@[simp]
theorem shared_fallBack (chain : Chain) (world : WorldState) (incarnations : Incarnations)
    (revertStamp : Nat) (c : CallSection) :
    (c.fallBack chain world incarnations revertStamp).shared = c.shared := by
  unfold fallBack heed
  split <;> rfl

/-- **A call that is over stays over** when its context is rolled back, and is no longer
standing. -/
theorem Resolved.fallBack {c : CallSection} (h : c.Resolved) (chain : Chain) (world : WorldState)
    (incarnations : Incarnations) (revertStamp : Nat) :
    (c.fallBack chain world incarnations revertStamp).Resolved ∧
      ¬(c.fallBack chain world incarnations revertStamp).Standing := by
  unfold CallSection.fallBack heed
  rcases h with dismissed | standing | undone
  · rw [dismissed.awaits_eq, if_neg (by simp)]
    exact ⟨.dismissed dismissed, dismissed.not_standing⟩
  · rw [standing.awaits_eq, if_pos (by simp)]
    have undone := standing.reverted (.canonical chain world incarnations c.caller c.callee)
      incarnations revertStamp
    exact ⟨.undone undone, undone.not_standing⟩
  · rw [undone.awaits_eq, if_neg (by simp)]
    exact ⟨.undone undone, undone.not_standing⟩

/-- Calls that do not wait for an event are left alone. -/
theorem map_heed_of_nobody {e : Event} {change : CallSection → CallSection}
    {calls : List CallSection} (nobody : ∀ c ∈ calls, e ∉ c.awaits) :
    calls.map (·.heed e change) = calls := by
  conv_rhs => rw [← List.map_id calls]
  exact List.map_congr_left fun c hc => if_neg (nobody c hc)

end CallSection

/-- A change of calls as a change of sections. -/
def Section.onCall (change : CallSection → CallSection) : Section → Section
  | call c => .call (change c)
  | s => s

namespace Tracing

variable {t : Tracer} {older : List Section} {launch : LaunchSection} {calls : List CallSection}

theorem mem_iff (tracing : Tracing t older launch calls) {s : Section} :
    s ∈ t.sections ↔ s ∈ older ∨ s = .launch launch ∨ ∃ c ∈ calls, s = .call c := by
  rw [← Array.mem_toList_iff, tracing.sections]
  simp [eq_comm]

/-- The sections that wait for an event other than the end of the transaction are calls. -/
theorem call_of_awaits (tracing : Tracing t older launch calls) {s : Section} (hs : s ∈ t.sections)
    {e : Event} (waits : e ∈ s.awaits) (other : e ≠ .transactionEnd) :
    ∃ c ∈ calls, s = .call c := by
  rcases tracing.mem_iff.1 hs with old | rfl | found
  · rw [tracing.silent s old] at waits
    cases waits
  · have waits : e ∈ launch.awaits := waits
    rw [tracing.launched] at waits
    exact absurd (List.mem_singleton.1 waits) other
  · exact found

/-- A change of all sections that concerns calls alone. -/
theorem map_onCall (tracing : Tracing t older launch calls) {change : Section → Section}
    {onCall : CallSection → CallSection} (quiet : ∀ s, s.awaits = [] → change s = s)
    (launched : change (.launch launch) = .launch launch)
    (calling : ∀ c ∈ calls, change (.call c) = .call (onCall c)) {t' : Tracer}
    (heeded : Tracer.Heeded t change t') : Tracing t' older launch (calls.map onCall) where
  sections := by
    have kept : older.map change = older := by
      conv_rhs => rw [← List.map_id older]
      exact List.map_congr_left fun s hs => quiet s (tracing.silent s hs)
    have called : (calls.map Section.call).map change = (calls.map onCall).map .call := by
      rw [List.map_map, List.map_map]
      exact List.map_congr_left calling
    rw [heeded.sections, Array.toList_map, tracing.sections, List.map_append, List.map_cons, kept,
      launched, called]
  attuned := heeded.attuned
  silent := tracing.silent
  launched := tracing.launched

/-- **An event reaches the calls that wait for it.** -/
theorem fire_yields (tracing : Tracing t older launch calls) {chain : Chain}
    {E : Violation → Prop} (occurrence : Occurrence) (change : CallSection → CallSection)
    (other : occurrence.event ≠ .transactionEnd)
    (reacts : ∀ c ∈ calls, occurrence.event ∈ c.awaits →
      Yields (Section.react chain t.toSetting occurrence (.call c))
        (fun _ s => s = .call (change c)) E ∧
      ∀ f, f ∈ (change c).awaits ↔ f ∈ c.awaits ∧ f ≠ occurrence.event) :
    Yields (Tracer.fire chain occurrence t)
      (fun _ t' => t'.toSetting = t.toSetting ∧
        Tracing t' older launch (calls.map (·.heed occurrence.event change)) ∧
        ∀ c ∈ calls, occurrence.event ∈ c.awaits →
          Section.react chain t.toSetting occurrence (.call c) = .ok () (.call (change c))) E := by
  have reacts_all : ∀ s ∈ t.sections, occurrence.event ∈ s.awaits →
      Yields (Section.react chain t.toSetting occurrence s)
        (fun _ s' => s' = Section.onCall change s) E ∧
      Section.Attentive occurrence.event (Section.onCall change) s := by
    intro s hs waits
    obtain ⟨c, hc, rfl⟩ := tracing.call_of_awaits hs waits other
    exact reacts c hc waits
  refine (tracing.attuned.fire_yields reacts_all).mono ?_ fun _ h => h
  rintro _ t' ⟨heeded, succeeded⟩
  refine ⟨heeded.setting, tracing.map_onCall ?_ ?_ ?_ heeded, ?_⟩
  · intro s silent
    simp [Section.heed, silent]
  · simp [Section.heed, Section.onCall]
  · intro c _
    by_cases waits : occurrence.event ∈ c.awaits
    all_goals simp [Section.heed, Section.onCall, CallSection.heed, Section.awaits, waits]
  · intro c hc waits
    exact succeeded (.call c) (tracing.mem_iff.2 (.inr (.inr ⟨c, hc, rfl⟩))) waits

/-- An event that only the last call waits for. -/
theorem fire_last {c : CallSection} (tracing : Tracing t older launch (calls ++ [c]))
    {chain : Chain} {E : Violation → Prop} (occurrence : Occurrence) (c' : CallSection)
    (other : occurrence.event ≠ .transactionEnd) (nobody : ∀ c ∈ calls, occurrence.event ∉ c.awaits)
    (waits : occurrence.event ∈ c.awaits)
    (reacts : Yields (Section.react chain t.toSetting occurrence (.call c))
      (fun _ s => s = .call c') E)
    (attentive : ∀ e, e ∈ c'.awaits ↔ e ∈ c.awaits ∧ e ≠ occurrence.event) :
    Yields (Tracer.fire chain occurrence t)
      (fun _ t' => t'.toSetting = t.toSetting ∧ Tracing t' older launch (calls ++ [c']) ∧
        Section.react chain t.toSetting occurrence (.call c) = .ok () (.call c')) E := by
  have only : ∀ c₁ ∈ calls ++ [c], occurrence.event ∈ c₁.awaits → c₁ = c := by
    intro c₁ hc₁ waits
    rcases List.mem_append.1 hc₁ with earlier | last
    · exact absurd waits (nobody c₁ earlier)
    · exact List.mem_singleton.1 last
  refine (tracing.fire_yields occurrence (fun _ => c') other ?_).mono ?_ fun _ h => h
  · intro c₁ hc₁ waits
    obtain rfl := only c₁ hc₁ waits
    exact ⟨reacts, attentive⟩
  · rintro _ t' ⟨same, tracing', succeeded⟩
    refine ⟨same, ?_, succeeded c (by simp) waits⟩
    have reached : c.heed occurrence.event (fun _ => c') = c' := if_pos waits
    rwa [List.map_append, CallSection.map_heed_of_nobody nobody, List.map_singleton, reached]
      at tracing'

/-- An event that no call waits for changes no section. -/
theorem fire_nobody (tracing : Tracing t older launch calls) {chain : Chain}
    {E : Violation → Prop} (occurrence : Occurrence) (other : occurrence.event ≠ .transactionEnd)
    (nobody : ∀ c ∈ calls, occurrence.event ∉ c.awaits) :
    Yields (Tracer.fire chain occurrence t)
      (fun _ t' => t'.toSetting = t.toSetting ∧ Tracing t' older launch calls) E := by
  have reacts : ∀ c ∈ calls, occurrence.event ∈ c.awaits →
      Yields (Section.react chain t.toSetting occurrence (.call c))
        (fun _ s => s = .call (id c)) E ∧
      ∀ f, f ∈ (id c).awaits ↔ f ∈ c.awaits ∧ f ≠ occurrence.event :=
    fun c hc waits => absurd waits (nobody c hc)
  refine (tracing.fire_yields occurrence id other reacts).mono ?_ fun _ h => h
  rintro _ t' ⟨setting, tracing', -⟩
  rw [CallSection.map_heed_of_nobody nobody] at tracing'
  exact ⟨setting, tracing'⟩

/-- **Rolling back contexts** reaches the standing calls made from them. -/
theorem rollBackAll_yields (tracing : Tracing t older launch calls) {chain : Chain}
    {world : WorldState} {contexts : ContextTree} {ids : List Nat} {E : Violation → Prop}
    (stamp : Nat)
    (frames : ∀ id ∈ ids, ∃ f, contexts.frame? id = some f ∧ f.id = id ∧
      ∀ c ∈ calls, .rollback id ∈ c.awaits → c.Standing ∧ f.revertStamp = stamp) :
    Yields ((ids.forM fun id => do
        let frame ← ofExcept (contexts.get id)
        Tracer.fire chain (.rollback world frame) : Announcement Unit) t)
      (fun _ t' => t'.toSetting = t.toSetting ∧
        Tracing t' older launch (calls.map fun c => if c.shared.context ∈ ids then
          c.fallBack chain world t.incarnations stamp else c)) E := by
  let change : CallSection → CallSection := fun c =>
    c.reverted (.canonical chain world t.incarnations c.caller c.callee) t.incarnations stamp
  refine (Tracer.rollBackAll_yields (Section.onCall change) ids t tracing.attuned ?_).mono ?_
    fun _ h => h
  · intro id hid
    obtain ⟨f, hf, idEq, reacts⟩ := frames id hid
    refine ⟨f, hf, idEq, fun s hs waits => ?_⟩
    obtain ⟨c, hc, rfl⟩ := tracing.call_of_awaits hs waits (fun h => by cases h)
    obtain ⟨standing, stamped⟩ := reacts c hc waits
    have context : id = c.shared.context := CallSection.context_eq_of_rollback_mem waits
    constructor
    · have reaction : CallSection.rollBack chain t.toSetting world f c = .ok () (c.reverted
          (.canonical chain world t.incarnations c.caller c.callee) t.incarnations f.revertStamp) :=
        CallSection.rollBack_eq standing
      rw [stamped] at reaction
      show Yields (Section.within .call c _) _ _
      rw [Section.within, reaction]
      exact rfl
    · intro e
      show e ∈ (change c).awaits ↔ e ∈ c.awaits ∧ e ≠ .rollback id
      rw [(standing.reverted _ _ _).awaits_eq, standing.awaits_eq, context]
      refine Section.mem_iff_of_filter_ne ?_ e
      simp
  · rintro _ t' heeded
    refine ⟨heeded.setting, tracing.map_onCall ?_ ?_ ?_ heeded⟩
    · intro s silent
      simp [Tracer.heedRollback, silent]
    · simp [Tracer.heedRollback, Section.onCall]
    -- A call waits for the rollback of its own context only.
    · intro c _
      by_cases waits : .rollback c.shared.context ∈ c.awaits
      · by_cases undone : c.shared.context ∈ ids
        · have reached : ∃ id ∈ ids, .rollback id ∈ (Section.call c).awaits := ⟨_, undone, waits⟩
          rw [if_pos undone, CallSection.fallBack, CallSection.heed, if_pos waits]
          exact if_pos reached
        · rw [if_neg undone]
          refine if_neg ?_
          rintro ⟨id, hid, rollback⟩
          rw [CallSection.context_eq_of_rollback_mem rollback] at hid
          exact undone hid
      · have unreached : ¬∃ id ∈ ids, .rollback id ∈ (Section.call c).awaits := by
          rintro ⟨id, -, rollback⟩
          rw [CallSection.context_eq_of_rollback_mem rollback] at rollback
          exact waits rollback
        rw [CallSection.fallBack, CallSection.heed, if_neg waits, ite_self]
        exact if_neg unreached

end Tracing

end ExecutionTrace
