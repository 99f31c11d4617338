import ExecutionTrace.Proofs.Context.Preorder
import ExecutionTrace.Proofs.Stateful
import Mathlib.Data.List.Basic

/-!
# Who waits for what

What a section waits for can be read off the section itself: a call that has not returned waits
for the return, one that has returned waits for a rollback of its context and for the end of
the transaction, and so on.  A tracer is *attuned* if its agenda says the same, at every event
and in the order of the sections.

## Main Definitions

* `Section.awaits` — the events that a section still has to react to
* `Tracer.Attuned` — the agenda lists exactly those
* `Tracer.Heeded` — every section that had to react has done so

## Design Notes

Handing an occurrence to the waiting sections is a map over all sections, since in an attuned
tracer the agenda lists a section once, and a section that does not wait is left alone.  The
only thing to check of a reaction is that the section no longer waits for the event it reacted
to, and waits for everything else as before.
-/

namespace ExecutionTrace

/-! ## What a section awaits -/

namespace CallSection

/-- The last row of the section is there, or there is none: nothing can happen to it. -/
def isClosed (c : CallSection) : Bool :=
  c.closing?.isNone && !c.scenario.isUndefined

/-- The events that lie between a call and its resolution. -/
def awaitsResolution (c : CallSection) : List Event :=
  let entry : List Event := if c.after?.isNone then [.contextEntry] else []
  match c.scenario with
  | .abortWontRevert => if c.pushed?.isNone then [.opcodeEnd] else []
  | .externalUndefined => [.contextReEntry c.shared.context]
  | .precompileUndefined => entry ++ [.contextReEntry c.shared.context]
  | .contractUndefined =>
      let exit : List Event :=
        match c.childExit?, c.closing? with
        | none, some (.initializeChild child) => [.contextExit child]
        | _, _ => []
      entry ++ exit ++ [.contextReEntry c.shared.context]
  | _ => []

/-- **The events that a call section has still to react to.** -/
def awaits (c : CallSection) : List Event :=
  if c.isClosed then []
  else
    (if c.rolledBack?.isNone then [.rollback c.shared.context] else []) ++
      [.transactionClosed] ++ c.awaitsResolution

/-- A call section waits for the rollback of no context but its own. -/
theorem context_eq_of_rollback_mem {c : CallSection} {id : Nat}
    (h : .rollback id ∈ c.awaits) : id = c.shared.context := by
  have unresolved : .rollback id ∉ c.awaitsResolution := by
    unfold awaitsResolution
    cases c.scenario <;> simp only [List.not_mem_nil, not_false_eq_true]
    all_goals repeat' split
    all_goals simp
  unfold awaits at h
  split at h
  · simp at h
  · rcases List.mem_append.1 h with own | resolution
    · split at own
      · simpa using own
      · simp at own
    · exact absurd resolution unresolved

end CallSection

/-- The events that a launch section has still to react to. -/
def LaunchSection.awaits (s : LaunchSection) : List Event :=
  if s.trace.isEmpty then
    (if s.root?.isNone then [.contextEntry] else []) ++ [.transactionEnd]
  else []

/-- The events that a settlement section has still to react to. -/
def SettlementSection.awaits (s : SettlementSection) : List Event :=
  if s.trace.isEmpty then [.transactionEnd] else []

/-- **The events that a section has still to react to.** -/
def Section.awaits : Section → List Event
  | launch s => s.awaits
  | settlement s => s.awaits
  | call c => c.awaits

namespace Section

/-- A section waits for the rollback of at most one context. -/
theorem rollback_unique {s : Section} {id other : Nat} (h : .rollback id ∈ s.awaits)
    (h' : .rollback other ∈ s.awaits) : id = other := by
  cases s with
  | launch s =>
      simp only [awaits, LaunchSection.awaits] at h
      repeat' split at h
      all_goals simp at h
  | settlement s =>
      simp only [awaits, SettlementSection.awaits] at h
      split at h
      all_goals simp at h
  | call c =>
      exact (CallSection.context_eq_of_rollback_mem h).trans
        (CallSection.context_eq_of_rollback_mem h').symm

/-- A section after a reaction, if it had to react. -/
def heed (e : Event) (reacted : Section → Section) (s : Section) : Section :=
  if e ∈ s.awaits then reacted s else s

/-- A reaction is **attentive** if afterwards the section waits for everything that it waited
for before, the event apart. -/
def Attentive (e : Event) (reacted : Section → Section) (s : Section) : Prop :=
  ∀ f, f ∈ (reacted s).awaits ↔ f ∈ s.awaits ∧ f ≠ e

/-- A list that only lacks one event. -/
theorem mem_iff_of_filter_ne {e : Event} {awaited left : List Event}
    (lacks : awaited.filter (· ≠ e) = left) (f : Event) : f ∈ left ↔ f ∈ awaited ∧ f ≠ e := by
  rw [← lacks, List.mem_filter, decide_eq_true_eq]

/-- Sections that do not wait for an event are left alone. -/
theorem map_heed_of_nobody {e : Event} {reacted : Section → Section} {sections : List Section}
    (nobody : ∀ s ∈ sections, e ∉ s.awaits) : sections.map (heed e reacted) = sections := by
  conv_rhs => rw [← List.map_id sections]
  exact List.map_congr_left fun s hs => if_neg (nobody s hs)

theorem mem_awaits_heed {e f : Event} {reacted : Section → Section} {s : Section}
    (h : e ∈ s.awaits → Attentive e reacted s) :
    f ∈ (heed e reacted s).awaits ↔ f ∈ s.awaits ∧ f ≠ e := by
  unfold heed
  by_cases waits : e ∈ s.awaits
  · rw [if_pos waits]
    exact h waits f
  · rw [if_neg waits]
    constructor
    · exact fun hf => ⟨hf, fun same => waits (same ▸ hf)⟩
    · exact fun hf => hf.1

end Section

/-! ## Agendas -/

/-- A section scheduled for several events comes last at each of them. -/
theorem Agenda.waiting_scheduleAll {es : List Event} (nodup : es.Nodup) (waiter : Nat) (f : Event) :
    ∀ a : Agenda, (a.scheduleAll es waiter).waiting f =
      a.waiting f ++ if f ∈ es then [waiter] else [] := by
  induction es with
  | nil => simp [scheduleAll]
  | cons e es ih =>
      intro a
      obtain ⟨fresh, nodup⟩ := List.nodup_cons.1 nodup
      have step := ih nodup (a.schedule e waiter)
      rw [waiting_schedule] at step
      change ((a.schedule e waiter).scheduleAll es waiter).waiting f = _
      rw [step]
      by_cases same : e = f
      · subst same
        simp [fresh]
      · have other : ¬f = e := fun h => same h.symm
        simp [same, other]

namespace Tracer

/-- Whether the section with a number has to react to an event. -/
def awaitsAt (t : Tracer) (e : Event) (id : Nat) : Bool :=
  t.sections[id]?.any fun s => decide (e ∈ s.awaits)

/-- The sections that have to react to an event, in order. -/
def waiters (t : Tracer) (e : Event) : List Nat :=
  (List.range t.sections.size).filter (t.awaitsAt e)

/-- **The agenda of an attuned tracer** lists, at every event, the sections that await it. -/
def Attuned (t : Tracer) : Prop :=
  ∀ e, t.agenda.waiting e = t.waiters e

theorem mem_waiters {t : Tracer} {e : Event} {id : Nat} :
    id ∈ t.waiters e ↔ ∃ s, t.sections[id]? = some s ∧ e ∈ s.awaits := by
  simp only [waiters, awaitsAt, List.mem_filter, List.mem_range, Option.any_eq_true,
    decide_eq_true_eq]
  constructor
  · rintro ⟨-, s, hs, waits⟩
    exact ⟨s, hs, waits⟩
  · rintro ⟨s, hs, waits⟩
    exact ⟨(Array.getElem?_eq_some_iff.1 hs).1, s, hs, waits⟩

theorem nodup_waiters (t : Tracer) (e : Event) : (t.waiters e).Nodup :=
  List.nodup_range.sublist List.filter_sublist

/-! ## Reacting one after the other -/

/-- Sections that react one after the other react independently of each other, and all of them
succeed if the last one is reached. -/
theorem reactAll_yields {reaction : EStateM Violation Section Unit} {reacted : Section → Section}
    {E : Violation → Prop} :
    ∀ (ids : List Nat) (sections : Array Section), ids.Nodup →
      (∀ id ∈ ids, ∃ s, sections[id]? = some s ∧
        Yields (reaction s) (fun _ s' => s' = reacted s) E) →
      Yields (reactAll reaction ids sections)
        (fun _ result => (∀ i, result[i]? =
            if i ∈ ids then sections[i]?.map reacted else sections[i]?) ∧
          ∀ id ∈ ids, ∀ s, sections[id]? = some s → reaction s = .ok () (reacted s)) E := by
  intro ids
  induction ids with
  | nil =>
      intro sections _ _
      exact ⟨fun i => by simp, fun id h => absurd h List.not_mem_nil⟩
  | cons id ids ih =>
      intro sections nodup reacts
      obtain ⟨fresh, nodup⟩ := List.nodup_cons.1 nodup
      obtain ⟨s, hs, yields⟩ := reacts id (List.mem_cons_self ..)
      obtain ⟨inside, rfl⟩ := Array.getElem?_eq_some_iff.1 hs
      unfold reactAll
      rw [dif_pos inside]
      cases result : reaction sections[id] with
      | error e s' =>
          rw [result] at yields
          exact yields
      | ok u s' =>
          rw [result] at yields
          have same : s' = reacted sections[id] := yields
          subst same
          refine (ih (sections.set id (reacted sections[id])) nodup ?_).mono ?_ fun _ h => h
          · intro other hother
            obtain ⟨s, hs, yields⟩ := reacts other (List.mem_cons_of_mem _ hother)
            have ne : id ≠ other := fun same => fresh (same ▸ hother)
            exact ⟨s, by rw [Array.getElem?_set_ne inside ne]; exact hs, yields⟩
          · rintro _ sections' ⟨each, succeeded⟩
            refine ⟨fun i => ?_, fun other hother s found => ?_⟩
            · rw [each i]
              by_cases same : id = i
              · subst same
                simp [fresh, inside]
              · have other : ¬i = id := fun h => same h.symm
                simp [Array.getElem?_set_ne inside same, other]
            · rcases List.mem_cons.1 hother with rfl | later
              · obtain ⟨_, rfl⟩ := Array.getElem?_eq_some_iff.1 found
                exact result
              · have ne : id ≠ other := fun same => fresh (same ▸ later)
                exact succeeded other later s (by rw [Array.getElem?_set_ne inside ne]; exact found)

/-- **Every section has been changed by one function**, and the agenda fits. -/
structure Heeded (t : Tracer) (change : Section → Section) (t' : Tracer) : Prop where
  setting : t'.toSetting = t.toSetting
  sections : t'.sections = t.sections.map change
  attuned : t'.Attuned

theorem Heeded.trans {t t' t'' : Tracer} {change change' : Section → Section}
    (h : Heeded t change t') (h' : Heeded t' change' t'') :
    Heeded t (fun s => change' (change s)) t'' where
  setting := h'.setting.trans h.setting
  sections := by
    rw [h'.sections, h.sections, Array.map_map]
    rfl
  attuned := h'.attuned

/-- **An occurrence reaches exactly the sections that await it**, which it takes off the agenda. -/
theorem Attuned.fire_reaches {t : Tracer} (attuned : t.Attuned) {chain : Chain}
    {occurrence : Occurrence} {reacted : Section → Section} {E : Violation → Prop}
    (reacts : ∀ s ∈ t.sections, occurrence.event ∈ s.awaits →
      Yields (Section.react chain t.toSetting occurrence s) (fun _ s' => s' = reacted s) E) :
    Yields (fire chain occurrence t)
      (fun _ t' => t' = { t with
          agenda := (t.agenda.take occurrence.event).2
          sections := t.sections.map (Section.heed occurrence.event reacted) } ∧
        ∀ s ∈ t.sections, occurrence.event ∈ s.awaits →
          Section.react chain t.toSetting occurrence s = .ok () (reacted s)) E := by
  have waiting := attuned occurrence.event
  have fst := Agenda.take_fst t.agenda occurrence.event
  have each_reacts : ∀ id ∈ t.waiters occurrence.event, ∃ s, t.sections[id]? = some s ∧
      Yields (Section.react chain t.toSetting occurrence s) (fun _ s' => s' = reacted s) E := by
    intro id hid
    obtain ⟨s, hs, waits⟩ := mem_waiters.1 hid
    exact ⟨s, hs, reacts s (Array.mem_of_getElem? hs) waits⟩
  have yields := reactAll_yields (t.waiters occurrence.event) t.sections (t.nodup_waiters _)
    each_reacts
  rw [← waiting, ← fst] at yields
  unfold fire
  simp only
  cases result : reactAll (Section.react chain t.toSetting occurrence)
      (t.agenda.take occurrence.event).1 t.sections with
  | error e sections =>
      rw [result] at yields
      exact yields
  | ok u sections =>
      rw [result] at yields
      obtain ⟨each, succeeded⟩ := yields
      have mapped : sections = t.sections.map (Section.heed occurrence.event reacted) := by
        refine Array.ext_getElem? fun i => ?_
        rw [each i, fst, waiting, Array.getElem?_map]
        cases hs : t.sections[i]? with
        | none => simp
        | some s => simp [mem_waiters, hs, Section.heed]; split <;> rfl
      refine ⟨by rw [mapped], ?_⟩
      intro s hs waits
      obtain ⟨i, inside, rfl⟩ := Array.mem_iff_getElem.1 hs
      have here : t.sections[i]? = some t.sections[i] := Array.getElem?_eq_getElem inside
      refine succeeded i ?_ _ here
      rw [fst, waiting]
      exact mem_waiters.2 ⟨_, here, waits⟩

/-- **An occurrence that the sections reached react to attentively** leaves the tracer attuned. -/
theorem Attuned.fire_yields {t : Tracer} (attuned : t.Attuned) {chain : Chain}
    {occurrence : Occurrence} {reacted : Section → Section} {E : Violation → Prop}
    (reacts : ∀ s ∈ t.sections, occurrence.event ∈ s.awaits →
      Yields (Section.react chain t.toSetting occurrence s) (fun _ s' => s' = reacted s) E ∧
        Section.Attentive occurrence.event reacted s) :
    Yields (fire chain occurrence t)
      (fun _ t' => Heeded t (Section.heed occurrence.event reacted) t' ∧
        ∀ s ∈ t.sections, occurrence.event ∈ s.awaits →
          Section.react chain t.toSetting occurrence s = .ok () (reacted s)) E := by
  refine (attuned.fire_reaches fun s hs waits => (reacts s hs waits).1).mono ?_ fun _ h => h
  rintro _ _ ⟨rfl, succeeded⟩
  refine ⟨⟨rfl, rfl, fun e => ?_⟩, succeeded⟩
  change (t.agenda.take occurrence.event).2.waiting e = _
  rw [Agenda.waiting_take, attuned e]
  unfold waiters
  simp only [Array.size_map]
  have at_each : ∀ i, awaitsAt { t with
      agenda := (t.agenda.take occurrence.event).2
      sections := t.sections.map (Section.heed occurrence.event reacted) } e i =
        (t.awaitsAt e i && decide (occurrence.event ≠ e)) := by
    intro i
    simp only [awaitsAt, Array.getElem?_map]
    cases hs : t.sections[i]? with
    | none => simp
    | some s =>
        have mem := Section.mem_awaits_heed (f := e) fun waits =>
          (reacts s (Array.mem_of_getElem? hs) waits).2
        simp [mem, ne_comm]
  by_cases same : occurrence.event = e
  · rw [if_pos same]
    symm
    refine List.filter_eq_nil_iff.2 fun i _ => ?_
    rw [at_each i]
    simp [same]
  · rw [if_neg same]
    refine List.filter_congr fun i _ => ?_
    rw [at_each i]
    simp [same]

/-- An occurrence that no section awaits changes nothing but the places on the agenda. -/
theorem Attuned.fire_nobody {t : Tracer} (attuned : t.Attuned) {chain : Chain}
    {occurrence : Occurrence} {E : Violation → Prop}
    (nobody : ∀ s ∈ t.sections, occurrence.event ∉ s.awaits) :
    Yields (fire chain occurrence t) (fun _ t' => Heeded t id t') E := by
  have reacts : ∀ s ∈ t.sections, occurrence.event ∈ s.awaits →
      Yields (Section.react chain t.toSetting occurrence s) (fun _ s' => s' = id s) E ∧
        Section.Attentive occurrence.event id s :=
    fun s hs waits => absurd waits (nobody s hs)
  refine (attuned.fire_yields reacts).mono ?_ fun _ h => h
  rintro _ t' ⟨heeded, -⟩
  refine ⟨heeded.setting, ?_, heeded.attuned⟩
  rw [heeded.sections]
  refine Array.map_congr_left fun s hs => ?_
  unfold Section.heed
  rw [if_neg (nobody s hs)]
  rfl

/-- **An occurrence that only one section awaits** changes that section and no other. -/
theorem Attuned.fire_only {t : Tracer} (attuned : t.Attuned) {chain : Chain}
    {occurrence : Occurrence} {s : Section} {front back : List Section} {R : Section → Prop}
    {E : Violation → Prop} (sections : t.sections.toList = front ++ s :: back)
    (nobody : ∀ r ∈ front ++ back, occurrence.event ∉ r.awaits)
    (waits : occurrence.event ∈ s.awaits)
    (reacts : Yields (Section.react chain t.toSetting occurrence s) (fun _ s' => R s') E)
    (attentive : ∀ s', R s' → Section.Attentive occurrence.event (fun _ => s') s) :
    Yields (fire chain occurrence t)
      (fun _ t' => t'.toSetting = t.toSetting ∧ t'.Attuned ∧
        ∃ s', R s' ∧ t'.sections.toList = front ++ s' :: back) E := by
  have only : ∀ r ∈ t.sections, occurrence.event ∈ r.awaits → r = s := by
    intro r hr waiting
    rw [← Array.mem_toList_iff, sections, List.mem_append, List.mem_cons] at hr
    rcases hr with before | same | after
    · exact absurd waiting (nobody r (List.mem_append_left _ before))
    · exact same
    · exact absurd waiting (nobody r (List.mem_append_right _ after))
  cases result : Section.react chain t.toSetting occurrence s with
  | error v s' =>
      -- Its failure is that of the occurrence, which can therefore not have succeeded.
      rw [result] at reacts
      have fails : ∀ r ∈ t.sections, occurrence.event ∈ r.awaits →
          Yields (Section.react chain t.toSetting occurrence r) (fun _ r' => r' = id r) E := by
        intro r hr waiting
        rw [only r hr waiting, result]
        exact reacts
      refine (attuned.fire_reaches fails).mono ?_ fun _ h => h
      rintro _ _ ⟨-, succeeded⟩
      have listed : s ∈ t.sections := by
        rw [← Array.mem_toList_iff, sections]
        simp
      have failed := succeeded s listed waits
      rw [result] at failed
      cases failed
  | ok _ s' =>
      rw [result] at reacts
      have changes : ∀ r ∈ t.sections, occurrence.event ∈ r.awaits →
          Yields (Section.react chain t.toSetting occurrence r)
            (fun _ r' => r' = (fun _ => s') r) E ∧
          Section.Attentive occurrence.event (fun _ => s') r := by
        intro r hr waiting
        rw [only r hr waiting, result]
        exact ⟨rfl, attentive s' reacts⟩
      refine (attuned.fire_yields changes).mono ?_ fun _ h => h
      rintro _ t' ⟨heeded, -⟩
      have reached : Section.heed occurrence.event (fun _ => s') s = s' := if_pos waits
      refine ⟨heeded.setting, heeded.attuned, s', reacts, ?_⟩
      rw [heeded.sections, Array.toList_map, sections, List.map_append, List.map_cons, reached,
        Section.map_heed_of_nobody fun r hr => nobody r (List.mem_append_left _ hr),
        Section.map_heed_of_nobody fun r hr => nobody r (List.mem_append_right _ hr)]

/-! ## Rolling back one context after the other -/

/-- A section after the rollback of one of the contexts listed. -/
def heedRollback (ids : List Nat) (reacted : Section → Section) (s : Section) : Section :=
  if ∃ id ∈ ids, .rollback id ∈ s.awaits then reacted s else s

/-- **Rolling back several contexts**: each section waits for one of them at most, so it reacts
at most once. -/
theorem rollBackAll_yields {chain : Chain} {world : WorldState} {contexts : ContextTree}
    (reacted : Section → Section) {E : Violation → Prop} :
    ∀ (ids : List Nat) (t : Tracer), t.Attuned →
      (∀ id ∈ ids, ∃ f, contexts.frame? id = some f ∧ f.id = id ∧
        ∀ s ∈ t.sections, .rollback id ∈ s.awaits →
          Yields (Section.react chain t.toSetting (.rollback world f) s)
            (fun _ s' => s' = reacted s) E ∧
          Section.Attentive (.rollback id) reacted s) →
      Yields ((ids.forM fun id => do
          let frame ← ofExcept (contexts.get id)
          fire chain (.rollback world frame) : Announcement Unit) t)
        (fun _ t' => Heeded t (heedRollback ids reacted) t') E := by
  intro ids
  induction ids with
  | nil =>
      intro t attuned _
      refine ⟨rfl, ?_, attuned⟩
      have unchanged : heedRollback [] reacted = id := by
        funext s
        simp [heedRollback]
      rw [unchanged, Array.map_id]
  | cons id ids ih =>
      intro t attuned reacts
      obtain ⟨f, hf, idEq, reactsHere⟩ := reacts id (List.mem_cons_self ..)
      have event : (Occurrence.rollback world f).event = .rollback id := by
        simp [Occurrence.event, idEq]
      have first : Yields (fire chain (.rollback world f) t)
          (fun _ t' => Heeded t (Section.heed (.rollback id) reacted) t') E := by
        rw [← event]
        refine (attuned.fire_yields fun s hs waits => ?_).mono (fun _ _ h => h.1) fun _ h => h
        rw [event] at waits ⊢
        exact reactsHere s hs waits
      refine Ends.bind (Q := fun _ t' => Heeded t (Section.heed (.rollback id) reacted) t')
        ?_ ?_
      · exact Ends.ofExcept_bind_ok (ContextTree.get_eq_ok hf) first
      · intro _ t' heeded
        refine (ih t' heeded.attuned ?_).mono ?_ fun _ h => h
        · intro other hother
          obtain ⟨g, hg, otherEq, reactsThere⟩ := reacts other (List.mem_cons_of_mem _ hother)
          refine ⟨g, hg, otherEq, fun s hs waits => ?_⟩
          rw [heeded.sections] at hs
          obtain ⟨old, hold, rfl⟩ := Array.mem_map.1 hs
          -- A section that has reacted already waits for no rollback any more.
          have untouched : .rollback id ∉ old.awaits := by
            intro waited
            obtain ⟨still, ne⟩ := (Section.mem_awaits_heed fun waits =>
              (reactsHere old hold waits).2).1 waits
            exact ne (congrArg Event.rollback (Section.rollback_unique still waited))
          have same : Section.heed (.rollback id) reacted old = old := if_neg untouched
          rw [same] at waits ⊢
          rw [heeded.setting]
          exact reactsThere old hold waits
        · intro _ t'' heeded'
          have total := heeded.trans heeded'
          refine ⟨total.setting, ?_, total.attuned⟩
          rw [total.sections]
          refine Array.map_congr_left fun s hs => ?_
          by_cases waits : .rollback id ∈ s.awaits
          · have done : ¬∃ other ∈ ids, .rollback other ∈ (reacted s).awaits := by
              rintro ⟨other, -, still⟩
              obtain ⟨still, ne⟩ := ((reactsHere s hs waits).2 _).1 still
              exact ne (congrArg Event.rollback (Section.rollback_unique still waits))
            have now : ∃ other ∈ id :: ids, .rollback other ∈ s.awaits :=
              ⟨id, List.mem_cons_self .., waits⟩
            have reacts : Section.heed (.rollback id) reacted s = reacted s := if_pos waits
            have once : heedRollback ids reacted (reacted s) = reacted s := if_neg done
            have total : heedRollback (id :: ids) reacted s = reacted s := if_pos now
            rw [reacts, once, total]
          · simp [heedRollback, Section.heed, waits]

/-! ## New sections -/

/-- A new section that is scheduled for what it awaits leaves the tracer attuned. -/
theorem Attuned.addSection {t : Tracer} (attuned : t.Attuned) {s : Section} {awaited : List Event}
    (nodup : awaited.Nodup) (same : ∀ e, e ∈ awaited ↔ e ∈ s.awaits) :
    Attuned { t with
      sections := t.sections.push s
      agenda := t.agenda.scheduleAll awaited t.sections.size } := by
  intro e
  change (t.agenda.scheduleAll awaited t.sections.size).waiting e = _
  rw [Agenda.waiting_scheduleAll nodup, attuned e]
  unfold waiters
  simp only [Array.size_push, List.range_succ, List.filter_append]
  congr 1
  · refine List.filter_congr fun i hi => ?_
    have bound := List.mem_range.1 hi
    simp [awaitsAt, Array.getElem?_push, Nat.ne_of_lt bound]
  · simp [awaitsAt, same, List.filter_singleton]

/-- An empty agenda fits sections that await nothing. -/
theorem attuned_of_silent {t : Tracer} (empty : t.agenda = {})
    (silent : ∀ s ∈ t.sections, s.awaits = []) : t.Attuned := by
  intro e
  rw [empty, Agenda.waiting_empty]
  symm
  refine List.filter_eq_nil_iff.2 fun i _ => ?_
  cases hs : t.sections[i]? with
  | none => simp [awaitsAt, hs]
  | some s => simp [awaitsAt, hs, silent s (Array.mem_of_getElem? hs)]

end Tracer

end ExecutionTrace
