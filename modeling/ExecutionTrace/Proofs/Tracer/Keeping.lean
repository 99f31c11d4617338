import ExecutionTrace.Proofs.Rows.Seats
import ExecutionTrace.Proofs.Tracer.Construction
import ExecutionTrace.Proofs.Tracer.Presence

/-!
# What any driver leaves as it was

A tracer takes announcements from a driver that may announce anything at any time, and may go on
after an announcement has been refused.  A property that survives the handing out of an occurrence
and the adding of a section survives all of that.

## Main Definitions

* `Operation` — an announcement with its arguments
* `Tracer.drive` — the tracer after any sequence of operations, accepted or refused
* `Tracer.Fired` — what the handing out of an occurrence does to each section
* `Tracer.Keeps` — a property that every announcement leaves true
* `Tracer.Keeps.after` — so it is true of any driver's tracer, as long as nothing is forgotten

## Design Notes

An announcement is walked through once, here.  It consists of occurrences handed out, of sections
added at a new stamp, and of changes that concern neither the sections nor who waits for what, and
it may break off between any two of them.  A property that is to be shown of every driver only has
to be shown of these parts.

An event is taken off the agenda before the first section reacts to it.  So a section that a
failure keeps from reacting does not wait for the event any longer, and one that has reacted
cannot do so again.
-/

namespace ExecutionTrace

/-- **What a driver may announce**, with any arguments. -/
inductive Operation
  | startConflation
  | beginTransaction (world : WorldState) (tx : Transaction)
  | announceCall (world : WorldState) (i : Invocation)
  | finishOpcode (pushed? : Option Word)
  | enterContext (entry : ContextEntry)
  | exitContext (world : WorldState) (outcome : ContextOutcome)
  | rollBack (world : WorldState) (context : Nat)
  | reEnterContext (world : WorldState) (top : Word)
  | endTransaction (world : WorldState) (outcome : TransactionOutcome)

namespace Operation

/-- The announcement that an operation makes. -/
def announce (chain : Chain) : Operation → Announcement Unit
  | startConflation => Tracer.startConflation
  | beginTransaction world tx => discard (Tracer.beginTransaction chain world tx)
  | announceCall world i => discard (Tracer.announceCall chain world i)
  | finishOpcode pushed? => Tracer.finishOpcode chain pushed?
  | enterContext entry => discard (Tracer.enterContext chain entry)
  | exitContext world outcome => discard (Tracer.exitContext chain world outcome)
  | rollBack world context => Tracer.rollBack chain world context
  | reEnterContext world top => Tracer.reEnterContext chain world top
  | endTransaction world outcome => Tracer.endTransaction chain world outcome

/-- The tracer does not refuse the operation. -/
def isAccepted (operation : Operation) (chain : Chain) (t : Tracer) : Bool :=
  match operation.announce chain t with
  | .ok _ _ => true
  | .error _ _ => false

theorem announce_of_isAccepted {operation : Operation} {chain : Chain} {t : Tracer}
    (accepted : operation.isAccepted chain t = true) :
    ∃ t', operation.announce chain t = .ok () t' := by
  unfold isAccepted at accepted
  cases result : operation.announce chain t with
  | ok u t' => exact ⟨t', rfl⟩
  | error v t' => simp [result] at accepted

theorem announce_of_refused {operation : Operation} {chain : Chain} {t : Tracer}
    (refused : operation.isAccepted chain t = false) :
    ∃ v t', operation.announce chain t = .error v t' := by
  unfold isAccepted at refused
  cases result : operation.announce chain t with
  | ok u t' => simp [result] at refused
  | error v t' => exact ⟨v, t', rfl⟩

/-- **The occurrences that an operation may hand to the sections.** -/
inductive Raises : Operation → Occurrence → Prop
  | opcodeEnd (pushed? : Option Word) : Raises (finishOpcode pushed?) (.opcodeEnd pushed?)
  | contextEntry (entry : ContextEntry) : Raises (enterContext entry) .contextEntry
  | contextExit (world : WorldState) (outcome : ContextOutcome) (child : Nat) :
      Raises (exitContext world outcome) (.contextExit world child)
  | rollback (world : WorldState) (context : Nat) (frame : Frame) :
      Raises (rollBack world context) (.rollback world frame)
  | contextReEntry (world : WorldState) (top : Word) (context : Nat) (child : Frame)
      (outcome : ContextOutcome) :
      Raises (reEnterContext world top) (.contextReEntry world context child outcome)
  | transactionEnd (world : WorldState) (outcome : TransactionOutcome) :
      Raises (endTransaction world outcome) (.transactionEnd world outcome)
  | transactionClosed (world : WorldState) (outcome : TransactionOutcome) :
      Raises (endTransaction world outcome) .transactionClosed

end Operation

theorem Section.Created.nodup {stamp : Nat} {s : Section} {awaited : List Event}
    (created : s.Created stamp awaited) : awaited.Nodup := by
  cases created with
  | launch => decide
  | settlement => decide
  | call => exact CallSection.nodup_awaited _ _

theorem Section.Created.stamp_eq {stamp : Nat} {s : Section} {awaited : List Event}
    (created : s.Created stamp awaited) : s.stamp = stamp := by
  cases created with
  | launch trace => exact congrArg (·.shared.stamp) trace
  | settlement trace => exact congrArg (·.shared.stamp) trace
  | call at_stamp announced => exact announced.stamp.trans at_stamp

namespace Tracer

/-- The tracer that an operation leaves behind, whether it is accepted or refused. -/
def after (chain : Chain) (t : Tracer) (operation : Operation) : Tracer :=
  match operation.announce chain t with
  | .ok _ t' => t'
  | .error _ t' => t'

theorem after_of_ok {chain : Chain} {t t' : Tracer} {operation : Operation}
    (accepted : operation.announce chain t = .ok () t') : t.after chain operation = t' := by
  unfold after
  rw [accepted]

/-- What an operation leaves behind is what its announcement does. -/
theorem after_of_leaves {chain : Chain} {t : Tracer} {operation : Operation} {P : Tracer → Prop}
    (left : Leaves (operation.announce chain t) P) : P (t.after chain operation) := by
  unfold after
  cases result : operation.announce chain t <;> rw [result] at left <;> exact left

/-- **The tracer after a sequence of operations**, each of them accepted or refused. -/
def drive (chain : Chain) (operations : List Operation) : Tracer :=
  operations.foldl (after chain) {}

theorem drive_append (chain : Chain) (operations later : List Operation) :
    drive chain (operations ++ later) = later.foldl (after chain) (drive chain operations) :=
  List.foldl_append

/-! ## Occurrences -/

variable {A : Section → (Event → Prop) → Prop} {R : Section → Section → Prop}

/-- **What sections hold on to when they react.** A section is prepared, in the sense of `A`, for
the events that it waits for, and still is for the others once it has reacted.  What it is then is
related by `R` to what it was. -/
structure Regime (chain : Chain) (raised : Occurrence → Prop)
    (A : Section → (Event → Prop) → Prop) (R : Section → Section → Prop) : Prop where
  fewer : ∀ {s : Section} {waits waits' : Event → Prop}, A s waits →
    (∀ e, waits' e → waits e) → A s waits'
  refl : ∀ s : Section, R s s
  reacts : ∀ {occurrence : Occurrence}, raised occurrence → ∀ (setting : Setting) {s : Section}
    {waits : Event → Prop}, A s waits → waits occurrence.event →
    Leaves (Section.react chain setting occurrence s) fun s' =>
      R s s' ∧ A s' fun e => waits e ∧ e ≠ occurrence.event

/-- **What the handing out of an occurrence does.** Every section is there still, and those that
did not wait for the event are as they were. -/
structure Fired (A : Section → (Event → Prop) → Prop) (R : Section → Section → Prop)
    (event : Event) (t t' : Tracer) : Prop where
  setting : t'.toSetting = t.toSetting
  agenda : t'.agenda = (t.agenda.take event).2
  size : t'.sections.size = t.sections.size
  each : ∀ (id : Nat) (s : Section), t.sections[id]? = some s →
    ∃ s', t'.sections[id]? = some s' ∧ R s s' ∧ (A s' fun e => id ∈ t'.agenda.waiting e) ∧
      (id ∉ t.agenda.waiting event → s' = s)

variable {chain : Chain} {raised : Occurrence → Prop} {occurrence : Occurrence}

/-! ### Sections that react one after the other -/

/-- Sections are prepared for the events that they wait for, and for an event that is being handed
out only as long as they are still to react. -/
def Prepared (A : Section → (Event → Prop) → Prop) (waits : Nat → Event → Prop) (event : Event)
    (ids : List Nat) (sections : Array Section) : Prop :=
  ∀ (id : Nat) (s : Section), sections[id]? = some s →
    A s fun e => waits id e ∧ (e = event → id ∈ ids)

/-- **What a chain of reactions does to the sections**, wherever it breaks off. -/
structure Reacted (A : Section → (Event → Prop) → Prop) (R : Section → Section → Prop)
    (waits : Nat → Event → Prop) (event : Event) (ids : List Nat)
    (sections sections' : Array Section) : Prop where
  size : sections'.size = sections.size
  each : ∀ (id : Nat) (s : Section), sections[id]? = some s →
    ∃ s', sections'[id]? = some s' ∧ R s s' ∧ (A s' fun e => waits id e ∧ e ≠ event) ∧
      (id ∉ ids → s' = s)

section Chain

variable {waits : Nat → Event → Prop} {ids : List Nat} {id : Nat}
  {sections sections' : Array Section}

/-- Whoever has not reacted when the chain breaks off is as it was, and waits no longer. -/
theorem Prepared.stop (prepared : Prepared A waits occurrence.event ids sections)
    (regime : Regime chain raised A R) :
    Reacted A R waits occurrence.event ids sections sections := by
  refine ⟨rfl, fun id s found => ?_⟩
  refine ⟨s, found, regime.refl s, regime.fewer (prepared id s found) fun e h => ?_, fun _ => rfl⟩
  exact ⟨h.1, fun same => absurd same h.2⟩

/-- Once a section has reacted, the others are prepared as before. -/
theorem Prepared.set (prepared : Prepared A waits occurrence.event (id :: ids) sections)
    (regime : Regime chain raised A R) (fresh : id ∉ ids) (inside : id < sections.size)
    {s' : Section} (own : A s' fun e => (waits id e ∧ (e = occurrence.event → id ∈ id :: ids)) ∧
      e ≠ occurrence.event) :
    Prepared A waits occurrence.event ids (sections.set id s') := by
  intro other s found
  rw [Array.getElem?_set] at found
  split at found
  · rename_i same
    subst same
    obtain rfl := Option.some.inj found
    refine regime.fewer own fun e h => ?_
    exact ⟨⟨h.1, fun _ => List.mem_cons_self ..⟩, fun same => fresh (h.2 same)⟩
  · exact regime.fewer (prepared other s found) fun e h =>
      ⟨h.1, fun same => List.mem_cons_of_mem _ (h.2 same)⟩

/-- What happens to the sections after one has reacted happened to them all along. -/
theorem Reacted.cons {event : Event} (fresh : id ∉ ids) (inside : id < sections.size)
    {s' : Section} (related : R sections[id] s')
    (rest : Reacted A R waits event ids (sections.set id s') sections') :
    Reacted A R waits event (id :: ids) sections sections' := by
  refine ⟨rest.size.trans (by simp), fun other s found => ?_⟩
  by_cases same : id = other
  · subst same
    obtain ⟨s'', there, -, prepared, unheeding⟩ := rest.each id s' (by simp [inside])
    obtain rfl := unheeding fresh
    obtain rfl := Option.some.inj ((Array.getElem?_eq_getElem inside).symm.trans found)
    exact ⟨s'', there, related, prepared, fun outside => absurd (List.mem_cons_self ..) outside⟩
  · rw [← Array.getElem?_set_ne inside same] at found
    obtain ⟨s'', there, related', prepared, unheeding⟩ := rest.each other s found
    exact ⟨s'', there, related', prepared, fun outside =>
      unheeding fun h => outside (List.mem_cons_of_mem _ h)⟩

/-- **Sections that react one after the other keep to the regime**, wherever the chain breaks off.
Those that are still to react wait for the event, and no others do. -/
theorem Regime.reactAll_leaves (regime : Regime chain raised A R) (allowed : raised occurrence)
    (setting : Setting) :
    ∀ (ids : List Nat) (sections : Array Section), ids.Nodup →
      (∀ id ∈ ids, waits id occurrence.event) → Prepared A waits occurrence.event ids sections →
      Leaves (reactAll (Section.react chain setting occurrence) ids sections)
        (Reacted A R waits occurrence.event ids sections) := by
  intro ids
  induction ids with
  | nil => exact fun sections _ _ prepared => prepared.stop regime
  | cons id ids ih =>
      intro sections nodup waiting prepared
      obtain ⟨fresh, nodup⟩ := List.nodup_cons.1 nodup
      unfold reactAll
      split
      · rename_i inside
        have reacted := regime.reacts allowed setting
          (prepared id _ (Array.getElem?_eq_getElem inside))
          ⟨waiting id (List.mem_cons_self ..), fun _ => List.mem_cons_self ..⟩
        cases result : Section.react chain setting occurrence sections[id] with
        | ok u s' =>
            rw [result] at reacted
            have left := ih (sections.set id s') nodup
              (fun other h => waiting other (List.mem_cons_of_mem _ h))
              (prepared.set regime fresh inside reacted.2)
            exact left.mono fun sections' rest => rest.cons fresh inside reacted.1
        | error v s' =>
            rw [result] at reacted
            have rest := (prepared.set regime fresh inside reacted.2).stop regime
            exact rest.cons fresh inside reacted.1
      · exact prepared.stop regime

end Chain

variable {t t' : Tracer}

/-- Who waits after an event has been taken off the agenda. -/
theorem mem_waiting_take {e event : Event} {id : Nat} {a : Agenda} :
    id ∈ (a.take event).2.waiting e ↔ id ∈ a.waiting e ∧ e ≠ event := by
  rw [Agenda.waiting_take]
  split
  · rename_i same
    simp [same]
  · rename_i other
    simp [ne_comm.1 other]

/-- Nobody waits who did not wait before. -/
theorem Fired.waited {e event : Event} {id : Nat} (fired : Fired A R event t t')
    (waits : id ∈ t'.agenda.waiting e) : id ∈ t.agenda.waiting e :=
  (mem_waiting_take.1 (fired.agenda ▸ waits)).1

/-- **An occurrence that is handed to the sections** finds those that wait for its event. -/
theorem Regime.fire_leaves (regime : Regime chain raised A R) (allowed : raised occurrence)
    (nodup : (t.agenda.waiting occurrence.event).Nodup)
    (prepared : ∀ (id : Nat) (s : Section), t.sections[id]? = some s →
      A s fun e => id ∈ t.agenda.waiting e) :
    Leaves (fire chain occurrence t) (Fired A R occurrence.event t) := by
  have fired := regime.reactAll_leaves allowed t.toSetting
    (t.agenda.waiting occurrence.event) t.sections nodup (fun id h => h)
    fun id s found => regime.fewer (prepared id s found) fun e h => h.1
  have left : ∀ {sections : Array Section}, Reacted A R (fun id e => id ∈ t.agenda.waiting e)
      occurrence.event (t.agenda.waiting occurrence.event) t.sections sections →
      Fired A R occurrence.event t
        { t with agenda := (t.agenda.take occurrence.event).2, sections } := by
    rintro sections ⟨size, each⟩
    refine ⟨rfl, rfl, size, fun id s found => ?_⟩
    obtain ⟨s', there, related, prepared', unheeding⟩ := each id s found
    exact ⟨s', there, related, regime.fewer prepared' fun e => mem_waiting_take.1, unheeding⟩
  rw [← Agenda.take_fst] at fired
  unfold fire
  simp only
  cases result : reactAll (Section.react chain t.toSetting occurrence)
      (t.agenda.take occurrence.event).1 t.sections <;> rw [result] at fired
  · exact left (Agenda.take_fst .. ▸ fired)
  · exact left (Agenda.take_fst .. ▸ fired)

/-- Sections that are all there react without one being missed. -/
theorem reactAll_finding {reaction : EStateM Violation Section Unit} (finding : Finding reaction) :
    ∀ (ids : List Nat) (sections : Array Section), (∀ id ∈ ids, id < sections.size) →
      Yields (reactAll reaction ids sections) (fun _ _ => True) fun v => ¬v.MissesSection := by
  intro ids
  induction ids with
  | nil => exact fun _ _ => trivial
  | cons id ids ih =>
      intro sections inside
      have here : id < sections.size := inside id (List.mem_cons_self ..)
      have found := finding sections[id]
      unfold reactAll
      rw [dif_pos here]
      cases result : reaction sections[id] with
      | ok u s' =>
          refine ih _ fun other h => ?_
          rw [Array.size_set]
          exact inside other (List.mem_cons_of_mem _ h)
      | error v s' =>
          rw [result] at found
          exact found

/-- **An occurrence misses no section**, if all that wait are there. -/
theorem fire_finding (inside : ∀ id ∈ t.agenda.waiting occurrence.event, id < t.sections.size) :
    Yields (fire chain occurrence t) (fun _ _ => True) fun v => ¬v.MissesSection := by
  have found := reactAll_finding (Section.react_finding chain t.toSetting occurrence)
    (t.agenda.waiting occurrence.event) t.sections inside
  rw [← Agenda.take_fst] at found
  unfold fire
  simp only
  cases result : reactAll (Section.react chain t.toSetting occurrence)
      (t.agenda.take occurrence.event).1 t.sections <;> rw [result] at found
  · trivial
  · exact found

/-! ## Properties that are kept -/

/-- **A property that tracers keep**, whatever is announced to them: it survives the handing out of
occurrences, new sections, and changes that concern no section. -/
structure Keeps (chain : Chain) (raised : Occurrence → Prop) (P : Tracer → Prop) : Prop where
  /-- Nobody waits for an event who is not there. -/
  inside : ∀ {t : Tracer}, P t → ∀ e, ∀ id ∈ t.agenda.waiting e, id < t.sections.size
  fire : ∀ {t : Tracer} {occurrence : Occurrence}, P t → raised occurrence →
    Leaves (fire chain occurrence t) P
  /-- Afterwards nobody waits who did not wait before. -/
  relax : ∀ {t t' : Tracer}, P t →
    (∀ e, (t'.agenda.waiting e).Sublist (t.agenda.waiting e)) → t'.sections = t.sections →
    t.stamp ≤ t'.stamp → P t'
  add : ∀ {t : Tracer} (t' : Tracer) {s : Section} {awaited : List Event}, P t →
    t'.agenda = t.agenda → t'.sections = t.sections → t.stamp < t'.stamp →
    s.Created t'.stamp awaited →
    P { t' with
      sections := t'.sections.push s
      agenda := t'.agenda.scheduleAll awaited t'.sections.size }

namespace Keeps

variable {P : Tracer → Prop} {world : WorldState}

/-- An announcement that raises fewer occurrences. -/
theorem mono {raised' : Occurrence → Prop} (keeps : Keeps chain raised P)
    (fewer : ∀ o, raised' o → raised o) : Keeps chain raised' P where
  inside := keeps.inside
  fire h allowed := keeps.fire h (fewer _ allowed)
  relax := keeps.relax
  add := keeps.add

/-- A change that concerns neither sections nor agenda. -/
theorem congr (keeps : Keeps chain raised P) (h : P t) (agenda : t'.agenda = t.agenda)
    (sections : t'.sections = t.sections) (stamp : t.stamp ≤ t'.stamp) : P t' :=
  keeps.relax h (fun _ => agenda ▸ .refl _) sections stamp

theorem fire_settles (keeps : Keeps chain raised P) (h : P t) (allowed : raised occurrence) :
    Settles (Tracer.fire chain occurrence t) P fun v => ¬v.MissesSection :=
  .of_leaves (keeps.fire h allowed) (fire_finding (keeps.inside h _))

/-- A function without state that fails leaves the tracer as it is. -/
theorem ofExcept_bind {α β : Type} {r : Except Violation α} {rest : α → Announcement β} (h : P t)
    (found : Finds r) (settles : ∀ a, r = .ok a → Settles (rest a t) P fun v => ¬v.MissesSection) :
    Settles ((MonadExcept.ofExcept r >>= rest) t) P fun v => ¬v.MissesSection :=
  Ends.ofExcept_bind (.of_eq (fun _ same => same) fun _ same => ⟨found.error same, h⟩) settles

theorem requireTransaction_bind {α : Type} {rest : Unit → Announcement α} (h : P t)
    (settles : Settles (rest () t) P fun v => ¬v.MissesSection) :
    Settles ((requireTransaction >>= rest) t) P fun v => ¬v.MissesSection := by
  refine Ends.bind ((requireTransaction_ends t).mono (fun _ _ h => h) ?_) ?_
  · rintro _ _ ⟨rfl, -, rfl⟩
    exact ⟨id, h⟩
  · rintro _ _ ⟨rfl, -⟩
    exact settles

/-- The end of a deployment concerns neither sections nor agenda. -/
theorem stop (keeps : Keeps chain raised P) (h : P t) (a : Address) :
    Settles (construct (Construction.onIncarnations (Incarnations.stop a)) t) P
      fun v => ¬v.MissesSection := by
  refine Ends.onPart (Ends.onPart ?_)
  rw [Incarnations.stop_eq]
  split
  · exact keeps.congr h rfl rfl (Nat.le_refl _)
  · exact ⟨id, h⟩

/-! ### The announcements -/

theorem beginTransaction {tx : Transaction}
    (keeps : Keeps chain (Operation.beginTransaction world tx).Raises P) (h : P t) :
    Settles (Tracer.beginTransaction chain world tx t) P fun v => ¬v.MissesSection := by
  refine (beginTransaction_ends t chain world tx).mono ?_ ?_
  · rintro _ _ ⟨-, s, awaited, incarnations, created, rfl⟩
    exact keeps.add
      { t with stamp := t.stamp + 1, contexts := {}, transaction? := some tx, incarnations }
      h rfl rfl (Nat.lt_succ_self _) created
  · rintro v _ ⟨found, rfl⟩
    exact ⟨found, keeps.congr h rfl rfl (Nat.le_succ _)⟩

theorem announceCall {i : Invocation}
    (keeps : Keeps chain (Operation.announceCall world i).Raises P) (h : P t) :
    Settles (Tracer.announceCall chain world i t) P fun v => ¬v.MissesSection := by
  refine (announceCall_ends t chain world i).mono ?_ ?_
  · rintro _ _ ⟨-, c, frame, announced, rfl⟩
    have created : Section.Created (t.stamp + 1) (.call c)
        (c.awaited { t.toSetting with stamp := t.stamp + 1 }.contexts.nextId) :=
      .call rfl announced
    exact keeps.add { t with stamp := t.stamp + 1 } h rfl rfl (Nat.lt_succ_self _) created
  · rintro v _ ⟨found, rfl⟩
    exact ⟨found, keeps.congr h rfl rfl (Nat.le_add_right ..)⟩

theorem finishOpcode {pushed? : Option Word}
    (keeps : Keeps chain (Operation.finishOpcode pushed?).Raises P) (h : P t) :
    Settles (Tracer.finishOpcode chain pushed? t) P fun v => ¬v.MissesSection :=
  keeps.fire_settles h (.opcodeEnd _)

theorem enterContext {entry : ContextEntry}
    (keeps : Keeps chain (Operation.enterContext entry).Raises P) (h : P t) :
    Settles (Tracer.enterContext chain entry t) P fun v => ¬v.MissesSection := by
  unfold Tracer.enterContext
  refine requireTransaction_bind h (Ends.get_bind (Ends.modify_bind ?_))
  have h : P { t with contexts := t.contexts.enter entry } := keeps.congr h rfl rfl (Nat.le_refl _)
  exact Ends.bind (keeps.fire_settles h (.contextEntry _)) fun _ _ h => h

theorem exitContext {outcome : ContextOutcome}
    (keeps : Keeps chain (Operation.exitContext world outcome).Raises P) (h : P t) :
    Settles (Tracer.exitContext chain world outcome t) P fun v => ¬v.MissesSection := by
  unfold Tracer.exitContext
  refine Ends.get_bind (ofExcept_bind h (ContextTree.currentFrame_finds _) fun frame _ => ?_)
  refine Ends.bind (keeps.fire_settles h (.contextExit ..)) fun _ t h => Ends.get_bind ?_
  refine ofExcept_bind h (ContextTree.exit_finds ..) fun exited _ => Ends.modify_bind ?_
  have h : P { t with contexts := exited.1 } := keeps.congr h rfl rfl (Nat.le_refl _)
  refine Ends.get_bind ?_
  split
  · exact Ends.bind (keeps.stop h _) fun _ _ h => h
  · exact h

theorem rollBack {context : Nat} (keeps : Keeps chain (Operation.rollBack world context).Raises P)
    (h : P t) : Settles (Tracer.rollBack chain world context t) P fun v => ¬v.MissesSection := by
  unfold Tracer.rollBack
  refine Ends.get_bind (ofExcept_bind h (ContextTree.get_finds ..) fun frame _ => ?_)
  split
  · refine Ends.get_bind (Ends.get_bind ?_)
    refine ofExcept_bind h (ContextTree.markReverted_finds ..) fun contexts _ => Ends.modify_bind ?_
    have h : P { t with contexts } := keeps.congr h rfl rfl (Nat.le_refl _)
    refine ofExcept_bind h (contexts.subtree_finds _) fun undone _ => ?_
    refine Ends.forM (fun id _ t h => ?_) h
    exact ofExcept_bind h (contexts.get_finds id) fun frame _ => keeps.fire_settles h (.rollback ..)
  · exact ⟨fun misses => misses, h⟩

theorem reEnterContext {top : Word}
    (keeps : Keeps chain (Operation.reEnterContext world top).Raises P) (h : P t) :
    Settles (Tracer.reEnterContext chain world top t) P fun v => ¬v.MissesSection := by
  unfold Tracer.reEnterContext
  refine ofExcept_bind h (successBit_finds top) fun bit _ => Ends.get_bind ?_
  refine ofExcept_bind h (ContextTree.currentFrame_finds _) fun frame _ => ?_
  refine ofExcept_bind h (returnedChild_finds ..) ?_
  rintro ⟨child, ended⟩ -
  dsimp only
  by_cases disagrees : (ended.success != bit) = true
  · rw [if_pos disagrees]
    exact ⟨fun misses => misses, h⟩
  · rw [if_neg disagrees]
    exact keeps.fire_settles h (.contextReEntry ..)

theorem endTransaction {outcome : TransactionOutcome}
    (keeps : Keeps chain (Operation.endTransaction world outcome).Raises P) (h : P t) :
    Settles (Tracer.endTransaction chain world outcome t) P fun v => ¬v.MissesSection := by
  unfold Tracer.endTransaction
  refine requireTransaction_bind h ?_
  refine Ends.bind (keeps.fire_settles h (.transactionEnd ..)) fun _ t h => ?_
  refine Ends.bind (keeps.fire_settles h (.transactionClosed ..)) fun _ t h => ?_
  exact keeps.relax h (fun e => by simp [Agenda.clear]) rfl (Nat.le_refl _)

/-! ### Drivers -/

/-- **An operation keeps the property** and misses no section, be it accepted or refused. -/
theorem announce {operation : Operation} (keeps : Keeps chain operation.Raises P)
    (remembers : operation ≠ .startConflation) (h : P t) :
    Settles (operation.announce chain t) P fun v => ¬v.MissesSection := by
  cases operation with
  | startConflation => exact absurd rfl remembers
  | beginTransaction world tx => exact Ends.discard (keeps.beginTransaction h)
  | announceCall world i => exact Ends.discard (keeps.announceCall h)
  | finishOpcode pushed? => exact keeps.finishOpcode h
  | enterContext entry => exact Ends.discard (keeps.enterContext h)
  | exitContext world outcome => exact Ends.discard (keeps.exitContext h)
  | rollBack world context => exact keeps.rollBack h
  | reEnterContext world top => exact keeps.reEnterContext h
  | endTransaction world outcome => exact keeps.endTransaction h

theorem after {operation : Operation} (keeps : Keeps chain operation.Raises P)
    (remembers : operation ≠ .startConflation) (h : P t) : P (t.after chain operation) :=
  after_of_leaves (keeps.announce remembers h).leaves

/-- **No driver breaks the property**, as long as nothing is forgotten. -/
theorem foldl_after (keeps : Keeps chain (fun _ => True) P) {operations : List Operation}
    (remembers : .startConflation ∉ operations) (h : P t) :
    P (operations.foldl (Tracer.after chain) t) := by
  induction operations generalizing t with
  | nil => exact h
  | cons operation operations ih =>
      obtain ⟨first, rest⟩ := not_or.1 (List.mem_cons.not.1 remembers)
      refine ih rest ((keeps.mono fun _ _ => trivial).after (Ne.symm first) h)

end Keeps

/-- **A property of every tracer that a driver may have**, which holds when nothing has been traced
and is kept by every operation. -/
theorem drive_of_after {P : Tracer → Prop} (start : P {})
    (step : ∀ (t : Tracer) (operation : Operation), P t → P (t.after chain operation))
    (operations : List Operation) : P (drive chain operations) := by
  have driven : ∀ t, P t → P (operations.foldl (after chain) t) := by
    induction operations with
    | nil => exact fun _ h => h
    | cons operation operations ih => exact fun t h => ih _ (step t operation h)
  exact driven {} start

end Tracer

end ExecutionTrace
