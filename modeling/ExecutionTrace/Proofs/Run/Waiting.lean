import ExecutionTrace.Proofs.Run.Driving
import ExecutionTrace.Proofs.Run.Spawning
import ExecutionTrace.Proofs.Tracer.Waiting

/-!
# Who waits for what between two steps

Between two steps of a transaction the agenda is known exactly.  It only depends on which contexts
are active, which have been rolled back and where the calls were made from: for every active context
but the current one, one call waits for control to be back in it, and for the context that it
spawned to end; and a call waits for the rollback of its own context, until that has happened.

## Main Definitions

* `Tracer.Answers` — the call that waits for control to be back in an active context
* `Tracer.Awaited` — everything that sections wait for between two steps
* `CallSection.Status` — what has become of a call by then
* `Attending` — the calls of a transaction between two steps
* `Passage.agenda_awaited` — at every instant of a transaction, and what its end drops

## Design Notes

A call waits for the end of a context only if it waits for control to be back in the one above, so
it is enough to know that no two calls wait for the latter.  Levels give that: the spawner of a
level waits for the return to the level below it, and whatever else waits is older and waits for
the return to a context further out.
-/

namespace ExecutionTrace

/-- A call made from a context, unless it is exceptional. -/
def Section.isMadeFrom (context : Nat) : Section → Bool
  | call c => c.scenario != .exception && c.shared.context == context
  | _ => false

namespace Tracer

/-- **The calls made from a context**, exceptional ones apart, among the sections from a number
on. -/
def callsFrom (t : Tracer) (since context : Nat) : List Nat :=
  (List.range t.sections.size).filter fun id =>
    decide (since ≤ id) && t.sections[id]?.any (·.isMadeFrom context)

/-- **The call that waits for control to be back in an active context**: nobody else does, and it
spawned the active context below, which is the only one whose end it waits for. -/
structure Answers (t : Tracer) (context id : Nat) (c : CallSection) (child : Frame) : Prop where
  waiting : t.agenda.waiting (.contextReEntry context) = [id]
  found : t.sections[id]? = some (.call c)
  home : c.shared.context = context
  active : t.contexts.Active child.id
  spawned : c.HasChild t.contexts child
  names : c.closing? = some (.initializeChild child.id)
  sole : ∀ d, t.contexts.Active d → t.contexts.parentOf d = some context → d = child.id
  exit : t.agenda.waiting (.contextExit child.id) = [id]
  only : ∀ d, id ∈ t.agenda.waiting (.contextExit d) → d = child.id

/-- **Who waits for what between two steps** of a transaction, whose sections are those from a
number on. -/
structure Awaited (t : Tracer) (since : Nat) : Prop where
  entries : t.agenda.waiting .contextEntry = []
  instructions : t.agenda.waiting .opcodeEnd = []
  answers : ∀ c, t.contexts.Active c → t.contexts.current? ≠ some c →
    ∃ id call child, since ≤ id ∧ t.Answers c id call child
  /-- Control can be back in no other context. -/
  returns : ∀ c, (t.contexts.Active c → t.contexts.current? = some c) →
    t.agenda.waiting (.contextReEntry c) = []
  /-- No other context can end and control be back in the one above. -/
  exits : ∀ d, (t.contexts.Active d → t.contexts.parentOf d = none) →
    t.agenda.waiting (.contextExit d) = []
  rollbacks : ∀ c, t.agenda.waiting (.rollback c) =
    if t.contexts.hasReverted c then [] else t.callsFrom since c

end Tracer

/-! ## Active contexts -/

namespace Stacked

variable {t : ContextTree} {tx : Transaction} {stop : Nat} {l : Level} {outer : List Level}

theorem parentOf_eq (h : Stacked t tx stop (l :: outer)) :
    t.parentOf l.context = outer.head?.map (·.context) := by
  have parent := congrArg (fun s => s.bind fun s => s.1) h.sound.station
  simpa [ContextTree.parentOf, Option.bind_map, Function.comp_def, Frame.station] using parent

/-- The levels from a given one outwards. -/
theorem exists_outward (h : Stacked t tx stop (l :: outer)) {x : Level} (hx : x ∈ l :: outer) :
    ∃ stop' outer', Stacked t tx stop' (x :: outer') ∧ outer' ⊆ l :: outer := by
  induction outer generalizing stop l with
  | nil =>
      obtain rfl := List.mem_singleton.1 hx
      exact ⟨stop, [], h, List.nil_subset _⟩
  | cons below outer ih =>
      rcases List.mem_cons.1 hx with rfl | further
      · exact ⟨stop, below :: outer, h, List.subset_cons_self ..⟩
      · cases h with
        | above _ _ _ _ _ rest =>
            obtain ⟨stop', outer', outward, inside⟩ := ih rest further
            exact ⟨stop', outer', outward, List.subset_cons_of_subset _ inside⟩

/-- The context above the one of a level is that of a level. -/
theorem exists_parent (h : Stacked t tx stop (l :: outer)) {x : Level} (hx : x ∈ l :: outer)
    {id : Nat} (parent : t.parentOf x.context = some id) : ∃ y ∈ l :: outer, y.context = id := by
  obtain ⟨stop', outer', outward, inside⟩ := h.exists_outward hx
  rw [outward.parentOf_eq] at parent
  obtain ⟨y, first, same⟩ := Option.map_eq_some_iff.1 parent
  exact ⟨y, inside (List.mem_of_head? first), same⟩

/-- The context of a level has not ended. -/
theorem unended (h : Stacked t tx stop (l :: outer)) {x : Level} (hx : x ∈ l :: outer) {f : Frame}
    (found : t.frame? x.context = some f) : f.outcome? = none := by
  obtain ⟨stop', outer', outward, -⟩ := h.exists_outward hx
  have station := outward.sound.station
  rw [found] at station
  exact congrArg (fun s => s.2.2.1) (Option.some.inj station)

/-- All levels are active if the innermost one is. -/
theorem active (h : Stacked t tx stop (l :: outer)) (first : t.Active l.context) {x : Level}
    (hx : x ∈ l :: outer) : t.Active x.context := by
  induction outer generalizing stop l with
  | nil => rwa [List.mem_singleton.1 hx]
  | cons below outer ih =>
      rcases List.mem_cons.1 hx with rfl | further
      · exact first
      · have parent := h.parentOf_eq
        cases h with
        | above _ _ _ _ _ rest => exact ih rest (.above first parent) further

/-- **The active contexts are the levels.** -/
theorem active_iff (h : Stacked t tx stop (l :: outer)) (current : t.current? = some l.context)
    {id : Nat} : t.Active id ↔ ∃ x ∈ l :: outer, x.context = id := by
  constructor
  · intro active
    induction active with
    | current found => exact ⟨l, by simp, Option.some.inj (current.symm.trans found)⟩
    | above _ parent ih =>
        obtain ⟨x, hx, rfl⟩ := ih
        exact h.exists_parent hx parent
  · rintro ⟨x, hx, rfl⟩
    exact h.active (.current current) hx

end Stacked

/-! ## What calls wait for -/

namespace CallSection

variable {t : ContextTree} {c : CallSection} {e : Event}

/-- **What has become of a call between two steps**: it is over, or the context that it spawned is
active. -/
inductive Status (t : ContextTree) (c : CallSection) : Prop
  | ended (resolved : c.Resolved) (tells : t.Tells c)
  | waiting {child : Nat} (pending : c.Pending child) (active : t.Active child)
      (parent : t.parentOf child = some c.shared.context)
      (intact : t.Unreverted c.shared.context)

/-- A pending call waits for control to be back where it was made from, and nowhere else. -/
theorem Pending.contextReEntry_mem_iff {child id : Nat} (pending : c.Pending child) :
    .contextReEntry id ∈ c.awaits ↔ id = c.shared.context := by
  rw [pending.awaits_eq, returnEvents]
  split <;> simp

/-- **Whoever waits for a context other than its own** has spawned one that is active. -/
theorem Status.mem_awaits (status : c.Status t) (waits : e ∈ c.awaits) :
    e = .rollback c.shared.context ∨ e = .transactionClosed ∨ ∃ child, c.Pending child ∧
      t.Active child ∧ t.parentOf child = some c.shared.context ∧
      (e = .contextReEntry c.shared.context ∨ e = .contextExit child) := by
  cases status with
  | ended resolved =>
      rcases resolved.mem_awaits waits with ⟨-, same⟩ | same
      · exact .inl same
      · exact .inr (.inl same)
  | @waiting child pending active parent =>
      rcases pending.mem_awaits waits with same | same | same
      · exact .inl same
      · exact .inr (.inl same)
      · exact .inr (.inr ⟨child, pending, active, parent, same⟩)

/-- **A call waits for the rollback of its own context**, unless it is exceptional or that has
happened. -/
theorem Status.rollback_mem_iff (status : c.Status t) {id : Nat} : .rollback id ∈ c.awaits ↔
    c.scenario ≠ .exception ∧ c.shared.context = id ∧ t.hasReverted id = false := by
  constructor
  · intro waits
    obtain rfl := c.context_eq_of_rollback_mem waits
    cases status with
    | ended resolved tells =>
        rcases resolved.mem_awaits waits with ⟨standing, -⟩ | other
        · refine ⟨fun raised => ?_, rfl, (tells.standing standing).hasReverted_eq⟩
          have canRevert := standing.canRevert
          rw [CanRevert, raised] at canRevert
          exact canRevert
        · cases other
    | waiting pending _ _ intact =>
        refine ⟨fun raised => ?_, rfl, intact.hasReverted_eq⟩
        rcases pending.course with ⟨other, -⟩ | ⟨other, -⟩ | ⟨other, -⟩
        all_goals
          rw [raised] at other
          cases other
  · rintro ⟨regular, rfl, intact⟩
    cases status with
    | ended resolved tells =>
        rcases resolved with dismissed | standing | undone
        · exact absurd dismissed.scenario regular
        · simp [standing.awaits_eq]
        · rw [tells.undone undone] at intact
          cases intact
    | waiting pending => simp [pending.awaits_eq]

end CallSection

/-- A call of a level that is over. -/
theorem Level.Sound.status {t : ContextTree} {stop : Nat} {parent? : Option Nat} {l : Level}
    (sound : l.Sound t stop parent?) : ∀ c ∈ l.settled, c.Status t := by
  intro c hc
  obtain ⟨resolved, -, -, tells⟩ := sound.settled c hc
  exact .ended resolved tells

/-- **Every call of a level is over, or has spawned an active context.** -/
theorem Stacked.status {t : ContextTree} {tx : Transaction} {stop : Nat} {l : Level}
    {outer : List Level} (h : Stacked t tx stop (l :: outer)) (active : t.Active l.context) :
    ∀ c ∈ callsOf (l :: outer), c.Status t := by
  induction outer generalizing stop l with
  | nil =>
      intro c hc
      cases h with
      | root sound spawner =>
          exact sound.status c (by simpa [callsOf, Level.calls, spawner] using hc)
  | cons below outer ih =>
      intro c hc
      have parent := h.parentOf_eq
      cases h with
      | above sound spawned pending home _ rest =>
          rcases (mem_callsOf_cons spawned).1 hc with older | rfl | settled
          · exact ih rest (.above active parent) c older
          · have parent : t.parentOf l.context = some c.shared.context := home ▸ parent
            exact .waiting pending active parent (home ▸ rest.sound.unreverted)
          · exact sound.status c settled

/-- **The spawner of a level** is the only call that waits for control to be back in the level
below. -/
theorem Stacked.spawner {t : ContextTree} {tx : Transaction} {stop : Nat} {l : Level}
    {outer : List Level} (h : Stacked t tx stop (l :: outer))
    (scripted : ∀ x ∈ l :: outer, x.Scripted) {x : Level} (hx : x ∈ l :: outer) {id : Nat}
    (parent : t.parentOf x.context = some id) :
    ∃ c ∈ callsOf (l :: outer), c.scenario = .contractUndefined ∧ c.Pending x.context ∧
      c.shared.context = id ∧
      (callsOf (l :: outer)).filter (fun c => decide (.contextReEntry id ∈ c.awaits)) = [c] := by
  induction outer generalizing stop l with
  | nil =>
      rw [List.mem_singleton.1 hx, h.parentOf_eq] at parent
      cases parent
  | cons below outer ih =>
      have above := h.parentOf_eq
      cases h with
      | @above _ _ _ _ spawner sound spawned pending home _ rest =>
          have split : callsOf (l :: below :: outer) =
              callsOf (below :: outer) ++ ([spawner] ++ l.settled) := by
            rw [callsOf, Level.calls, spawned]
            rfl
          have settled : l.settled.filter
              (fun c => decide (.contextReEntry id ∈ c.awaits)) = [] := by
            refine List.filter_eq_nil_iff.2 fun c hc waits => ?_
            rcases (sound.settled c hc).1.mem_awaits (of_decide_eq_true waits) with ⟨-, same⟩ | same
            all_goals cases same
          rw [split, List.filter_append, List.filter_append, settled, List.append_nil]
          rcases List.mem_cons.1 hx with rfl | further
          · obtain rfl := Option.some.inj (above.symm.trans parent)
            -- The older calls can only get control back in contexts further out.
            have older : (callsOf (below :: outer)).filter
                (fun c => decide (.contextReEntry below.context ∈ c.awaits)) = [] := by
              refine List.filter_eq_nil_iff.2 fun c hc waits => ?_
              exact (rest.lt_of_contextReEntry c hc (of_decide_eq_true waits)).false
            have waits := pending.contextReEntry_mem_iff.2 home.symm
            refine ⟨spawner, by simp, scripted x (.head _) spawner spawned, pending, home, ?_⟩
            rw [older, List.nil_append]
            exact List.filter_cons_of_pos (decide_eq_true waits)
          · obtain ⟨c, hc, scenario, pending', home', sole⟩ := ih rest
              (fun y hy => scripted y (List.mem_cons_of_mem _ hy)) further
            have outside := rest.lt_of_contextReEntry c hc
              (pending'.contextReEntry_mem_iff.2 home'.symm)
            have other : .contextReEntry id ∉ spawner.awaits := by
              intro waits
              have same := pending.contextReEntry_mem_iff.1 waits
              omega
            have idle : [spawner].filter
                (fun c => decide (.contextReEntry id ∈ c.awaits)) = [] := by
              simp [other]
            refine ⟨c, List.mem_append_left _ hc, scenario, pending', home', ?_⟩
            rw [sole, idle, List.append_nil]

/-! ## The calls of a transaction between two steps -/

/-- **The calls of a transaction between two steps.** -/
structure Attending (t : Tracer) (older : List Section) (launch : LaunchSection)
    (calls : List CallSection) : Prop where
  tracing : Tracing t older launch calls
  wellFormed : t.contexts.WellFormed
  status : ∀ c ∈ calls, c.Status t.contexts
  /-- Every active context but the root was spawned by a call that waits for it to end, and is the
  only one to wait for control to be back in the context above. -/
  spawner : ∀ {d id : Nat}, t.contexts.Active d → t.contexts.parentOf d = some id →
    ∃ c child, child.id = d ∧ c.HasChild t.contexts child ∧ c.Pending d ∧
      c.scenario = .contractUndefined ∧ c.shared.context = id ∧ .contextExit d ∈ c.awaits ∧
      calls.filter (fun c => decide (.contextReEntry id ∈ c.awaits)) = [c]

namespace Attending

variable {t : Tracer} {older : List Section} {launch : LaunchSection} {calls : List CallSection}

/-- Whoever waits for something between two steps is a call, unless it is the end. -/
theorem call_of_waiting (h : Attending t older launch calls) {e : Event}
    (other : e ≠ .transactionEnd) {id : Nat} (listed : id ∈ t.agenda.waiting e) :
    ∃ c ∈ calls, t.sections[id]? = some (.call c) ∧ e ∈ c.awaits := by
  rw [h.tracing.attuned e] at listed
  obtain ⟨s, found, waits⟩ := Tracer.mem_waiters.1 listed
  obtain ⟨c, hc, rfl⟩ := h.tracing.call_of_awaits (Array.mem_of_getElem? found) waits other
  exact ⟨c, hc, found, waits⟩

/-- **Nobody waits for an event** that no call awaits. -/
theorem waiting_eq_nil (h : Attending t older launch calls) {e : Event}
    (other : e ≠ .transactionEnd) (nobody : ∀ c ∈ calls, e ∉ c.awaits) :
    t.agenda.waiting e = [] := by
  refine List.eq_nil_iff_forall_not_mem.2 fun id listed => ?_
  obtain ⟨c, hc, -, waits⟩ := h.call_of_waiting other listed
  exact nobody c hc waits

/-- **Whoever waits for a context to end** waits for control to be back in the one above. -/
theorem of_contextExit (h : Attending t older launch calls) {d id : Nat}
    (listed : id ∈ t.agenda.waiting (.contextExit d)) :
    t.contexts.Active d ∧ ∃ c, t.sections[id]? = some (.call c) ∧
      t.contexts.parentOf d = some c.shared.context ∧
      id ∈ t.agenda.waiting (.contextReEntry c.shared.context) := by
  obtain ⟨c, hc, found, waits⟩ := h.call_of_waiting (fun same => by cases same) listed
  rcases (h.status c hc).mem_awaits waits with same | same | ⟨child, pending, active, parent, same⟩
  · cases same
  · cases same
  · rcases same with same | same
    · cases same
    · cases same
      refine ⟨active, c, found, parent, ?_⟩
      rw [h.tracing.attuned]
      exact Tracer.mem_waiters.2 ⟨_, found, pending.contextReEntry_mem_iff.2 rfl⟩

/-- Calls of the transaction wait for the rollback of their own contexts, and nobody else waits
for a rollback. -/
theorem rollback_mem_iff (h : Attending t older launch calls) {i id : Nat} {s : Section}
    (found : t.sections[i]? = some s) : .rollback id ∈ s.awaits ↔
      older.length ≤ i ∧ s.isMadeFrom id = true ∧ t.contexts.hasReverted id = false := by
  have there : (older ++ .launch launch :: calls.map .call)[i]? = some s := by
    rw [← h.tracing.sections, Array.getElem?_toList]
    exact found
  -- Earlier sections wait for nothing, and the launch section waits for the end.
  rcases Nat.lt_or_ge i older.length with earlier | later
  · rw [List.getElem?_append_left earlier] at there
    constructor
    · intro waits
      rw [h.tracing.silent s (List.mem_of_getElem? there)] at waits
      cases waits
    · rintro ⟨later, -⟩
      omega
  · rw [List.getElem?_append_right later] at there
    rcases List.mem_cons.1 (List.mem_of_getElem? there) with rfl | called
    · constructor
      · intro waits
        have waits : .rollback id ∈ launch.awaits := waits
        rw [h.tracing.launched] at waits
        cases List.mem_singleton.1 waits
      · rintro ⟨-, made, -⟩
        cases made
    · obtain ⟨c, hc, rfl⟩ := List.mem_map.1 called
      refine (h.status c hc).rollback_mem_iff.trans ?_
      simp [Section.isMadeFrom, later, and_assoc]

/-- **Who waits for the rollback of a context**: all calls made from it, until it happens. -/
theorem waiting_rollback (h : Attending t older launch calls) (id : Nat) :
    t.agenda.waiting (.rollback id) =
      if t.contexts.hasReverted id then [] else t.callsFrom older.length id := by
  rw [h.tracing.attuned]
  unfold Tracer.waiters Tracer.callsFrom Tracer.awaitsAt
  have at_each : ∀ i : Nat, (t.sections[i]?.any fun s => decide (.rollback id ∈ s.awaits)) =
      ((decide (older.length ≤ i) && t.sections[i]?.any (·.isMadeFrom id)) &&
        !t.contexts.hasReverted id) := by
    intro i
    cases found : t.sections[i]? with
    | none => simp
    | some s => simp [h.rollback_mem_iff found, Bool.and_assoc]
  simp only [at_each]
  cases t.contexts.hasReverted id with
  | true => simp
  | false => simp

/-- **Control comes back to an active context** by way of one call. -/
theorem answers (h : Attending t older launch calls) {d id : Nat} (active : t.contexts.Active d)
    (parent : t.contexts.parentOf d = some id) :
    ∃ number c child, older.length ≤ number ∧ t.Answers id number c child := by
  obtain ⟨c, child, rfl, spawned, pending, scenario, home, leaves, sole⟩ := h.spawner active parent
  have listed : t.sections.toList.filter
      (fun s => decide (.contextReEntry id ∈ s.awaits)) = [.call c] := by
    rw [h.tracing.filter_awaits (fun same => by cases same), sole]
    rfl
  obtain ⟨number, waiters, found⟩ := Tracer.waiters_of_filter listed
  have waiting : t.agenda.waiting (.contextReEntry id) = [number] := by
    rw [h.tracing.attuned, waiters]
  have closing := pending.closing_eq scenario
  -- Whatever is active below the context was spawned by the same call, and that names one context.
  have only : ∀ d, t.contexts.Active d → t.contexts.parentOf d = some id → d = child.id := by
    intro d active' parent'
    obtain ⟨c', child', rfl, -, pending', scenario', -, -, sole'⟩ := h.spawner active' parent'
    obtain rfl := List.singleton_inj.1 (sole.symm.trans sole')
    have same := closing.symm.trans (pending'.closing_eq scenario')
    exact (ContextRow.initializeChild.inj (Option.some.inj same)).symm
  have recent : older.length ≤ number := by
    have waits : .rollback c.shared.context ∈ (Section.call c).awaits := by
      simp [Section.awaits, pending.awaits_eq]
    exact ((h.rollback_mem_iff found).1 waits).1
  refine ⟨number, c, child, recent, waiting, found, home, active, spawned, closing, only, ?_, ?_⟩
  · rw [h.tracing.attuned]
    refine Tracer.waiters_eq_singleton fun i => ⟨fun waits => ?_, ?_⟩
    -- Whoever waits for the child to end waits for control to be back in the context.
    · rw [← h.tracing.attuned] at waits
      obtain ⟨-, c', -, parent', waits'⟩ := h.of_contextExit waits
      obtain rfl := Option.some.inj (parent.symm.trans parent')
      rw [waiting] at waits'
      exact List.mem_singleton.1 waits'
    · rintro rfl
      exact Tracer.mem_waiters.2 ⟨_, found, leaves⟩
  · intro d waits
    obtain ⟨active', c', found', parent', -⟩ := h.of_contextExit waits
    obtain rfl := Section.call.inj (Option.some.inj (found.symm.trans found'))
    exact only d active' (home ▸ parent')

/-- **Between two steps the agenda is known.** -/
theorem awaited (h : Attending t older launch calls) : t.Awaited older.length where
  entries := by
    refine h.waiting_eq_nil (fun same => by cases same) fun c hc waits => ?_
    rcases (h.status c hc).mem_awaits waits with same | same | ⟨child, -, -, -, same | same⟩
    all_goals cases same
  instructions := by
    refine h.waiting_eq_nil (fun same => by cases same) fun c hc waits => ?_
    rcases (h.status c hc).mem_awaits waits with same | same | ⟨child, -, -, -, same | same⟩
    all_goals cases same
  answers := by
    intro id active other
    cases active with
    | current found => exact absurd found other
    | above active parent => exact h.answers active parent
  returns := by
    intro id outermost
    refine h.waiting_eq_nil (fun same => by cases same) fun c hc waits => ?_
    rcases (h.status c hc).mem_awaits waits with same | same | ⟨child, -, active, parent, same⟩
    · cases same
    · cases same
    · rcases same with same | same
      · cases same
        -- The call spawned an active context, so the one above is active and not the last one.
        have before := (h.wellFormed.parent_lt parent).2
        have last := active.le_current h.wellFormed (outermost (.above active parent))
        omega
      · cases same
  exits := by
    intro d root
    refine List.eq_nil_iff_forall_not_mem.2 fun id listed => ?_
    obtain ⟨active, c, -, parent, -⟩ := h.of_contextExit listed
    rw [root active] at parent
    cases parent
  rollbacks := h.waiting_rollback

end Attending

/-- **While contexts are active**, the calls of a transaction are those of its levels. -/
theorem Running.attending {m : Machine} {tx : Transaction} {older : List Section}
    {launch : LaunchSection} {l : Level} {outer : List Level} {stop : Nat}
    (running : Running m tx older launch l outer) (scripted : l.Scripted)
    (numbered : m.tracer.contexts.Numbered 2 (callsOf (l :: outer)) stop) :
    Attending m.tracer older launch (callsOf (l :: outer)) where
  tracing := running.tracing
  wellFormed := running.wellFormed
  status := running.stacked.status (.current running.current)
  spawner := by
    intro d id active parent
    obtain ⟨x, hx, rfl⟩ := (running.stacked.active_iff running.current).1 active
    obtain ⟨c, hc, scenario, pending, home, sole⟩ := running.stacked.spawner
      (List.forall_mem_cons.2 ⟨scripted, running.scripted⟩) hx parent
    have spawns : c.spawns = true := by
      rw [CallSection.spawns, scenario]
      rfl
    obtain ⟨child, made, names⟩ := numbered.exists_child hc spawns
    have contract : c.scenario.isContractCall = true := by
      rw [scenario]
      rfl
    have number : x.context = child.id := by
      have predicted := names.contract contract
      rw [pending.closing_eq scenario] at predicted
      exact ContextRow.initializeChild.inj (Option.some.inj predicted)
    -- The child is active, so nothing has been captured at its end.
    have unended := running.stacked.unended hx (number ▸ made.found)
    have captured := made.captured contract
    rw [unended] at captured
    refine ⟨c, child, number.symm, made, pending, scenario, home, ?_, sole⟩
    rw [pending.awaits_eq, CallSection.returnEvents, CallSection.hasLeft, scenario, captured]
    simp

/-- **Once the root context has been finished**, nothing is active. -/
theorem Ended.attending {m : Machine} {tx : Transaction} {older : List Section}
    {launch : LaunchSection} {calls : List CallSection} {outcome : ContextOutcome}
    (ended : Ended m tx older launch calls outcome) : Attending m.tracer older launch calls where
  tracing := ended.tracing
  wellFormed := ended.wellFormed
  status c hc := .ended (ended.resolved c hc) (ended.told c hc)
  spawner active := (ContextTree.not_active ended.current active).elim

/-! ## The end of a transaction -/

/-- **When nothing is active**, rollbacks are all that is waited for, the end apart. -/
theorem Tracer.Awaited.mem_waiting_iff {t : Tracer} {since : Nat} (awaited : t.Awaited since)
    (left : t.contexts.current? = none) {e : Event} {id : Nat} :
    id ∈ t.agenda.waiting e ∧ e ≠ .transactionEnd ∧ e ≠ .transactionClosed ↔
      ∃ context, e = .rollback context ∧ t.contexts.hasReverted context = false ∧
        id ∈ t.callsFrom since context := by
  constructor
  · rintro ⟨waits, notEnd, notClosed⟩
    cases e with
    | transactionEnd => exact absurd rfl notEnd
    | transactionClosed => exact absurd rfl notClosed
    | contextEntry =>
        rw [awaited.entries] at waits
        cases waits
    | opcodeEnd =>
        rw [awaited.instructions] at waits
        cases waits
    | contextReEntry c =>
        rw [awaited.returns c fun active => (ContextTree.not_active left active).elim] at waits
        cases waits
    | contextExit d =>
        rw [awaited.exits d fun active => (ContextTree.not_active left active).elim] at waits
        cases waits
    | rollback context =>
        rw [awaited.rollbacks] at waits
        split at waits <;> rename_i reverted
        · cases waits
        · exact ⟨context, rfl, Bool.eq_false_iff.2 reverted, waits⟩
  · rintro ⟨context, rfl, intact, listed⟩
    refine ⟨?_, by simp, by simp⟩
    rw [awaited.rollbacks, intact]
    exact listed

namespace Machine

variable {chain : Chain} {m : Machine}

theorem Silent.yields {α : Type} {x : Step α} (silent : Silent x) :
    Yields (x m) (fun _ m' => m'.tracer = m.tracer) fun _ => True := by
  have leaves := silent m
  cases result : x m with
  | ok _ m' =>
      rw [result] at leaves
      exact leaves.1
  | error _ _ => trivial

/-- **Ending a transaction** is one announcement to the tracer. -/
theorem endTransaction_announces (gasUsed : UInt64) :
    Yields (endTransaction chain gasUsed m)
      (fun _ m' => ∃ world outcome,
        Tracer.endTransaction chain world outcome m.tracer = .ok () m'.tracer) fun _ => True := by
  have closes : ∀ (tx : Transaction) (success : Bool) (m₁ : Machine), m₁.tracer = m.tracer →
      Yields ((do
        credit tx.coinbase (tx.coinbaseReward gasUsed)
        announce (Tracer.endTransaction chain (← get).world { success, gasUsed })
        modifyWorld (·.coolDown) : Step Unit) m₁)
        (fun _ m' => ∃ world outcome,
          Tracer.endTransaction chain world outcome m.tracer = .ok () m'.tracer) fun _ => True := by
    intro tx success m₁ same
    refine Ends.bind_ok (credit_eq ..) (Ends.get_bind ?_)
    refine announce_bind (Q := fun _ t => ∃ world outcome,
      Tracer.endTransaction chain world outcome m.tracer = .ok () t) (F := fun _ => True) ?_
      (fun _ h => h) fun _ t announced => announced
    show Yields (Tracer.endTransaction chain _ _ m₁.tracer) _ _
    rw [same]
    cases result : Tracer.endTransaction chain _ _ m.tracer with
    | ok _ t => exact ⟨_, _, result⟩
    | error _ _ => trivial
  unfold endTransaction
  refine Ends.get_bind ?_
  cases m.transaction? with
  | none => trivial
  | some tx =>
      refine Ends.modify_bind (Ends.get_bind ?_)
      dsimp only
      split
      · exact Ends.bind (Silent.settle tx gasUsed).yields fun _ m₁ same => closes tx _ m₁ same
      · exact Ends.bind (Silent.refund tx gasUsed).yields fun _ m₁ same => closes tx _ m₁ same

end Machine

/-- **Who waits for what is known at every instant of a transaction.** -/
theorem Passage.agenda_awaited {chain : Chain} (p : Passage chain) :
    p.present.tracer.Awaited p.idle.tracer.sections.size ∧
      ∀ gasUsed closed, (Action.settle gasUsed).carryOut chain p.present = .ok () closed →
        ∃ world outcome,
          Tracer.endTransaction chain world outcome p.present.tracer = .ok () closed.tracer ∧
          (Tracer.dropped chain world outcome p.present.tracer).Nodup ∧
          ∀ e id, (e, id) ∈ Tracer.dropped chain world outcome p.present.tracer ↔
            ∃ context, e = .rollback context ∧
              p.present.tracer.contexts.hasReverted context = false ∧
              id ∈ p.present.tracer.callsFrom p.idle.tracer.sections.size context := by
  obtain ⟨o, opened⟩ := p.opened
  have size : o.older.length = p.idle.tracer.sections.size := by
    rw [opened.older, Array.length_toList]
  have attending : ∃ calls, Attending p.present.tracer o.older o.launch calls := by
    rcases opened.present_of_preserved o.keepsNumbered opened.numbered with
      ⟨l, outer, ⟨running, scripted⟩, numbered⟩ | ⟨leaving, root, outcome, -, finished⟩
    · exact ⟨_, running.attending scripted numbered⟩
    · cases finished with
      | root ended => exact ⟨_, ended.attending⟩
  obtain ⟨calls, attending⟩ := attending
  have awaited := attending.awaited
  rw [size] at awaited
  refine ⟨awaited, fun gasUsed closed settles => ?_⟩
  obtain ⟨leaving, root, outcome, revertStamp, -, finished, -⟩ :=
    opened.closed_of_preserved o.keepsNumbered opened.numbered settles
  have left : p.present.tracer.contexts.current? = none := by
    cases finished with
    | root ended => exact ended.current
  have announces : Yields ((Action.settle gasUsed).carryOut chain p.present) _ _ :=
    Machine.endTransaction_announces gasUsed
  obtain ⟨world, result, announced⟩ := announces.value settles
  obtain ⟨nodup, dropped⟩ := Tracer.dropped_of_endTransaction attending.tracing.attuned announced
  refine ⟨world, result, announced, nodup, fun e id => ?_⟩
  exact (dropped e id).trans (awaited.mem_waiting_iff left)

/-- While the second context is active, the call that spawned it waits for it to end, for control to
be back in the first one and for the rollback of that one. -/
example : (Script.stage.play .ethereum [.start (Script.messageCall Script.sender 0xc0de 1),
    .call (.make .call 0xbeef 5)]).any (fun m => m.tracer.agenda.entries =
      [(.transactionEnd, 0), (.contextExit 2, 1), (.contextReEntry 1, 1), (.rollback 1, 1),
        (.transactionClosed, 1)]) = true := by
  decide +kernel

/-- A contract calls another one twice and succeeds: both calls wait to the end for a rollback that
never happens. -/
theorem Passage.standing_calls_dropped :
    ∃ (p : Passage .ethereum) (gasUsed : UInt64) (closed : Machine) (world : WorldState)
      (outcome : TransactionOutcome),
      (Action.settle gasUsed).carryOut .ethereum p.present = .ok () closed ∧
      p.present.tracer.Awaited p.idle.tracer.sections.size ∧
      Tracer.endTransaction .ethereum world outcome p.present.tracer = .ok () closed.tracer ∧
      (.rollback 1, 1) ∈ Tracer.dropped .ethereum world outcome p.present.tracer ∧
      (.rollback 1, 2) ∈ Tracer.dropped .ethereum world outcome p.present.tracer := by
  have evaluated : Script.stage.rehearse .ethereum (Script.messageCall Script.sender 0xc0de 1)
      Script.calledTwice (.succeeded []) 30000 (fun idle left _ =>
        left.tracer.contexts.hasReverted 1 = false ∧
          left.tracer.callsFrom idle.tracer.sections.size 1 = [1, 2]) = true := by
    decide +kernel
  obtain ⟨run, -, -, prompt, seen⟩ := Machine.exists_prompt_episode Script.reachable_stage evaluated
  obtain ⟨intact, calls⟩ := of_decide_eq_true seen
  rw [← prompt] at intact calls
  obtain ⟨awaited, ended⟩ := run.passage.agenda_awaited
  obtain ⟨world, outcome, announced, -, dropped⟩ := ended run.gasUsed run.closed run.ends
  have listed : ∀ id ∈ [1, 2],
      (.rollback 1, id) ∈ Tracer.dropped .ethereum world outcome run.passage.present.tracer := by
    intro id hid
    exact (dropped _ id).2 ⟨1, rfl, intact, calls ▸ hid⟩
  exact ⟨run.passage, run.gasUsed, run.closed, world, outcome, run.ends, awaited, announced,
    listed 1 (by simp), listed 2 (by simp)⟩

end ExecutionTrace
