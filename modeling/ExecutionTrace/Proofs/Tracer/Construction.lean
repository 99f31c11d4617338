import ExecutionTrace.Proofs.Call.Announcement
import ExecutionTrace.Proofs.Launch.Announcement
import ExecutionTrace.Tracer

/-!
# Announcements that construct a section

A call and a transaction are announced alike: the stamp rises, a section is constructed, and it
joins the others.  So what is known of a construction is known of the announcement, be it accepted
or refused.

## Main Definitions

* `Tracer.announceCall_constructs`, `Tracer.beginTransaction_launches`,
  `Tracer.beginTransaction_settles` — what a construction leads to, the announcement does
* `Tracer.announceCall_ends`, `Tracer.beginTransaction_ends` — what either leaves behind
* `Section.Created` — a section as it is when it is added, and what it waits for

## Design Notes

A construction may change the table of incarnations and the agenda before it is given up, and then
the announcement leaves behind what it has changed by then.  That nothing has been changed is proved
of each construction; here it is only passed on.
-/

namespace ExecutionTrace

/-- **A section as it is when it is added** at a stamp, and the events that it then waits for. -/
inductive Section.Created (stamp : Nat) : Section → List Event → Prop
  | launch {s : LaunchSection} (trace : s.trace = Trace.start stamp 0) :
      Created stamp (.launch s) LaunchSection.awaited
  | settlement {s : SettlementSection} (trace : s.trace = Trace.start stamp 0) :
      Created stamp (.settlement s) SettlementSection.awaited
  | call {chain : Chain} {setting : Setting} {world : WorldState} {frame : Frame}
      {i : Invocation} {c : CallSection} (at_stamp : setting.stamp = stamp)
      (announced : CallSection.Announced chain setting world frame i c) :
      Created stamp (.call c) (c.awaited setting.contexts.nextId)

namespace Tracer

variable {chain : Chain} {world : WorldState} {t : Tracer}

/-- Asking for a transaction changes nothing, and fails outside of one. -/
theorem requireTransaction_ends (t : Tracer) :
    Ends (requireTransaction t) (fun _ t' => t' = t ∧ t.transaction?.isSome = true)
      fun v t' => t' = t ∧ t.transaction? = none ∧ v = .noActiveTransaction := by
  unfold requireTransaction
  refine Ends.get_bind (Ends.ofExcept_bind (A := fun _ => t.transaction?.isSome = true) ?_
    fun _ inside => ⟨rfl, inside⟩)
  unfold Setting.transaction
  cases t.transaction? with
  | none => exact ⟨rfl, rfl, rfl⟩
  | some tx => exact rfl

/-- A construction changes nothing but the desk, be it accepted or given up. -/
theorem construct_ends {α : Type} {construction : Construction α} {Q : α → Desk → Prop}
    {P : Violation → Desk → Prop} (ends : Ends (construction t.toDesk) Q P) :
    Ends (construct construction t)
      (fun a t' => ∃ desk, Q a desk ∧ t' = { t with toDesk := desk })
      (fun v t' => ∃ desk, P v desk ∧ t' = { t with toDesk := desk }) :=
  Ends.onPart (ends.mono (fun _ desk h => ⟨desk, h, rfl⟩) fun _ desk h => ⟨desk, h, rfl⟩)

/-- A change of the table of incarnations changes nothing else of a tracer. -/
theorem construct_onIncarnations_leaves {α : Type} {change : Incarnations.Change α}
    {P : Tracer → Prop} (holds : ∀ incarnations, P { t with incarnations }) :
    Leaves (construct (Construction.onIncarnations change) t) P := by
  refine Ends.onPart (Ends.onPart ?_)
  show Ends (change t.incarnations) _ _
  cases change t.incarnations with
  | ok a incarnations => exact holds incarnations
  | error v incarnations => exact holds incarnations

/-! ## Calls -/

section Calls

variable {i : Invocation} {Q : CallSection → Desk → Prop} {P : Violation → Desk → Prop}

/-- **An announced call is constructed** at the next stamp, and joins the others. -/
theorem announceCall_constructs (active : t.transaction?.isSome = true)
    (ends : Ends (CallSection.announce chain t.sections.size world i
      { t.toDesk with stamp := t.stamp + 1 }) Q P) :
    Ends (announceCall chain world i t)
      (fun id t' => id = t.sections.size ∧ ∃ c desk, Q c desk ∧
        t' = { toDesk := desk, sections := t.sections.push (.call c) })
      (fun v t' => ∃ desk, P v desk ∧ t' = { toDesk := desk, sections := t.sections }) := by
  unfold announceCall
  refine Ends.bind ((requireTransaction_ends t).mono (fun _ _ h => h) ?_) ?_
  · rintro _ _ ⟨-, outside, -⟩
    simp [outside] at active
  rintro _ _ ⟨rfl, -⟩
  refine Ends.modify_bind (Ends.get_bind (Ends.bind (construct_ends ends) ?_))
  rintro c _ ⟨desk, h, rfl⟩
  exact ⟨rfl, c, desk, h, rfl⟩

/-- **What an announced call leaves behind.** A call that is refused leaves nothing but its stamp,
if it has got one. -/
theorem announceCall_ends (t : Tracer) (chain : Chain) (world : WorldState) (i : Invocation) :
    Ends (announceCall chain world i t)
      (fun id t' => id = t.sections.size ∧ ∃ c frame,
        CallSection.Announced chain { t.toSetting with stamp := t.stamp + 1 } world frame i c ∧
        t' = { t with
          stamp := t.stamp + 1
          agenda := t.agenda.scheduleAll (c.awaited t.contexts.nextId) t.sections.size
          sections := t.sections.push (.call c) })
      (fun v t' => ¬v.MissesSection ∧
        t' = { t with stamp := t.stamp + if t.transaction?.isSome then 1 else 0 }) := by
  cases active : t.transaction?.isSome with
  | true =>
      refine (announceCall_constructs active (CallSection.announce_ends ..)).mono ?_ ?_
      · rintro _ _ ⟨numbered, c, _, ⟨⟨frame, announced⟩, rfl⟩, rfl⟩
        exact ⟨numbered, c, frame, announced, rfl⟩
      · rintro v _ ⟨_, ⟨found, rfl⟩, rfl⟩
        exact ⟨found, rfl⟩
  | false =>
      unfold announceCall
      refine Ends.bind ((requireTransaction_ends t).mono (fun _ _ h => h) ?_) ?_
      · rintro _ _ ⟨rfl, -, rfl⟩
        exact ⟨id, rfl⟩
      · rintro _ _ ⟨-, inside⟩
        rw [active] at inside
        cases inside

/-- **What a call leads to that is announced in a context.** -/
theorem announceCall_enlists {frame : Frame} (active : t.transaction?.isSome = true)
    (current : t.contexts.currentFrame = .ok frame) :
    Ends (announceCall chain world i t)
      (fun id t' => id = t.sections.size ∧ ∃ c,
        CallSection.Announced chain { t.toSetting with stamp := t.stamp + 1 } world frame i c ∧
        t' = { t with
          stamp := t.stamp + 1
          agenda := t.agenda.scheduleAll (c.awaited t.contexts.nextId) t.sections.size
          sections := t.sections.push (.call c) })
      (fun v _ => i.Refusal v) := by
  refine (announceCall_constructs active (CallSection.announce_enlists current)).mono ?_ ?_
  · rintro _ _ ⟨numbered, c, _, ⟨announced, rfl⟩, rfl⟩
    exact ⟨numbered, c, announced, rfl⟩
  · rintro v _ ⟨_, ⟨refusal, -⟩, -⟩
    exact refusal

end Calls

/-! ## Transactions -/

variable {tx : Transaction}

/-- The setting that a transaction is announced in. -/
def beginSetting (t : Tracer) (tx : Transaction) : Setting :=
  { t.toSetting with stamp := t.stamp + 1, contexts := {}, transaction? := some tx }

/-- **What a transaction leads to that executes code.** -/
theorem beginTransaction_launches (t : Tracer) (chain : Chain)
    (executes : tx.requiresExecution world = true) :
    Ends (beginTransaction chain world tx t)
      (fun id t' => id = t.sections.size ∧
        LaunchSection.Admissible t.incarnations world tx ∧ ∃ s incarnations,
          LaunchSection.Announced (t.beginSetting tx) world tx s incarnations ∧
          t' =
            { t with
              stamp := t.stamp + 1
              contexts := {}
              transaction? := some tx
              incarnations
              agenda := t.agenda.scheduleAll LaunchSection.awaited t.sections.size
              sections := t.sections.push (.launch s) })
      (fun v t' => t' = { t with stamp := t.stamp + 1, contexts := {}, transaction? := some tx } ∧
        Refused t.incarnations [tx.sender, tx.recipient]
          (LaunchSection.Admissible t.incarnations world tx) v) := by
  unfold beginTransaction
  refine Ends.modify_bind (Ends.get_bind ?_)
  rw [if_pos executes]
  refine Ends.bind ((construct_ends (LaunchSection.announce_ends rfl)).mono (fun _ _ h => h) ?_) ?_
  · rintro v _ ⟨_, ⟨rfl, refused⟩, rfl⟩
    exact ⟨rfl, refused⟩
  · rintro s _ ⟨_, ⟨admissible, incarnations, announced, rfl⟩, rfl⟩
    exact ⟨rfl, admissible, s, incarnations, announced, rfl⟩

/-- **What a transaction leads to that runs no code.** -/
theorem beginTransaction_settles (t : Tracer) (chain : Chain)
    (skips : tx.requiresExecution world = false) :
    Ends (beginTransaction chain world tx t)
      (fun id t' => id = t.sections.size ∧
        SettlementSection.Admits chain t.incarnations world tx ∧ ∃ s incarnations,
          SettlementSection.Announced chain (t.beginSetting tx) world tx s incarnations ∧
          t' =
            { t with
              stamp := t.stamp + 1
              contexts := {}
              transaction? := some tx
              incarnations
              agenda := t.agenda.scheduleAll SettlementSection.awaited t.sections.size
              sections := t.sections.push (.settlement s) })
      (fun v t' => t' = { t with stamp := t.stamp + 1, contexts := {}, transaction? := some tx } ∧
        Refused t.incarnations [tx.sender, tx.recipient, tx.coinbase]
          (SettlementSection.Admits chain t.incarnations world tx) v) := by
  unfold beginTransaction
  refine Ends.modify_bind (Ends.get_bind ?_)
  rw [if_neg (by simp [skips])]
  refine Ends.bind ((construct_ends (SettlementSection.announce_ends rfl)).mono (fun _ _ h => h) ?_)
    ?_
  · rintro v _ ⟨_, ⟨rfl, refused⟩, rfl⟩
    exact ⟨rfl, refused⟩
  · rintro s _ ⟨_, ⟨admits, incarnations, announced, rfl⟩, rfl⟩
    exact ⟨rfl, admits, s, incarnations, announced, rfl⟩

/-- **What a transaction leaves behind.** One that is refused adds no section, nobody waits for
anything else, and the table of incarnations is as it was. -/
theorem beginTransaction_ends (t : Tracer) (chain : Chain) (world : WorldState) (tx : Transaction) :
    Ends (beginTransaction chain world tx t)
      (fun id t' => id = t.sections.size ∧ ∃ s awaited incarnations,
        Section.Created (t.stamp + 1) s awaited ∧
        t' =
          { t with
            stamp := t.stamp + 1
            contexts := {}
            transaction? := some tx
            incarnations
            agenda := t.agenda.scheduleAll awaited t.sections.size
            sections := t.sections.push s })
      (fun v t' => ¬v.MissesSection ∧
        t' = { t with stamp := t.stamp + 1, contexts := {}, transaction? := some tx }) := by
  cases executes : tx.requiresExecution world with
  | true =>
      refine (t.beginTransaction_launches chain executes).mono ?_ fun v _ h => ⟨h.2.found, h.1⟩
      rintro _ _ ⟨numbered, -, s, incarnations, announced, rfl⟩
      exact ⟨numbered, .launch s, _, incarnations, .launch announced.trace, rfl⟩
  | false =>
      refine (t.beginTransaction_settles chain executes).mono ?_ fun v _ h => ⟨h.2.found, h.1⟩
      rintro _ _ ⟨numbered, -, s, incarnations, announced, rfl⟩
      exact ⟨numbered, .settlement s, _, incarnations, .settlement announced.trace, rfl⟩

end Tracer

end ExecutionTrace
