import ExecutionTrace.Machine.Script
import ExecutionTrace.Proofs.Tracer.Driving

/-!
# Sections that wait for nothing

A section that waits for no event is never touched again, whatever a driver announces.  All sections
are in this state once a transaction has been ended, since its end drops everything that still
waits.

## Main Definitions

* `Agenda.pending_eq_zero_iff` — a section with nothing pending waits for no event
* `Tracer.Resolved` — a section that is there and waits for nothing
* `Tracer.drive_sections_frozen` — once resolved, a section stays as it is
-/

namespace ExecutionTrace

namespace Agenda

/-- **A section with nothing pending** waits for no event. -/
theorem pending_eq_zero_iff {a : Agenda} {id : Nat} :
    a.pending id = 0 ↔ ∀ e, id ∉ a.waiting e := by
  rw [pending, List.countP_eq_zero]
  constructor
  · exact fun none e waits => none (e, id) (mem_entries.2 waits) (beq_self_eq_true id)
  · intro silent entry listed same
    obtain rfl := beq_iff_eq.1 same
    exact silent entry.1 (mem_entries.1 listed)

end Agenda

namespace Tracer

variable {t t' : Tracer} {id : Nat} {s : Section}

theorem isResolved_iff : t.isResolved id = true ↔ ∀ e, id ∉ t.agenda.waiting e := by
  rw [isResolved, beq_iff_eq]
  exact Agenda.pending_eq_zero_iff

/-- **A section that is there and waits for nothing**, in a tracer whose sections are seated. -/
structure Resolved (id : Nat) (s : Section) (t : Tracer) : Prop where
  seated : t.Seated
  found : t.sections[id]? = some s
  silent : ∀ e, id ∉ t.agenda.waiting e

/-- **No announcement touches a resolved section.** -/
theorem resolved_keeps (chain : Chain) (raised : Occurrence → Prop) (id : Nat) (s : Section) :
    Keeps chain raised (Resolved id s) where
  inside resolved := resolved.seated.inside
  fire := by
    intro t occurrence resolved _
    refine (resolved.seated.fire_leaves chain occurrence).mono fun t' fired => ?_
    obtain ⟨s', there, -, -, unheeding⟩ := fired.each id s resolved.found
    refine ⟨(resolved.seated.onward.fired fired).seated, ?_, fun e waits => ?_⟩
    · rw [there, unheeding (resolved.silent _)]
    · exact resolved.silent e (fired.waited waits)
  relax := by
    intro t t' resolved waiting sections stamp
    refine ⟨(resolved.seated.onward.relax waiting sections stamp).seated, ?_, fun e waits => ?_⟩
    · rw [sections]
      exact resolved.found
    · exact resolved.silent e ((waiting e).subset waits)
  add := by
    intro t t' s' awaited resolved agenda sections stamp created
    have inside : id < t.sections.size := (Array.getElem?_eq_some_iff.1 resolved.found).1
    have onward := resolved.seated.onward.add agenda sections stamp created
    refine ⟨onward.seated, ?_, fun e waits => ?_⟩
    · rw [Array.getElem?_push, sections, if_neg inside.ne]
      exact resolved.found
    · rw [Agenda.waiting_scheduleAll created.nodup, agenda, sections] at waits
      rcases List.mem_append.1 waits with old | new
      · exact resolved.silent e old
      · split at new
        · exact inside.ne (List.mem_singleton.1 new)
        · cases new

/-- **A driver cannot change a section that waits for nothing**, as long as nothing is forgotten. -/
theorem Resolved.foldl_after (resolved : Resolved id s t) (chain : Chain)
    {later : List Operation} (remembers : .startConflation ∉ later) :
    Resolved id s (later.foldl (after chain) t) :=
  (resolved_keeps chain (fun _ => True) id s).foldl_after remembers resolved

/-- **The end of a transaction leaves nobody waiting.** -/
theorem waiting_of_endTransaction {chain : Chain} {world : WorldState}
    {outcome : TransactionOutcome} (ended : endTransaction chain world outcome t = .ok () t')
    (e : Event) : t'.agenda.waiting e = [] := by
  have cleared : Ends (endTransaction chain world outcome t)
      (fun _ t' => ∀ e, t'.agenda.waiting e = []) fun _ _ => True := by
    have any : ∀ {α : Type} (r : EStateM.Result Violation Tracer α),
        Ends r (fun _ _ => True) fun _ _ => True := by
      intro α r
      cases r <;> trivial
    unfold endTransaction
    refine Ends.bind (any _) fun _ t _ => Ends.bind (any _) fun _ t _ => ?_
    refine Ends.bind (any _) fun _ t _ => ?_
    exact Agenda.waiting_empty
  rw [ended] at cleared
  exact cleared e

/-- **Resolved sections are frozen.** Whatever a driver has announced, accepted or refused, the
agenda only lists sections that are there, and no announcement fails for want of a section.  A
section that waits for nothing is the same section, and waits for nothing, after any further
announcements.  Every section is in this state once a transaction has been ended. -/
theorem drive_sections_frozen (chain : Chain) (operations : List Operation) :
    let t := drive chain operations
    (∀ entry ∈ t.agenda.entries, entry.2 < t.sections.size) ∧
      (∀ (operation : Operation) (v : Violation) (t' : Tracer),
        operation.announce chain t = .error v t' → ∀ id, v ≠ .unknownSection id) ∧
      (∀ later : List Operation, .startConflation ∉ later →
        ∀ (id : Nat) (s : Section), t.sections[id]? = some s → t.isResolved id = true →
          (drive chain (operations ++ later)).isResolved id = true ∧
            (drive chain (operations ++ later)).sections[id]? = some s) ∧
      ∀ (world : WorldState) (outcome : TransactionOutcome) (t' : Tracer),
        endTransaction chain world outcome t = .ok () t' →
          ∀ (id : Nat) (s : Section), t'.sections[id]? = some s → t'.isResolved id = true ∧
            ∀ later : List Operation, .startConflation ∉ later →
              (later.foldl (after chain) t').isResolved id = true ∧
                (later.foldl (after chain) t').sections[id]? = some s := by
  intro t
  have seated : t.Seated := seated_drive chain operations
  have frozen : ∀ {t : Tracer} {id : Nat} {s : Section}, Resolved id s t →
      ∀ later : List Operation, .startConflation ∉ later →
        (later.foldl (after chain) t).isResolved id = true ∧
          (later.foldl (after chain) t).sections[id]? = some s := by
    intro t id s resolved later remembers
    have resolved := resolved.foldl_after chain remembers
    exact ⟨isResolved_iff.2 resolved.silent, resolved.found⟩
  refine ⟨?_, ?_, ?_, ?_⟩
  · exact fun entry listed => seated.inside _ _ (Agenda.mem_entries.1 listed)
  · rintro operation v t' refused id rfl
    by_cases forgets : operation = .startConflation
    · subst forgets
      cases refused
    · have settles := (onward_keeps chain operation.Raises t).announce forgets seated.onward
      exact settles.error refused trivial
  · intro later remembers id s found resolved
    rw [drive_append]
    exact frozen ⟨seated, found, isResolved_iff.1 resolved⟩ later remembers
  · intro world outcome t' ended id s found
    have silent : ∀ e, id ∉ t'.agenda.waiting e := fun e => by
      simp [waiting_of_endTransaction ended e]
    have left : t.after chain (.endTransaction world outcome) = t' := after_of_ok ended
    have seated' : t'.Seated := left ▸ seated.after chain _
    exact ⟨isResolved_iff.2 silent, frozen ⟨seated', found, silent⟩⟩

/-- A call that fails for want of stack items is frozen at once, while the section of its
transaction still waits; the end of the transaction freezes that one too. -/
theorem underflowing_call_frozen :
    let world := WorldState.ofList [(Script.sender, { balance := Script.gwei 1000000000 }),
      (0xc0de, { code := [0x00] })]
    let tx := Script.messageCall Script.sender 0xc0de 1
    let underflow := (Invocation.make .call 0xbeef 0).withExceptions .stackUnderflow
    let operations : List Operation := [.beginTransaction world tx, .enterContext {},
      .announceCall world underflow]
    let later : List Operation := [.exitContext world (.succeeded []), .reEnterContext world 2]
    let t := drive .ethereum operations
    t.isResolved 0 = false ∧
      (∃ s, t.sections[1]? = some s ∧
        (drive .ethereum (operations ++ later)).sections[1]? = some s) ∧
      (∃ v t', (Operation.reEnterContext world 2).announce .ethereum t = .error v t' ∧
        v ≠ .unknownSection 1) ∧
      ∃ s t', endTransaction .ethereum world { success := true, gasUsed := 21000 } t = .ok () t' ∧
        t'.sections[0]? = some s ∧ t'.isResolved 0 = true ∧
          (later.foldl (after .ethereum) t').sections[0]? = some s := by
  intro world tx underflow operations later t
  have waits : t.isResolved 0 = false := by decide +kernel
  have there : (t.sections[1]?.isSome && t.isResolved 1) = true := by decide +kernel
  have refuses : (Operation.reEnterContext world 2).isAccepted .ethereum t = false := by
    decide +kernel
  have ends : (Operation.endTransaction world { success := true, gasUsed := 21000 }).isAccepted
      .ethereum t = true := by decide +kernel
  have kept : ((t.after .ethereum (.endTransaction world { success := true, gasUsed := 21000
      })).sections[0]?).isSome = true := by decide +kernel
  obtain ⟨found, resolved⟩ := Bool.and_eq_true_iff.1 there
  obtain ⟨s, found⟩ := Option.isSome_iff_exists.1 found
  obtain ⟨v, t₁, refused⟩ := Operation.announce_of_refused refuses
  obtain ⟨t₂, ended⟩ := Operation.announce_of_isAccepted ends
  rw [after_of_ok ended] at kept
  obtain ⟨s', found'⟩ := Option.isSome_iff_exists.1 kept
  have remembers : .startConflation ∉ later := by simp [later]
  obtain ⟨-, present, frozen, freezes⟩ := drive_sections_frozen .ethereum operations
  refine ⟨waits, ⟨s, found, ?_⟩, ⟨v, t₁, refused, present _ v t₁ refused 1⟩, ?_⟩
  · exact (frozen later remembers 1 s found resolved).2
  · obtain ⟨resolved', frozen'⟩ := freezes _ _ t₂ ended 0 s' found'
    exact ⟨s', t₂, ended, found', resolved', (frozen' later remembers).2⟩

end Tracer

end ExecutionTrace
