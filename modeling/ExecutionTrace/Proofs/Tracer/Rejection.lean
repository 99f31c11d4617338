import ExecutionTrace.Machine.Script
import ExecutionTrace.Proofs.Context.Reversion
import ExecutionTrace.Proofs.Tracer.Driving

/-!
# Rejected announcements

A driver may go on after an announcement has been rejected.  What it finds then is what it had
before: a section that cannot be built leaves nothing behind but its stamp, and an announcement that
comes at the wrong time leaves nothing behind at all.

## Main Definitions

* `Tracer.Returned` — the child that control can be back from, and how it ended
* `Tracer.Untimely` — the announcements that come at the wrong time
* `Tracer.Untimely.rejected` — they are rejected, and change nothing
* `Tracer.announceCall_rejected`, `Tracer.beginTransaction_rejected` — what a section leaves behind
  that cannot be built
* `Tracer.drive_rejections_harmless` — all of this for any driver

## Design Notes

That a section that cannot be built has changed nothing is proved of its construction, which makes
its checks one after the other and changes the table of incarnations and the agenda in between.

An announcement that is not untimely may still fail, when a section that waits for it reacts.  That
is another matter: the event has happened, and the sections that have reacted keep what they have
added.
-/

namespace ExecutionTrace

/-- Looking up a context finds its frame, or fails. -/
theorem ContextTree.get_grants {contexts : ContextTree} {id : Nat} {E : Violation → Prop}
    (failed : E (.unknownContext id)) :
    Grants (contexts.get id) (fun f => contexts.frame? id = some f) E := by
  unfold get
  cases found : contexts.frame? id with
  | none => exact failed
  | some f => exact rfl

namespace Tracer

/-! ## Announcements at the wrong time -/

/-- **Control can be back in the current context**, whose last child has ended. -/
structure Returned (t : Tracer) (frame child : Frame) (outcome : ContextOutcome) : Prop where
  current : ∃ c, t.contexts.current? = some c ∧ t.contexts.frame? c = some frame
  last : ∃ d, frame.lastChild? = some d ∧ t.contexts.frame? d = some child
  ended : child.outcome? = some outcome

/-- **An announcement that comes at the wrong time.** -/
inductive Untimely (t : Tracer) : Operation → Prop
  | enterOutside (entry : ContextEntry) (outside : t.transaction? = none) :
      Untimely t (.enterContext entry)
  | endOutside (world : WorldState) (outcome : TransactionOutcome)
      (outside : t.transaction? = none) : Untimely t (.endTransaction world outcome)
  | exitNowhere (world : WorldState) (outcome : ContextOutcome)
      (nowhere : t.contexts.current? = none) : Untimely t (.exitContext world outcome)
  | rollBackUnknown (world : WorldState) {c : Nat} (unknown : t.contexts.frame? c = none) :
      Untimely t (.rollBack world c)
  | rollBackRunning (world : WorldState) {c : Nat} {f : Frame}
      (found : t.contexts.frame? c = some f) (running : f.outcome? = none) :
      Untimely t (.rollBack world c)
  | rollBackSuccessful (world : WorldState) {c : Nat} {f : Frame} {outcome : ContextOutcome}
      (found : t.contexts.frame? c = some f) (ended : f.outcome? = some outcome)
      (success : outcome.success = true) : Untimely t (.rollBack world c)
  | reEnterNowhere (world : WorldState) (top : Word) (nowhere : t.contexts.current? = none) :
      Untimely t (.reEnterContext world top)
  | reEnterUnreturned (world : WorldState) (top : Word)
      (unreturned : ∀ frame child outcome, ¬t.Returned frame child outcome) :
      Untimely t (.reEnterContext world top)
  | reEnterWithoutBit (world : WorldState) {top : Word} (noZero : top ≠ 0) (noOne : top ≠ 1) :
      Untimely t (.reEnterContext world top)
  | reEnterMismatched (world : WorldState) {top : Word} {frame child : Frame}
      {outcome : ContextOutcome} (returned : t.Returned frame child outcome)
      (mismatch : top ≠ Word.ofBool outcome.success) : Untimely t (.reEnterContext world top)

variable {t : Tracer} {chain : Chain} {world : WorldState}

/-- The child that control can be back from is unique. -/
theorem Returned.unique {frame frame' child child' : Frame} {outcome outcome' : ContextOutcome}
    (returned : t.Returned frame child outcome) (returned' : t.Returned frame' child' outcome') :
    frame = frame' ∧ child = child' ∧ outcome = outcome' := by
  obtain ⟨⟨c, current, found⟩, ⟨d, last, there⟩, ended⟩ := returned
  obtain ⟨⟨c', current', found'⟩, ⟨d', last', there'⟩, ended'⟩ := returned'
  obtain rfl := Option.some.inj (current.symm.trans current')
  obtain rfl := Option.some.inj (found.symm.trans found')
  obtain rfl := Option.some.inj (last.symm.trans last')
  obtain rfl := Option.some.inj (there.symm.trans there')
  exact ⟨rfl, rfl, Option.some.inj (ended.symm.trans ended')⟩

/-! ### Rejected without a change -/

/-- **An announcement is rejected**, and changes nothing. -/
def Rejects {α : Type} (r : EStateM.Result Violation Tracer α) (t : Tracer) : Prop :=
  Ends r (fun _ _ => False) fun _ t' => t' = t

theorem Rejects.exists_error {α : Type} {r : EStateM.Result Violation Tracer α}
    (rejects : Rejects r t) : ∃ v, r = .error v t := by
  cases r with
  | ok a t' => exact rejects.elim
  | error v t' =>
      obtain rfl : t' = t := rejects
      exact ⟨v, rfl⟩

/-- A function without state that fails ends an announcement. -/
theorem rejects_ofExcept {α β : Type} {r : Except Violation α} {rest : α → Announcement β}
    (failed : Grants r (fun _ => False) fun _ => True) :
    Rejects ((MonadExcept.ofExcept r >>= rest) t) t :=
  Ends.ofExcept_bind (failed.mono (fun _ h => h) fun _ _ => rfl) fun _ h => h.elim

theorem rejects_requireTransaction {α : Type} {rest : Unit → Announcement α}
    (outside : t.transaction? = none) : Rejects ((requireTransaction >>= rest) t) t := by
  refine Ends.bind ((requireTransaction_ends t).mono (fun _ _ h => h) fun _ _ h => h.1) ?_
  rintro _ _ ⟨-, inside⟩
  rw [outside] at inside
  cases inside

theorem currentFrame_of_nowhere (nowhere : t.contexts.current? = none) :
    Grants t.contexts.currentFrame (fun _ => False) fun _ => True := by
  rw [ContextTree.currentFrame, nowhere]
  trivial

/-- **Only a context that has failed can be rolled back.** -/
theorem rollBack_rejects {context : Nat} (unfailed : t.contexts.hasFailed context = false) :
    Rejects (rollBack chain world context t) t := by
  unfold rollBack
  refine Ends.get_bind (Ends.ofExcept_bind (ContextTree.get_grants rfl) fun frame found => ?_)
  have own : frame.hasFailed = false := by simpa [ContextTree.hasFailed, found] using unfailed
  dsimp only
  rw [own, if_neg Bool.false_ne_true]
  exact rfl

/-- What control is back from, as the announcement looks it up. -/
theorem lookUp_returned {α : Type} {rest : Frame → Frame × ContextOutcome → Announcement α}
    {Q : α → Tracer → Prop} {P : Violation → Tracer → Prop} (failed : ∀ v, P v t)
    (found : ∀ frame child outcome, t.Returned frame child outcome →
      Ends (rest frame (child, outcome) t) Q P) :
    Ends ((do
      let frame ← MonadExcept.ofExcept t.contexts.currentFrame
      let returned ← MonadExcept.ofExcept (returnedChild t.contexts frame)
      rest frame returned) t) Q P := by
  refine Ends.ofExcept_bind (A := fun frame => ∃ c, t.contexts.current? = some c ∧
    t.contexts.frame? c = some frame) ?_ fun frame current => ?_
  · unfold ContextTree.currentFrame
    cases current : t.contexts.current? with
    | none => exact failed _
    | some c =>
        exact (ContextTree.get_grants (failed _)).mono (fun _ found => ⟨c, rfl, found⟩) fun _ h => h
  · refine Ends.ofExcept_bind (A := fun r => t.Returned frame r.1 r.2) ?_ fun r returned => ?_
    · unfold returnedChild
      cases last : frame.lastChild? with
      | none => exact failed _
      | some d =>
          refine (ContextTree.get_grants (failed _)).bind fun child there => ?_
          cases ended : child.outcome? with
          | none => exact failed _
          | some outcome => exact ⟨current, ⟨d, last, there⟩, ended⟩
    · exact found frame r.1 r.2 returned

/-- **A re-entry is rejected** unless the word on the stack tells how the last child has ended. -/
theorem reEnterContext_rejects {top : Word}
    (wrong : ∀ frame child outcome, t.Returned frame child outcome →
      top ≠ Word.ofBool outcome.success) : Rejects (reEnterContext chain world top t) t := by
  unfold reEnterContext
  refine Ends.ofExcept_bind (A := fun bit => top = Word.ofBool bit) ?_ fun bit told => ?_
  · unfold successBit
    split
    · assumption
    split
    · assumption
    · exact rfl
  · refine Ends.get_bind (lookUp_returned (fun _ => rfl) fun frame child outcome returned => ?_)
    have disagrees : (outcome.success != bit) = true := by
      rw [bne_iff_ne]
      rintro rfl
      exact wrong frame child outcome returned told
    dsimp only
    rw [if_pos disagrees]
    exact rfl

/-- **Whatever comes at the wrong time is rejected**, and changes nothing. -/
theorem Untimely.rejected {operation : Operation} (untimely : t.Untimely operation)
    (chain : Chain) : ∃ v, operation.announce chain t = .error v t := by
  refine Rejects.exists_error ?_
  have discarded : ∀ {α : Type} {x : Announcement α}, Rejects (x t) t →
      Rejects (discard x t) t := fun h =>
    Ends.discard (Ends.mono h (fun _ _ h => h) fun _ _ h => h)
  have unfailed : ∀ {c : Nat}, (∀ f, t.contexts.frame? c = some f → f.hasFailed = false) →
      t.contexts.hasFailed c = false := fun {c} each => by
    unfold ContextTree.hasFailed
    cases found : t.contexts.frame? c with
    | none => rfl
    | some f => exact each f found
  cases untimely with
  | enterOutside entry outside => exact discarded (rejects_requireTransaction outside)
  | endOutside world outcome outside => exact rejects_requireTransaction outside
  | exitNowhere world outcome nowhere =>
      exact discarded (Ends.get_bind (rejects_ofExcept (currentFrame_of_nowhere nowhere)))
  | rollBackUnknown world unknown =>
      refine rollBack_rejects (unfailed fun f found => ?_)
      rw [unknown] at found
      cases found
  | rollBackRunning world found running =>
      refine rollBack_rejects (unfailed fun g there => ?_)
      obtain rfl := Option.some.inj (found.symm.trans there)
      rw [Frame.hasFailed, running]
      rfl
  | rollBackSuccessful world found ended success =>
      refine rollBack_rejects (unfailed fun g there => ?_)
      obtain rfl := Option.some.inj (found.symm.trans there)
      simp [Frame.hasFailed, ended, success]
  | reEnterNowhere world top nowhere =>
      refine reEnterContext_rejects fun frame child outcome returned => ?_
      obtain ⟨c, current, -⟩ := returned.current
      rw [nowhere] at current
      cases current
  | reEnterUnreturned world top unreturned =>
      exact reEnterContext_rejects fun frame child outcome returned =>
        (unreturned frame child outcome returned).elim
  | reEnterWithoutBit world noZero noOne =>
      refine reEnterContext_rejects fun frame child outcome _ => ?_
      cases outcome.success
      · exact noZero
      · exact noOne
  | reEnterMismatched world returned mismatch =>
      refine reEnterContext_rejects fun frame child outcome returned' => ?_
      obtain ⟨-, -, rfl⟩ := returned.unique returned'
      exact mismatch

/-! ### The right re-entry -/

/-- **A re-entry that tells how the last child has ended** is handed to the sections. -/
theorem reEnterContext_of_returned {frame child : Frame} {outcome : ContextOutcome}
    (returned : t.Returned frame child outcome) :
    reEnterContext chain world (Word.ofBool outcome.success) t =
      fire chain (.contextReEntry world frame.id child outcome) t := by
  obtain ⟨⟨c, current, found⟩, ⟨d, last, there⟩, ended⟩ := returned
  exact Tracing.reEnterContext_eq (ContextTree.currentFrame_eq_ok current found)
    (Tracing.returnedChild_eq_ok last there ended)

/-- Sections that have all reacted are what their reactions have made of them, and the others are
what they were. -/
theorem reactAll_ok {reaction : EStateM Violation Section Unit} :
    ∀ {ids : List Nat} {sections sections' : Array Section}, ids.Nodup →
      reactAll reaction ids sections = .ok () sections' →
      (∀ id ∈ ids, ∃ s s', sections[id]? = some s ∧ reaction s = .ok () s' ∧
        sections'[id]? = some s') ∧
      ∀ id, id ∉ ids → sections'[id]? = sections[id]? := by
  intro ids
  induction ids with
  | nil =>
      intro sections sections' _ reacted
      cases reacted
      exact ⟨nofun, fun _ _ => rfl⟩
  | cons id ids ih =>
      intro sections sections' nodup reacted
      obtain ⟨fresh, nodup⟩ := List.nodup_cons.1 nodup
      unfold reactAll at reacted
      split at reacted
      · rename_i inside
        split at reacted
        · rename_i s' made
          obtain ⟨rest, others⟩ := ih nodup reacted
          refine ⟨fun other listed => ?_, fun other outside => ?_⟩
          · rcases List.mem_cons.1 listed with rfl | later
            · refine ⟨_, s', Array.getElem?_eq_getElem inside, made, ?_⟩
              rw [others other fresh]
              simp [inside]
            · obtain ⟨s, s'', found, made', there⟩ := rest other later
              have distinct : id ≠ other := fun same => fresh (same ▸ later)
              rw [Array.getElem?_set_ne inside distinct] at found
              exact ⟨s, s'', found, made', there⟩
          · obtain ⟨distinct, outside⟩ := not_or.1 (List.mem_cons.not.1 outside)
            rw [others other outside, Array.getElem?_set_ne inside (Ne.symm distinct)]
        · cases reacted
      · cases reacted

/-- **An occurrence that all waiting sections could react to** has reached each of them. -/
theorem fire_ok {occurrence : Occurrence} {t' : Tracer}
    (nodup : (t.agenda.waiting occurrence.event).Nodup)
    (fired : fire chain occurrence t = .ok () t') :
    ∀ id ∈ t.agenda.waiting occurrence.event, ∃ s s', t.sections[id]? = some s ∧
      Section.react chain t.toSetting occurrence s = .ok () s' ∧ t'.sections[id]? = some s' := by
  rw [← Agenda.take_fst] at nodup ⊢
  unfold fire at fired
  dsimp only at fired
  split at fired
  · rename_i sections reacted
    obtain rfl : _ = t' := (EStateM.Result.ok.inj fired).2
    exact (reactAll_ok nodup reacted).1
  · cases fired

/-! ## Sections that cannot be built -/

/-- **A rejected call** leaves nothing behind but its stamp, if it has got one. -/
theorem announceCall_rejected {i : Invocation} {v : Violation} {t' : Tracer}
    (rejected : (Operation.announceCall world i).announce chain t = .error v t') :
    t' = { t with stamp := t.stamp + if t.transaction?.isSome then 1 else 0 } := by
  have left : Ends ((Operation.announceCall world i).announce chain t) (fun _ _ => True)
      fun _ t' => t' = { t with stamp := t.stamp + if t.transaction?.isSome then 1 else 0 } :=
    Ends.discard ((announceCall_ends t chain world i).mono (fun _ _ _ => trivial) fun _ _ h => h.2)
  exact left.error rejected

/-- **A rejected transaction** leaves the sections as they are, who waits for what, and the table of
deployments. -/
theorem beginTransaction_rejected {tx : Transaction} {v : Violation} {t' : Tracer}
    (rejected : (Operation.beginTransaction world tx).announce chain t = .error v t') :
    t' = { t with stamp := t.stamp + 1, contexts := {}, transaction? := some tx } := by
  have left : Ends ((Operation.beginTransaction world tx).announce chain t) (fun _ _ => True)
      fun _ t' => t' = { t with stamp := t.stamp + 1, contexts := {}, transaction? := some tx } :=
    Ends.discard ((beginTransaction_ends t chain world tx).mono (fun _ _ _ => trivial)
      fun _ _ h => h.2)
  exact left.error rejected

/-! ## Any driver -/

/-- **Rejected announcements do no harm.** Whatever a driver has announced, accepted or rejected: a
call that is rejected changes nothing but the stamp, and not even that outside of a transaction; a
transaction that is rejected changes no section, nobody waits for anything else, and no address has
got another deployment number, status or init code; and whatever comes at the wrong time is rejected
and changes nothing.  In particular the right re-entry after a rejected one is handed to the very
sections that waited before, and all of them react to it unless one of them fails. -/
theorem drive_rejections_harmless (chain : Chain) (operations : List Operation) :
    let t := drive chain operations
    (∀ world i v t', (Operation.announceCall world i).announce chain t = .error v t' →
      t' = { t with stamp := t.stamp + if t.transaction?.isSome then 1 else 0 }) ∧
    (∀ world tx v t', (Operation.beginTransaction world tx).announce chain t = .error v t' →
      t'.sections = t.sections ∧ t'.agenda = t.agenda ∧
        ∀ a, t'.incarnations.number a = t.incarnations.number a ∧
          t'.incarnations.isDeploying a = t.incarnations.isDeploying a ∧
          t'.incarnations.initCode? a = t.incarnations.initCode? a) ∧
    (∀ operation, t.Untimely operation → ∃ v, operation.announce chain t = .error v t) ∧
    ∀ world top v t', t.Untimely (.reEnterContext world top) →
      (Operation.reEnterContext world top).announce chain t = .error v t' →
      ∀ frame child outcome, t.Returned frame child outcome → ∀ world',
        let right := reEnterContext chain world' (Word.ofBool outcome.success) t'
        right = fire chain (.contextReEntry world' frame.id child outcome) t ∧
          ∀ t'', right = .ok () t'' → ∀ id ∈ t.agenda.waiting (.contextReEntry frame.id),
            ∃ s s', t.sections[id]? = some s ∧
              Section.react chain t.toSetting (.contextReEntry world' frame.id child outcome) s =
                .ok () s' ∧ t''.sections[id]? = some s' := by
  intro t
  have seated : t.Seated := seated_drive chain operations
  refine ⟨?_, ?_, fun operation untimely => untimely.rejected chain, ?_⟩
  · exact fun world i v t' rejected => announceCall_rejected rejected
  · intro world tx v t' rejected
    obtain rfl := beginTransaction_rejected rejected
    exact ⟨rfl, rfl, fun _ => ⟨rfl, rfl, rfl⟩⟩
  · intro world top v t' untimely rejected frame child outcome returned world'
    obtain ⟨v', rejected'⟩ := untimely.rejected chain
    obtain rfl : t = t' := (EStateM.Result.error.inj (rejected'.symm.trans rejected)).2
    have fires : reEnterContext chain world' (Word.ofBool outcome.success) t =
        fire chain (.contextReEntry world' frame.id child outcome) t :=
      reEnterContext_of_returned returned
    refine ⟨fires, fun t'' accepted => ?_⟩
    exact fire_ok (seated.nodup _) (fires.symm.trans accepted)

/-- A child has ended, and its caller waits for control to be back.  A call whose abort was not
foreseen, a transaction that nobody can pay for, the rollback of a context that runs, and a re-entry
without a success bit are rejected.  The right re-entry then reaches the call. -/
theorem rejections_harmless_before_re_entry :
    let world := WorldState.ofList [(Script.sender, { balance := Script.gwei 1000000000 }),
      (0xc0de, { code := [0x00] })]
    let t := drive .ethereum [.beginTransaction world (Script.messageCall Script.sender 0xc0de 1),
      .enterContext {}, .announceCall world (.make .call 0xc0de 0), .enterContext {},
      .exitContext world (.succeeded [])]
    let unforeseen := (Invocation.make .call 0xbeef 0).withAborts .insufficientBalance
    let unpaid := Script.messageCall 0xbeef 0xc0de 1
    (∃ v t', (Operation.announceCall world unforeseen).announce .ethereum t = .error v t' ∧
      t' = { t with stamp := t.stamp + if t.transaction?.isSome then 1 else 0 }) ∧
    (∃ v t', (Operation.beginTransaction world unpaid).announce .ethereum t = .error v t' ∧
      t'.sections = t.sections ∧ t'.agenda = t.agenda ∧
        t'.incarnations.number 0xc0de = t.incarnations.number 0xc0de) ∧
    (∃ v, (Operation.rollBack world 1).announce .ethereum t = .error v t) ∧
    ∃ v t' t'', (Operation.reEnterContext world 2).announce .ethereum t = .error v t' ∧
      reEnterContext .ethereum world 1 t' = .ok () t'' ∧
        ∃ occurrence s s', t.sections[1]? = some s ∧
          Section.react .ethereum t.toSetting occurrence s = .ok () s' ∧
            t''.sections[1]? = some s' := by
  intro world t unforeseen unpaid
  have call : (Operation.announceCall world unforeseen).isAccepted .ethereum t = false := by
    decide +kernel
  have transaction : (Operation.beginTransaction world unpaid).isAccepted .ethereum t = false := by
    decide +kernel
  have right : (Operation.reEnterContext world 1).isAccepted .ethereum t = true := by decide +kernel
  have waits : 1 ∈ t.agenda.waiting (.contextReEntry 1) := by decide +kernel
  have known : ((t.contexts.frame? 1).isSome && (t.contexts.frame? 2).isSome) = true := by
    decide +kernel
  obtain ⟨one, two⟩ := Bool.and_eq_true_iff.1 known
  obtain ⟨frame, found⟩ := Option.isSome_iff_exists.1 one
  obtain ⟨child, found'⟩ := Option.isSome_iff_exists.1 two
  have last : (t.contexts.frame? 1).bind (·.lastChild?) = some 2 := by decide +kernel
  have ended : (t.contexts.frame? 2).bind (·.outcome?) = some (.succeeded []) := by decide +kernel
  have running : (t.contexts.frame? 1).bind (·.outcome?) = none := by decide +kernel
  have number : (t.contexts.frame? 1).map (·.id) = some 1 := by decide +kernel
  rw [found] at last running number
  rw [found'] at ended
  have returned : t.Returned frame child (.succeeded []) :=
    ⟨⟨1, by decide +kernel, found⟩, ⟨2, last, found'⟩, ended⟩
  have first : frame.id = 1 := Option.some.inj number
  obtain ⟨v, t₁, refused⟩ := Operation.announce_of_refused call
  obtain ⟨v', t₂, refused'⟩ := Operation.announce_of_refused transaction
  obtain ⟨calls, transactions, untimely, reEntries⟩ := drive_rejections_harmless .ethereum
    [.beginTransaction world (Script.messageCall Script.sender 0xc0de 1), .enterContext {},
      .announceCall world (.make .call 0xc0de 0), .enterContext {},
      .exitContext world (.succeeded [])]
  have wrong : t.Untimely (.reEnterContext world 2) :=
    .reEnterWithoutBit world (by decide) (by decide)
  obtain ⟨v'', refused''⟩ := untimely _ wrong
  obtain ⟨t₃, accepted⟩ := Operation.announce_of_isAccepted right
  obtain ⟨sections, agenda, table⟩ := transactions world unpaid v' t₂ refused'
  have reaches :=
    (reEntries world 2 v'' t wrong refused'' frame child _ returned world).2 t₃ accepted
  rw [first] at reaches
  exact ⟨⟨v, t₁, refused, calls world unforeseen v t₁ refused⟩,
    ⟨v', t₂, refused', sections, agenda, (table 0xc0de).1⟩,
    untimely _ (.rollBackRunning world found running),
    v'', t, t₃, refused'', accepted, _, reaches 1 waits⟩

end Tracer

end ExecutionTrace
