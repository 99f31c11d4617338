import ExecutionTrace.Proofs.Run.Basic
import ExecutionTrace.Proofs.Run.Begin
import ExecutionTrace.Proofs.Run.Call
import ExecutionTrace.Proofs.Run.Close

/-!
# The steps of a run

What a step that is allowed leads to, by what the machine is like before it, and what it may fail
with.

## Main Definitions

* `Action.Fails` — the faults of a step
* `Idle.carryOut_yields`, `Skipping.carryOut_yields`, `Running.carryOut_yields`,
  `Ended.carryOut_yields` — the steps of each of the four kinds of machines
-/

namespace ExecutionTrace

/-- The steps that nobody can fail to pay for: all but the settlement of a transaction, which may
have to be paid for in full at its end. -/
def Action.IsPrepaid : Action → Prop
  | .settle _ => False
  | _ => True

/-- **The faults of a step**, other than those that its script is to blame for. -/
def Action.Fails (a : Action) (f : Fault) : Prop :=
  (a.Declared → ¬f.IsDisagreement) ∧ (a.IsPrepaid → ¬f.IsCannotPay)

/-! ## Steps without an active context -/

namespace Machine

variable {m : Machine} {chain : Chain}

theorem currentFrame_of_inactive (inactive : m.tracer.contexts.current? = none) :
    m.tracer.contexts.currentFrame = .error .noCurrentContext := by
  rw [ContextTree.currentFrame, inactive]
  rfl

/-- Nothing is called without an active context. -/
theorem call_of_inactive (inactive : m.tracer.contexts.current? = none)
    (transaction : m.tracer.transaction?.isSome) (i : Invocation) :
    Yields (call chain i m) (fun _ _ => False) (fun f => f = .violation .noCurrentContext) := by
  have missing := currentFrame_of_inactive inactive
  have announcing : Yields (Tracer.announceCall chain m.world i m.tracer) (fun _ _ => False)
      (fun v => v = .noCurrentContext) := by
    refine (Tracer.announceCall_constructs (Q := fun _ _ => False)
      (P := fun v _ => v = .noCurrentContext) transaction ?_).mono ?_ ?_
    · unfold CallSection.announce
      refine Ends.get_bind ?_
      refine Ends.ofExcept_bind (A := fun _ => False) ?_ fun _ h => h.elim
      show Grants m.tracer.contexts.currentFrame _ _
      rw [missing]
      exact rfl
    · rintro _ _ ⟨-, _, _, impossible, -⟩
      exact impossible
    · rintro _ _ ⟨_, h, -⟩
      exact h
  unfold call
  split
  · refine Ends.bind_ok rfl ?_
    refine Ends.get_bind ?_
    exact announce_bind announcing (fun _ h => congrArg _ h) fun _ _ h => h.elim
  · refine Ends.bind (Q := fun _ _ => False) ?_ fun _ _ h => h.elim
    unfold abortingConditions currentFrame
    refine Ends.bind (Q := fun _ _ => False) ?_ fun _ _ h => h.elim
    show Yields (ofResult m.tracer.contexts.currentFrame m) _ _
    rw [missing]
    exact rfl

/-- Nothing is finished without an active context. -/
theorem finishContext_of_inactive (inactive : m.tracer.contexts.current? = none)
    (outcome : ContextOutcome) :
    Yields (finishContext chain outcome m) (fun _ _ => False)
      (fun f => f = .violation .noCurrentContext) := by
  have exiting : Yields (Tracer.exitContext chain m.world outcome m.tracer) (fun _ _ => False)
      (fun v => v = .noCurrentContext) := by
    unfold Tracer.exitContext
    refine Ends.get_bind ?_
    refine Ends.ofExcept_bind (A := fun _ => False) ?_ fun _ h => h.elim
    rw [currentFrame_of_inactive inactive]
    exact rfl
  unfold finishContext
  refine Ends.get_bind ?_
  exact announce_bind exiting (fun _ h => congrArg _ h) fun _ _ h => h.elim

end Machine

/-! ## What steps lead to -/

variable {chain : Chain} {m m' : Machine} {a : Action}

/-- A step without an active context, other than the end of the transaction, fails. -/
theorem carryOut_of_inactive {Q : Unit → Machine → Prop}
    (inactive : m.tracer.contexts.current? = none) (transaction : m.tracer.transaction?.isSome)
    (allowed : m.Allows a) (busy : m.transaction?.isSome)
    (settles : ∀ gasUsed, a = .settle gasUsed → Yields (a.carryOut chain m) Q a.Fails) :
    Yields (a.carryOut chain m) Q a.Fails := by
  have plain : ∀ a : Action, ∀ f, f = .violation .noCurrentContext → a.Fails f := by
    rintro a _ rfl
    exact ⟨fun _ h => h, fun _ h => h⟩
  cases a with
  | start tx =>
      rw [show m.transaction? = none from allowed] at busy
      cases busy
  | call i =>
      exact Ends.discard ((Machine.call_of_inactive inactive transaction i).mono
        (fun _ _ h => h.elim) (plain _))
  | finish outcome =>
      exact Ends.discard ((Machine.finishContext_of_inactive inactive outcome).mono
        (fun _ _ h => h.elim) (plain _))
  | settle gasUsed => exact settles gasUsed rfl

/-- **An idle machine** can only start a transaction. -/
theorem Idle.carryOut_yields (idle : Idle m) (allowed : m.Allows a) :
    Yields (a.carryOut chain m) (fun _ m' => ∃ tx, a = .start tx ∧ Idle.Begun chain m tx m')
      a.Fails := by
  cases a with
  | start tx =>
      refine Ends.discard (idle.beginTransaction_yields.mono ?_ ?_)
      · exact fun _ _ begun => ⟨tx, rfl, begun⟩
      · exact fun f h => ⟨fun _ => h.1, fun _ => h.2⟩
  | call i =>
      have busy : m.transaction?.isSome := allowed
      rw [idle.transaction] at busy
      cases busy
  | finish outcome =>
      have busy : m.transaction?.isSome := allowed
      rw [idle.transaction] at busy
      cases busy
  | settle gasUsed =>
      have busy : m.transaction?.isSome := allowed
      rw [idle.transaction] at busy
      cases busy

/-- **A transaction that runs no code** can only end. -/
theorem Skipping.carryOut_yields {tx : Transaction} {older : List Section}
    {settlement : SettlementSection} (skipping : Skipping m tx older settlement)
    (allowed : m.Allows a) :
    Yields (a.carryOut chain m)
      (fun _ m' => ∃ gasUsed, a = .settle gasUsed ∧
        Skipping.Closed chain m tx older settlement gasUsed m')
      a.Fails := by
  refine carryOut_of_inactive skipping.contexts
    (Option.isSome_iff_exists.2 ⟨tx, skipping.tracing⟩) allowed
    (Option.isSome_iff_exists.2 ⟨tx, skipping.transaction⟩) ?_
  rintro gasUsed rfl
  refine (skipping.endTransaction_yields gasUsed).mono (fun _ _ h => ⟨gasUsed, rfl, h⟩) ?_
  exact fun f h => ⟨fun _ => h.not_isDisagreement skipping, nofun⟩

/-- **A transaction that is executing code** makes a call or finishes a context. -/
theorem Running.carryOut_yields {tx : Transaction} {older : List Section} {launch : LaunchSection}
    {l : Level} {outer : List Level} (running : Running m tx older launch l outer)
    (scripted : l.Scripted) (allowed : m.Allows a) :
    Yields (a.carryOut chain m)
      (fun _ m' =>
        (∃ i aborts frame c, a = .call i ∧
          Running.Called chain m tx older launch l outer frame { i with aborts } c m') ∨
        ∃ outcome, a = .finish outcome ∧
          Running.Finished chain m tx older launch outcome l outer m')
      a.Fails := by
  cases a with
  | start tx =>
      have free : m.transaction? = none := allowed
      rw [running.transaction] at free
      cases free
  | call i =>
      refine Ends.discard ((running.call_yields scripted i).mono ?_ ?_)
      · exact fun _ _ ⟨aborts, frame, c, called⟩ => .inl ⟨i, aborts, frame, c, rfl, called⟩
      · exact fun f h => ⟨h.2, fun _ => h.1⟩
  | finish outcome =>
      refine Ends.discard ((running.finishContext_yields ?_).mono ?_ fun _ h => h)
      · intro c spawned external
        rw [scripted c spawned] at external
        cases external
      · exact fun _ _ finished => .inr ⟨outcome, rfl, finished⟩
  | settle gasUsed =>
      refine (running.endTransaction_yields gasUsed).mono (fun _ _ h => h.elim) ?_
      rintro _ rfl
      exact ⟨fun _ h => h, nofun⟩

/-- **A transaction whose root context has been finished** can only end. -/
theorem Ended.carryOut_yields {tx : Transaction} {older : List Section} {launch : LaunchSection}
    {calls : List CallSection} {outcome : ContextOutcome}
    (ended : Ended m tx older launch calls outcome) (allowed : m.Allows a) :
    Yields (a.carryOut chain m)
      (fun _ m' => ∃ gasUsed revertStamp, a = .settle gasUsed ∧
        Ended.Closed m tx older launch calls outcome gasUsed revertStamp m')
      a.Fails := by
  refine carryOut_of_inactive ended.current
    (Option.isSome_iff_exists.2 ⟨tx, ended.traced⟩) allowed
    (Option.isSome_iff_exists.2 ⟨tx, ended.transaction⟩) ?_
  rintro gasUsed rfl
  refine (ended.endTransaction_yields gasUsed).mono ?_ fun _ h => h
  exact fun _ _ ⟨revertStamp, closed⟩ => ⟨gasUsed, revertStamp, rfl, closed⟩

end ExecutionTrace
