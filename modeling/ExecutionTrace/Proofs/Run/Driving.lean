import ExecutionTrace.Proofs.Run.Basic
import ExecutionTrace.Proofs.Tracer.Driving

/-!
# The machine as a driver

The scripted machine is one of the drivers that a tracer may have.  So what holds under any driver
holds in every run: the sections stay seated, and keep their stamps while others are added.

## Main Definitions

* `Machine.Drives` — a machine that is further on than a given one
* `Machine.Silent` — a part of a step of which the tracer is told nothing
* `Action.carryOut_drives` — a step of a script takes the tracer further
* `Reachable.seated`, `Later.onward` — the sections of a run are seated, and keep their stamps

## Design Notes

A step is a sequence of announcements with silent parts in between, whatever the machine computes
for them.  So nothing has to be known of a run, and a step may as well fail.
-/

namespace ExecutionTrace

variable {chain : Chain} {m m' start : Machine}

namespace Machine

/-- **A machine that is further on** than a given one: its tracer is, and precompiles still end as
they did. -/
def Drives (start m : Machine) : Prop :=
  start.tracer.Onward m.tracer ∧ m.precompileOutcomes = start.precompileOutcomes

/-- A part of a step of which the tracer is told nothing, and after which precompiles still end as
they did. -/
def Silent {α : Type} (x : Step α) : Prop :=
  ∀ m, Leaves (x m) fun m' =>
    m'.tracer = m.tracer ∧ m'.precompileOutcomes = m.precompileOutcomes

namespace Drives

variable {α β : Type}

/-- A step that starts with an announcement. -/
theorem announce_bind {announcement : Announcement α} {rest : α → Step β} {E : Violation → Prop}
    (drives : start.Drives m)
    (announced : start.tracer.Onward m.tracer →
      Settles (announcement m.tracer) start.tracer.Onward E)
    (leaves : ∀ a m', start.Drives m' → Leaves (rest a m') (Drives start)) :
    Leaves ((announce announcement >>= rest) m) (Drives start) := by
  have announced := announced drives.1
  refine Ends.bind (Q := fun _ => Drives start) ?_ leaves
  unfold announce
  cases result : announcement m.tracer with
  | ok a t =>
      rw [result] at announced
      exact ⟨announced, drives.2⟩
  | error v t =>
      rw [result] at announced
      exact ⟨announced.2, drives.2⟩

/-- A step that starts by doing something of which the tracer is told nothing. -/
theorem silent_bind {x : Step α} {rest : α → Step β} (drives : start.Drives m) (silent : Silent x)
    (leaves : ∀ a m', start.Drives m' → Leaves (rest a m') (Drives start)) :
    Leaves ((x >>= rest) m) (Drives start) := by
  refine Ends.bind ((silent m).mono fun m' same => ?_) leaves
  obtain ⟨tracer, outcomes⟩ := same
  exact ⟨tracer ▸ drives.1, outcomes.trans drives.2⟩

end Drives

/-! ## Silent parts -/

namespace Silent

variable {α β : Type}

theorem bind {x : Step α} {rest : α → Step β} (silent : Silent x) (silent' : ∀ a, Silent (rest a)) :
    Silent (x >>= rest) := fun m =>
  Ends.bind (silent m) fun a m' same => (silent' a m').mono fun _ same' =>
    ⟨same'.1.trans same.1, same'.2.trans same.2⟩

theorem get_bind {rest : Machine → Step β} (silent : ∀ m, Silent (rest m)) :
    Silent (MonadState.get >>= rest) := fun m => silent m m

theorem modifyWorld (change : WorldState → WorldState) : Silent (Machine.modifyWorld change) :=
  fun _ => ⟨rfl, rfl⟩

theorem debit (a : Address) (amount : Word) : Silent (Machine.debit a amount) := by
  unfold Machine.debit
  refine get_bind fun m => ?_
  dsimp only
  cases m.world.debit? a amount with
  | some debited => exact fun _ => ⟨rfl, rfl⟩
  | none => exact fun _ => ⟨rfl, rfl⟩

theorem ofResult (r : Except Violation α) : Silent (Machine.ofResult r) := by
  cases r with
  | ok a => exact fun _ => ⟨rfl, rfl⟩
  | error v => exact fun _ => ⟨rfl, rfl⟩

theorem currentFrame : Silent Machine.currentFrame :=
  get_bind fun _ => .ofResult _

theorem pushCheckpoint : Silent Machine.pushCheckpoint :=
  fun _ => ⟨rfl, rfl⟩

theorem popCheckpoint : Silent Machine.popCheckpoint := by
  refine get_bind fun m => ?_
  cases m.checkpoints with
  | nil => exact fun _ => ⟨rfl, rfl⟩
  | cons checkpoint rest => exact fun _ => ⟨rfl, rfl⟩

theorem abortingConditions (i : Invocation) : Silent (Machine.abortingConditions i) :=
  currentFrame.bind fun _ => get_bind fun _ => (ofResult _).bind fun _ _ => ⟨rfl, rfl⟩

theorem settle (tx : Transaction) (gasUsed : UInt64) : Silent (Machine.settle tx gasUsed) := by
  unfold Machine.settle
  refine (debit _ _).bind fun _ => (modifyWorld _).bind fun _ => ?_
  refine Silent.bind (modifyWorld _) fun _ => ?_
  split
  · exact modifyWorld _
  · exact fun _ => ⟨rfl, rfl⟩

theorem refund (tx : Transaction) (gasUsed : UInt64) : Silent (Machine.refund tx gasUsed) := by
  unfold Machine.refund
  refine get_bind fun _ => (ofResult _).bind fun root => ?_
  cases root.outcome? with
  | none => exact fun _ => ⟨rfl, rfl⟩
  | some outcome => exact fun _ => ⟨rfl, rfl⟩

end Silent

/-! ## The steps -/

theorem beginTransaction_drives (drives : start.Drives m) (tx : Transaction) :
    Leaves (beginTransaction chain tx m) (Drives start) := by
  unfold beginTransaction
  refine Ends.get_bind (Drives.announce_bind drives (Tracer.onward_keeps ..).beginTransaction ?_)
  intro id m drives
  refine Ends.get_bind (Ends.modify_bind ?_)
  dsimp only
  split
  · exact drives
  refine Drives.silent_bind drives (.modifyWorld _) fun _ m drives => ?_
  refine Drives.silent_bind drives (.modifyWorld _) fun _ m drives => ?_
  refine Drives.silent_bind drives (.debit _ _) fun _ m drives => ?_
  refine Drives.silent_bind drives (.modifyWorld _) fun _ m drives => ?_
  refine Drives.silent_bind drives .pushCheckpoint fun _ m drives => ?_
  refine Drives.silent_bind drives (.debit _ _) fun _ m drives => ?_
  refine Drives.silent_bind drives (.modifyWorld _) fun _ m drives => ?_
  split
  · refine Drives.silent_bind drives (.modifyWorld _) fun _ m drives => ?_
    exact Drives.announce_bind drives (Tracer.onward_keeps ..).enterContext fun _ _ h => h
  · exact Drives.announce_bind drives (Tracer.onward_keeps ..).enterContext fun _ _ h => h

theorem finishContext_drives (drives : start.Drives m) (outcome : ContextOutcome) :
    Leaves (finishContext chain outcome m) (Drives start) := by
  unfold finishContext
  refine Ends.get_bind (Drives.announce_bind drives (Tracer.onward_keeps ..).exitContext ?_)
  intro id m drives
  refine Drives.silent_bind drives .popCheckpoint fun checkpoint m drives => ?_
  have returns : ∀ m' : Machine, start.Drives m' → Leaves ((do
      let frame ← ofResult ((← get).tracer.contexts.get id)
      if frame.parent?.isSome then
        announce (Tracer.reEnterContext chain (← get).world (Word.ofBool outcome.success))
      else if outcome.success && frame.entry.isDeployment then
        modifyWorld (·.setCode frame.entry.address outcome.output)
      return id : Step Nat) m') (Drives start) := by
    intro m drives
    refine Ends.get_bind (Drives.silent_bind drives (.ofResult _) fun frame m drives => ?_)
    split
    · refine Ends.get_bind ?_
      exact Drives.announce_bind drives (Tracer.onward_keeps ..).reEnterContext fun _ _ h => h
    · split
      · exact drives
      · exact drives
  split
  · exact returns m drives
  · refine Drives.silent_bind drives (.modifyWorld _) fun _ m drives => ?_
    refine Drives.announce_bind drives (Tracer.onward_keeps ..).rollBack fun _ m drives => ?_
    exact returns m drives

theorem spawn_drives (drives : start.Drives m) (i : Invocation) (caller callee : Address)
    (value : Word) : Leaves (spawn chain i caller callee value m) (Drives start) := by
  unfold spawn
  refine Drives.silent_bind drives .pushCheckpoint fun _ m drives => ?_
  split
  on_goal 1 =>
    refine Drives.silent_bind drives (.debit _ _) fun _ m drives => ?_
    refine Drives.silent_bind drives (.modifyWorld _) fun _ m drives => ?_
  all_goals
    refine Drives.announce_bind drives (Tracer.onward_keeps ..).enterContext fun _ m drives => ?_
    refine Ends.get_bind ?_
    cases m.immediateOutcome? chain callee i.callData with
    | some outcome => exact Ends.bind (finishContext_drives drives outcome) fun _ _ h => h
    | none => exact drives

theorem call_drives (drives : start.Drives m) (i : Invocation) :
    Leaves (call chain i m) (Drives start) := by
  have calls : ∀ i : Invocation, ∀ m : Machine, start.Drives m → Leaves ((do
      let id ← announce (Tracer.announceCall chain (← get).world i)
      if i.exceptions.any then
        return id
      let frame ← currentFrame
      let callee ← ofResult i.callee
      let value ← ofResult i.value
      modifyWorld (·.warmUp callee)
      if i.aborts.any then
        announce (Tracer.finishOpcode chain (some 0))
      else
        spawn chain i frame.entry.address callee value
      return id : Step Nat) m) (Drives start) := by
    intro i m drives
    refine Ends.get_bind (Drives.announce_bind drives (Tracer.onward_keeps ..).announceCall ?_)
    intro id m drives
    split
    · exact drives
    refine Drives.silent_bind drives .currentFrame fun frame m drives => ?_
    refine Drives.silent_bind drives (.ofResult _) fun callee m drives => ?_
    refine Drives.silent_bind drives (.ofResult _) fun value m drives => ?_
    refine Drives.silent_bind drives (.modifyWorld _) fun _ m drives => ?_
    split
    · exact Drives.announce_bind drives (Tracer.onward_keeps ..).finishOpcode fun _ _ h => h
    · exact Ends.bind (spawn_drives drives ..) fun _ _ h => h
  unfold call
  split
  · exact calls i m drives
  · refine Drives.silent_bind drives (.abortingConditions i) fun found m drives => ?_
    exact calls _ m drives

theorem endTransaction_drives (drives : start.Drives m) (gasUsed : UInt64) :
    Leaves (endTransaction chain gasUsed m) (Drives start) := by
  unfold endTransaction
  refine Ends.get_bind ?_
  cases m.transaction? with
  | none => exact drives
  | some tx =>
      refine Ends.modify_bind (Ends.get_bind ?_)
      have closes : ∀ success : Bool, ∀ m : Machine, start.Drives m → Leaves ((do
          credit tx.coinbase (tx.coinbaseReward gasUsed)
          announce (Tracer.endTransaction chain (← get).world { success, gasUsed })
          modifyWorld (·.coolDown) : Step Unit) m) (Drives start) := by
        intro success m drives
        refine Drives.silent_bind drives (.modifyWorld _) fun _ m drives => Ends.get_bind ?_
        exact Drives.announce_bind drives (Tracer.onward_keeps ..).endTransaction fun _ _ h => h
      dsimp only
      split
      · refine Drives.silent_bind drives (.settle _ _) fun _ m drives => closes _ m drives
      · refine Drives.silent_bind drives (.refund _ _) fun _ m drives => closes _ m drives

end Machine

/-! ## Runs -/

/-- **A step of a script takes the tracer further**, whether it succeeds or not. -/
theorem Action.carryOut_drives (a : Action) (drives : start.Drives m) :
    Leaves (a.carryOut chain m) (Machine.Drives start) := by
  cases a with
  | start tx => exact .discard (Machine.beginTransaction_drives drives tx)
  | call i => exact .discard (Machine.call_drives drives i)
  | finish outcome => exact .discard (Machine.finishContext_drives drives outcome)
  | settle gasUsed => exact Machine.endTransaction_drives drives gasUsed

theorem Action.drives {a : Action} (seated : m.tracer.Seated)
    (succeeds : a.carryOut chain m = .ok () m') : m.Drives m' := by
  have drives : Leaves (a.carryOut chain m) m.Drives := a.carryOut_drives ⟨seated.onward, rfl⟩
  rw [succeeds] at drives
  exact drives

theorem Action.onward {a : Action} (seated : m.tracer.Seated)
    (succeeds : a.carryOut chain m = .ok () m') : m.tracer.Onward m'.tracer :=
  (Action.drives seated succeeds).1

/-- Nothing has been traced before the first step. -/
theorem Machine.tracer_initial (accounts : List (Address × Account))
    (outcomes : List (Address × ContextOutcome)) : (initial accounts outcomes).tracer = {} := by
  have start : (ofAccounts accounts).tracer = {} := rfl
  unfold initial
  generalize ofAccounts accounts = m at start
  induction outcomes generalizing m with
  | nil => exact start
  | cons outcome outcomes ih => exact ih _ start

/-- **The sections of a run are seated.** -/
theorem Reachable.seated (reachable : Reachable chain m) : m.tracer.Seated := by
  induction reachable with
  | initial accounts outcomes =>
      rw [Machine.tracer_initial]
      exact Tracer.seated_empty
  | step before allowed succeeds ih => exact (Action.onward ih succeeds).seated

theorem Machine.Drives.trans {m'' : Machine} (first : m.Drives m') (second : m'.Drives m'') :
    m.Drives m'' :=
  ⟨first.1.trans second.1, second.2.trans first.2⟩

/-- **Part of a transaction takes the tracer further.** -/
theorem Executes.drives (executes : Executes chain m m') (seated : m.tracer.Seated) :
    m.Drives m' := by
  induction executes with
  | refl => exact ⟨seated.onward, rfl⟩
  | call _ succeeds ih => exact ih.trans (Action.drives ih.1.seated succeeds)
  | finish _ succeeds ih => exact ih.trans (Action.drives ih.1.seated succeeds)

/-- **Later in a run the tracer is further on.** -/
theorem Later.onward (later : Later chain m m') (seated : m.tracer.Seated) :
    m.tracer.Onward m'.tracer := by
  induction later with
  | refl => exact seated.onward
  | step _ _ succeeds ih => exact ih.trans (Action.onward ih.seated succeeds)

end ExecutionTrace
