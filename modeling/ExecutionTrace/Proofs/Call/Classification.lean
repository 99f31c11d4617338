import ExecutionTrace.Machine.Script
import ExecutionTrace.Proofs.Call.Announcement
import ExecutionTrace.Proofs.Tracer.Rejection

/-!
# How calls are classified

Whether a call is accepted, what scenario its section starts in and what its module row shows are
decided by a cascade of checks.  `Invocation.Classified` says the same without the cascade: the
cases exclude one another, and each lists all that it depends on.

## Main Definitions

* `Invocation.Classified` — the first scenario and the module row of a call
* `Invocation.Classified.functional` — a call is classified in one way at most
* `CallSection.announce_classified` — the cascade finds the classification, if there is one
* `Tracer.calls_accepted_iff_classified` — what the tracer makes of an announced call

## Design Notes

The cascade trusts the announced exceptions and holds the verdicts of two other modules against
them, so the cases are about both.  Flags that are not declared escape the checks for exceptions and
are caught by the order of scenarios instead, which the cases need not know: they are about declared
exceptions only.
-/

namespace ExecutionTrace

namespace Invocation

variable {i : Invocation}

/-! ## Reading the stack -/

/-- Every item that an instruction reads is among those that it consumes. -/
theorem index_lt_arity (kind : CallKind) (slot : Slot) : slot.index kind < kind.arity := by
  cases kind <;> cases slot <;> decide

/-- An item is read exactly if the stack reaches down to it. -/
theorem item_exactly (slot : Slot) :
    Grants (i.item slot) (fun w => i.item slot = .ok w ∧ slot.index i.kind < i.stack.length)
      (fun _ => i.stack.length ≤ slot.index i.kind) := by
  unfold item
  split
  · rename_i found
    exact ⟨rfl, (List.getElem?_eq_some_iff.1 found).1⟩
  · rename_i missing
    exact List.getElem?_eq_none_iff.1 missing

/-- The stack does not have the items that the instruction consumes. -/
theorem short_of_missing {slot : Slot} (missing : i.stack.length ≤ slot.index i.kind) :
    ¬i.kind.arity ≤ i.stack.length :=
  Nat.not_le_of_lt (Nat.lt_of_le_of_lt missing (index_lt_arity i.kind slot))

theorem value_exactly :
    Grants i.value (fun w => i.value = .ok w) (fun _ => ¬i.kind.arity ≤ i.stack.length) := by
  cases takes : i.kind.takesValue with
  | true =>
      rw [value, if_pos takes]
      exact (item_exactly .value).mono (fun _ h => h.1) fun _ => short_of_missing
  | false =>
      rw [value, if_neg (by simp [takes])]
      rfl

theorem callDataSpan_exactly :
    Grants i.callDataSpan (fun _ => True) (fun _ => ¬i.kind.arity ≤ i.stack.length) := by
  refine Grants.bind ((item_exactly .dataOffset).mono (fun _ h => h) fun _ => short_of_missing) ?_
  intro _ _
  exact Grants.bind ((item_exactly .dataLength).mono (fun _ h => h) fun _ => short_of_missing)
    fun _ _ => trivial

/-- The last item that an instruction reads is the last one that it consumes. -/
theorem returnSpan_exactly :
    Grants i.returnSpan (fun _ => i.kind.arity ≤ i.stack.length)
      (fun _ => ¬i.kind.arity ≤ i.stack.length) := by
  refine Grants.bind ((item_exactly .returnOffset).mono (fun _ h => h) fun _ => short_of_missing) ?_
  intro _ _
  refine Grants.bind ((item_exactly .returnLength).mono (fun _ h => h) fun _ => short_of_missing) ?_
  rintro _ ⟨-, deep⟩
  have last : (Slot.returnLength).index i.kind + 1 = i.kind.arity := by
    cases i.kind <;> rfl
  show i.kind.arity ≤ i.stack.length
  rw [← last]
  exact deep

/-! ## The classification -/

/-- **The call has to abort**: its caller cannot pay for it, or the stack of contexts is as deep as
it may be. -/
def MustAbort (i : Invocation) (value balance : Word) (depth : Nat) : Prop :=
  ((i.kind = .call ∨ i.kind = .callCode) ∧ balance.toNat < value.toNat) ∨ 1024 ≤ depth

instance (i : Invocation) (value balance : Word) (depth : Nat) :
    Decidable (i.MustAbort value balance depth) :=
  inferInstanceAs (Decidable (_ ∨ _))

/-- The first scenario of an unexceptional call, by whether it aborts and by what it calls. -/
def outlook (chain : Chain) (world : WorldState) (aborts : Prop) [Decidable aborts]
    (callee : Address) : Scenario :=
  if aborts then .abortWontRevert
  else if callee.isPrecompile chain then .precompileUndefined
  else if world.hasCode callee then .contractUndefined
  else .externalUndefined

/-- **An unexceptional call** made from a context: nothing is announced or found to be wrong, the
stack has all items, and whether the call aborts is announced as it is. -/
structure Unexceptional (world : WorldState) (frame : Frame) (i : Invocation) (callee : Address)
    (value : Word) : Prop where
  quiet : i.exceptions.any = false
  memory : i.memory.exceeded = false
  gas : i.gas.outOfGas = false
  full : i.kind.arity ≤ i.stack.length
  called : i.callee = .ok callee
  paid : i.value = .ok value
  agrees : i.aborts.any = true ↔
    i.MustAbort value (world.balance frame.entry.address) frame.depth

/-- **The classification of a call** made from a context: the scenario that its section starts in,
and the row that shows which modules were asked, and for what. -/
inductive Classified (chain : Chain) (world : WorldState) (frame : Frame) (i : Invocation) :
    Scenario → MiscRow → Prop
  /-- Something is wrong with the stack, or a value is moved in a static context. -/
  | early (raised : i.RaisesEarly) :
      Classified chain world frame i .exception
        { bounds? := some (.exceptional (i.value.toOption.getD 0)) }
  /-- Otherwise, memory would have to grow too far. -/
  | memory (later : ¬i.RaisesEarly) (agrees : i.memory.exceeded = i.exceptions.hasMemoryExpansion)
      (raised : i.exceptions.hasMemoryExpansion = true) :
      Classified chain world frame i .exception
        { bounds? := some (.exceptional (i.value.toOption.getD 0))
          memory? := some i.memory }
  /-- Otherwise, the gas does not suffice. -/
  | gas (later : ¬i.RaisesEarly) (fits : i.exceptions.hasMemoryExpansion = false)
      (memory : i.memory.exceeded = i.exceptions.hasMemoryExpansion)
      (agrees : i.gas.outOfGas = i.exceptions.hasOutOfGas)
      (raised : i.exceptions.hasOutOfGas = true) (deep : 2 ≤ i.stack.length) :
      Classified chain world frame i .exception
        { bounds? := some (.exceptional (i.value.toOption.getD 0))
          memory? := some i.memory
          gas? := some i.gas }
  /-- Otherwise, the call is unexceptional. -/
  | unexceptional {callee : Address} {value : Word}
      (clean : i.Unexceptional world frame callee value) :
      Classified chain world frame i
        (outlook chain world (i.MustAbort value (world.balance frame.entry.address) frame.depth)
          callee)
        { bounds? := some (.unexceptional value (world.balance frame.entry.address) frame.depth
            (decide (i.MustAbort value (world.balance frame.entry.address) frame.depth)))
          memory? := some i.memory
          gas? := some i.gas }

variable {chain : Chain} {world : WorldState} {frame : Frame} {callee : Address} {value : Word}
  {s s' : Scenario} {m m' : MiscRow}

theorem Unexceptional.not_raisesEarly (clean : i.Unexceptional world frame callee value) :
    ¬i.RaisesEarly := by
  simp [RaisesEarly, ExceptionFlags.hasStackException, ExceptionFlags.hasStaticFault,
    ExceptionFlags.meets_of_quiet clean.quiet]

theorem Unexceptional.fits (clean : i.Unexceptional world frame callee value) :
    i.exceptions.hasMemoryExpansion = false :=
  ExceptionFlags.meets_of_quiet clean.quiet _

theorem Unexceptional.affordable (clean : i.Unexceptional world frame callee value) :
    i.exceptions.hasOutOfGas = false :=
  ExceptionFlags.meets_of_quiet clean.quiet _

namespace Classified

/-! ## One case at a time -/

/-- A call with an early exception is in the first case. -/
theorem of_raisesEarly (h : Classified chain world frame i s m) (raised : i.RaisesEarly) :
    s = .exception ∧ m = { bounds? := some (.exceptional (i.value.toOption.getD 0)) } := by
  cases h with
  | early => exact ⟨rfl, rfl⟩
  | memory later => exact absurd raised later
  | gas later => exact absurd raised later
  | unexceptional clean => exact absurd raised clean.not_raisesEarly

/-- Without an early exception, the verdict on memory is the announced one. -/
theorem memory_eq (h : Classified chain world frame i s m) (later : ¬i.RaisesEarly) :
    i.memory.exceeded = i.exceptions.hasMemoryExpansion := by
  cases h with
  | early raised => exact absurd raised later
  | memory _ agrees => exact agrees
  | gas _ _ memory => exact memory
  | unexceptional clean => exact clean.memory.trans clean.fits.symm

/-- A call that needs too much memory is in the second case. -/
theorem of_exceeded (h : Classified chain world frame i s m) (later : ¬i.RaisesEarly)
    (exceeded : i.exceptions.hasMemoryExpansion = true) :
    s = .exception ∧ m =
      { bounds? := some (.exceptional (i.value.toOption.getD 0))
        memory? := some i.memory } := by
  cases h with
  | early raised => exact absurd raised later
  | memory => exact ⟨rfl, rfl⟩
  | gas _ fits => simp [fits] at exceeded
  | unexceptional clean => simp [clean.fits] at exceeded

/-- Without an exception about memory, the verdict on gas is the announced one, and the callee is
on the stack. -/
theorem gas_eq (h : Classified chain world frame i s m) (later : ¬i.RaisesEarly)
    (fits : i.exceptions.hasMemoryExpansion = false) :
    i.gas.outOfGas = i.exceptions.hasOutOfGas ∧ 2 ≤ i.stack.length := by
  cases h with
  | early raised => exact absurd raised later
  | memory _ _ raised => simp [fits] at raised
  | gas _ _ _ agrees _ deep => exact ⟨agrees, deep⟩
  | unexceptional clean =>
      have deep : 1 < i.kind.arity := index_lt_arity i.kind .address
      exact ⟨clean.gas.trans clean.affordable.symm, Nat.le_trans deep clean.full⟩

/-- A call that runs out of gas is in the third case. -/
theorem of_outOfGas (h : Classified chain world frame i s m) (later : ¬i.RaisesEarly)
    (fits : i.exceptions.hasMemoryExpansion = false) (raised : i.exceptions.hasOutOfGas = true) :
    s = .exception ∧ m =
      { bounds? := some (.exceptional (i.value.toOption.getD 0))
        memory? := some i.memory
        gas? := some i.gas } := by
  cases h with
  | early raised => exact absurd raised later
  | memory _ _ raised => simp [fits] at raised
  | gas => exact ⟨rfl, rfl⟩
  | unexceptional clean => simp [clean.affordable] at raised

/-- A call without any of the exceptions is in the last case. -/
theorem exists_unexceptional (h : Classified chain world frame i s m) (later : ¬i.RaisesEarly)
    (fits : i.exceptions.hasMemoryExpansion = false)
    (affordable : i.exceptions.hasOutOfGas = false) :
    ∃ callee value, i.Unexceptional world frame callee value := by
  cases h with
  | early raised => exact absurd raised later
  | memory _ _ raised => simp [fits] at raised
  | gas _ _ _ _ raised => simp [affordable] at raised
  | unexceptional clean => exact ⟨_, _, clean⟩

/-- An unexceptional call is in the last case. -/
theorem of_unexceptional (h : Classified chain world frame i s m)
    (clean : i.Unexceptional world frame callee value) :
    s = outlook chain world (i.MustAbort value (world.balance frame.entry.address) frame.depth)
        callee ∧ m =
      { bounds? := some (.unexceptional value (world.balance frame.entry.address) frame.depth
          (decide (i.MustAbort value (world.balance frame.entry.address) frame.depth)))
        memory? := some i.memory
        gas? := some i.gas } := by
  cases h with
  | early raised => exact absurd raised clean.not_raisesEarly
  | memory _ _ raised => simp [clean.fits] at raised
  | gas _ _ _ _ raised => simp [clean.affordable] at raised
  | unexceptional clean' =>
      obtain rfl := Except.ok.inj (clean.called.symm.trans clean'.called)
      obtain rfl := Except.ok.inj (clean.paid.symm.trans clean'.paid)
      exact ⟨rfl, rfl⟩

/-- **A call is classified in one way at most.** -/
theorem functional (h : Classified chain world frame i s m)
    (h' : Classified chain world frame i s' m') : s = s' ∧ m = m' := by
  cases h with
  | early raised =>
      obtain ⟨rfl, rfl⟩ := h'.of_raisesEarly raised
      exact ⟨rfl, rfl⟩
  | memory later _ raised =>
      obtain ⟨rfl, rfl⟩ := h'.of_exceeded later raised
      exact ⟨rfl, rfl⟩
  | gas later fits _ _ raised =>
      obtain ⟨rfl, rfl⟩ := h'.of_outOfGas later fits raised
      exact ⟨rfl, rfl⟩
  | unexceptional clean =>
      obtain ⟨rfl, rfl⟩ := h'.of_unexceptional clean
      exact ⟨rfl, rfl⟩

end Classified

end Invocation

/-! ## The cascade -/

/-- The first scenario of a call with a given destination. -/
def Destination.firstScenario : Destination → Scenario
  | nowhere => .abortWontRevert
  | precompile _ => .precompileUndefined
  | contract => .contractUndefined
  | external => .externalUndefined

/-- What an unexceptional call is classified as is where it goes. -/
theorem Destination.firstScenario_of (chain : Chain) (world : WorldState) (aborts : Prop)
    [Decidable aborts] (callee : Address) :
    (if aborts then nowhere else Destination.of chain world callee).firstScenario =
      Invocation.outlook chain world aborts callee := by
  unfold Invocation.outlook Address.isPrecompile Destination.of
  by_cases aborting : aborts
  · rw [if_pos aborting, if_pos aborting]
    rfl
  rw [if_neg aborting, if_neg aborting]
  cases Precompile.at? chain callee with
  | some target => rfl
  | none => cases world.hasCode callee <;> rfl

namespace CallSection

variable {chain : Chain} {id : Nat} {desk : Desk} {world : WorldState} {frame : Frame}
  {i : Invocation} {c : CallSection}

/-- Whether a call aborts, as it is computed and as it is meant. -/
theorem abortsAt_eq (i : Invocation) (value balance : Word) (depth : Nat) :
    abortsAt i.kind value balance depth = decide (i.MustAbort value balance depth) := by
  rw [Bool.eq_iff_iff, abortsAt, Bool.or_eq_true, Bool.and_eq_true, CallKind.takesValue_iff,
    decide_eq_true_iff, decide_eq_true_iff, decide_eq_true_iff]
  rfl

/-- **The first step of a scenario** is always possible, and leaves the module row as it is. -/
theorem dispatch_grants (untouched : c.scenario = .undefined)
    (uncollected : c.shared.stipend? = none) (destination : Destination) (before : Parties)
    (child : Nat) (i : Invocation) :
    Grants (c.dispatch destination before child i)
      (fun c' => c'.scenario = destination.firstScenario ∧ c'.misc = c.misc) fun _ => False := by
  have advances : ∀ target, Scenario.undefined.refines target = true →
      c.advance target = .ok (c.withScenario target) := by
    intro target first
    rw [advance, untouched, if_pos first]
    rfl
  have moved : ∀ target, (c.withScenario target).misc = c.misc := fun target =>
    (c.withScenario_shows target).2.2.1
  cases destination with
  | nowhere =>
      refine Grants.bind_ok (advances _ rfl) ?_
      refine Grants.of_ok (collectStipend_eq ?_ _) ⟨rfl, ?_⟩
      · exact uncollected
      · exact (append_shows ..).2.2.1.trans (moved _)
  | precompile target => exact Grants.bind_ok (advances _ rfl) ⟨rfl, moved _⟩
  | contract => exact Grants.bind_ok (advances _ rfl) ⟨rfl, moved _⟩
  | external =>
      refine Grants.bind_ok (advances _ rfl) ?_
      refine Grants.bind_ok (collectStipend_eq ?_ _) ⟨rfl, ?_⟩
      · exact uncollected
      · exact moved .externalUndefined

/-- What an exceptional call shows before anything else is looked at. -/
theorem blankMisc_of_raised (raised : i.exceptions.any = true) :
    blankMisc i = { bounds? := some (.exceptional (i.value.toOption.getD 0)) } := by
  rw [blankMisc, if_pos raised]

/-- The first scenario of an exceptional call. -/
theorem scenario_blank_of_raised (raised : i.exceptions.any = true) (stamp : Nat) (frame : Frame)
    (misc : MiscRow) : (blank stamp frame i misc).scenario = .exception :=
  if_pos raised

open Invocation (Classified)

/-- The last case of the classification. -/
theorem announceUnexceptional_classified {raw : Word} (found : i.rawCallee = .ok raw)
    (quiet : i.exceptions.any = false) (memory : i.memory.exceeded = false)
    (gas : i.gas.outOfGas = false) :
    Ends
      (announceUnexceptional chain id world frame raw
        (.canonical chain world desk.incarnations frame.entry.address raw.toAddress)
        { memory? := some i.memory, gas? := some i.gas } i desk)
      (fun c _ => i.Classified chain world frame c.scenario c.misc)
      (fun _ _ => ∀ callee value, ¬i.Unexceptional world frame callee value) := by
  have callee : i.callee = .ok raw.toAddress := by
    unfold Invocation.callee
    rw [found]
    rfl
  have balance :
      (Parties.canonical chain world desk.incarnations frame.entry.address
        raw.toAddress).caller.balance = world.balance frame.entry.address :=
    Snapshot.balance_canonical ..
  -- Each read fails on a short stack only, and no unexceptional call has one.
  have short : ∀ _ : Violation, ¬i.kind.arity ≤ i.stack.length →
      ∀ callee value, ¬i.Unexceptional world frame callee value :=
    fun _ short _ _ clean => short clean.full
  unfold announceUnexceptional
  refine Ends.get_bind ?_
  refine Ends.ofExcept_bind (Invocation.value_exactly.mono (fun _ h => h) short)
    fun value paid => ?_
  refine Ends.ofExcept_bind (Invocation.callDataSpan_exactly.mono (fun _ h => h) short)
    fun _ _ => ?_
  refine Ends.ofExcept_bind (Invocation.returnSpan_exactly.mono (fun _ h => h) short)
    fun _ full => ?_
  dsimp only
  rw [balance, abortsAt_eq]
  split
  · rename_i conflict
    intro callee value' clean
    obtain rfl := Except.ok.inj (paid.symm.trans clean.paid)
    refine absurd conflict ?_
    rw [Bool.not_eq_true, bne_eq_false_iff_eq, Bool.eq_iff_iff, decide_eq_true_iff]
    exact clean.agrees.symm
  · rename_i agrees
    have agrees : decide (i.MustAbort value (world.balance frame.entry.address) frame.depth) =
        i.aborts.any := by
      simpa using agrees
    have clean : i.Unexceptional world frame raw.toAddress value := by
      refine ⟨quiet, memory, gas, full, callee, paid, ?_⟩
      rw [← agrees, decide_eq_true_iff]
    refine Ends.ofExcept_bind ((dispatch_grants ?_ rfl ..).mono (fun _ h => h)
      fun _ => False.elim) ?_
    · exact if_neg (by simp [quiet])
    rintro c' ⟨scenario, shown⟩
    show i.Classified chain world frame c'.scenario c'.misc
    have classified : i.Classified chain world frame _ _ := .unexceptional clean
    rw [← Destination.firstScenario_of] at classified
    rw [scenario, shown]
    simp only [decide_eq_true_eq]
    exact classified

/-- **The cascade of checks finds the classification**, and refuses the calls that have none. -/
theorem announce_classified (current : desk.contexts.currentFrame = .ok frame)
    (declared : i.exceptions.Declared) :
    Ends (announce chain id world i desk)
      (fun c _ => i.Classified chain world frame c.scenario c.misc)
      (fun _ _ => ∀ s m, ¬i.Classified chain world frame s m) := by
  have checked : Checked chain id world frame i desk (announce chain id world i desk) :=
    announce_checked current
  generalize announce chain id world i desk = r at checked ⊢
  cases checked with
  | early raised =>
      have misc := blankMisc_of_raised raised.any
      show i.Classified chain world frame (blank desk.stamp frame i (blankMisc i)).scenario
        (blankMisc i)
      rw [scenario_blank_of_raised raised.any, misc]
      exact .early raised
  | memoryConflict later conflict => exact fun s m h => conflict (h.memory_eq later)
  | memory later agrees raised =>
      have any := ExceptionFlags.any_of_meets raised
      show i.Classified chain world frame (blank desk.stamp frame i _).scenario
        { blankMisc i with memory? := some i.memory }
      rw [scenario_blank_of_raised any, blankMisc_of_raised any]
      exact .memory later agrees raised
  | gasConflict later fits conflict => exact fun s m h => conflict (h.gas_eq later fits).1
  | short later fits missing =>
      have short := (Invocation.item_exactly .address).error missing
      exact fun s m h => absurd (h.gas_eq later fits).2 (Nat.not_le_of_lt (Nat.lt_succ_of_le short))
  | @gas raw c before later memory fits agrees raised found known =>
      have any := ExceptionFlags.any_of_meets raised
      obtain ⟨scenario, misc⟩ : c.scenario = .exception ∧ c.misc =
          { blankMisc i with memory? := some i.memory, gas? := some i.gas } := by
        rw [known]
        exact ⟨if_pos any, rfl⟩
      have shown := (c.append_shows ((c.forwardRows ⟨before.caller, before.caller⟩
        ⟨before.callee, before.callee⟩ false).map .account)).2.2.1.trans misc
      show i.Classified chain world frame c.scenario (c.append _).misc
      rw [scenario, shown, blankMisc_of_raised any]
      exact .gas later fits memory agrees raised
        ((Invocation.item_exactly .address).value found).2
  | passed later memory fits agrees affordable found =>
      have quiet : i.exceptions.any = false := by
        obtain ⟨stack, static⟩ := not_or.1 later
        rw [declared.any_iff]
        simp [stack, static, fits, affordable]
      have misc : blankMisc i = {} := by
        simp [blankMisc, quiet]
      rw [misc]
      refine (announceUnexceptional_classified found quiet (memory.trans fits)
        (agrees.trans affordable)).mono (fun _ _ h => h) fun _ _ none s m h => ?_
      obtain ⟨callee, value, clean⟩ := h.exists_unexceptional later fits affordable
      exact none callee value clean

end CallSection

/-! ## The announcement -/

namespace Tracer

variable {chain : Chain} {world : WorldState} {frame : Frame} {i : Invocation} {tx : Transaction}
  {t : Tracer}

/-- **An announced call** is classified and joins the other sections, or has no classification. -/
theorem announceCall_exactly (active : t.transaction? = some tx)
    (current : t.contexts.currentFrame = .ok frame) (declared : i.exceptions.Declared) :
    Ends (announceCall chain world i t)
      (fun id t' => ∃ c, i.Classified chain world frame c.scenario c.misc ∧
        CallSection.Announced chain { t.toSetting with stamp := t.stamp + 1 } world frame i c ∧
        id = t.sections.size ∧ t' =
          { t with
            stamp := t.stamp + 1
            agenda := t.agenda.scheduleAll (c.awaited t.contexts.nextId) t.sections.size
            sections := t.sections.push (.call c) })
      (fun _ _ => ∀ s m, ¬i.Classified chain world frame s m) := by
  have announced : CallSection.Enlists chain t.sections.size world frame i
      { t.toDesk with stamp := t.stamp + 1 } _ := CallSection.announce_enlists current
  have classified : Ends (CallSection.announce chain t.sections.size world i
      { t.toDesk with stamp := t.stamp + 1 }) _ _ :=
    CallSection.announce_classified current declared
  refine (announceCall_constructs (Option.isSome_iff_exists.2 ⟨tx, active⟩)
    (classified.and announced)).mono ?_ ?_
  · rintro _ _ ⟨numbered, c, _, ⟨classified, announced, rfl⟩, rfl⟩
    exact ⟨c, classified, announced, numbered, rfl⟩
  · rintro _ _ ⟨_, ⟨unclassified, -⟩, -⟩
    exact unclassified

/-- **Which calls are accepted, and as what.** While a transaction is traced and a context is
active, a call whose exceptions are declared is accepted exactly if it can be classified.  It is
then registered for nothing if it is exceptional, and otherwise for all that its section awaits; the
first rows of the section show the instruction, the scenario, the context and the module row of the
classification. -/
theorem calls_accepted_iff_classified (active : t.transaction? = some tx)
    (current : t.contexts.currentFrame = .ok frame) (declared : i.exceptions.Declared) :
    ((∃ id t', announceCall chain world i t = .ok id t') ↔
      ∃ s m, i.Classified chain world frame s m) ∧
    ∀ s m, i.Classified chain world frame s m → ∃ c,
      announceCall chain world i t = .ok t.sections.size
        { t with
          stamp := t.stamp + 1
          agenda := if s = .exception then t.agenda
            else t.agenda.scheduleAll (c.awaited t.contexts.nextId) t.sections.size
          sections := t.sections.push (.call c) } ∧
      c.prequel = [.stack { mnemonic := i.kind.mnemonic, items := i.stack }, .scenario s,
        .context (.readCurrent frame.id), .misc m] := by
  have exactly : Ends (announceCall chain world i t) _ _ :=
    announceCall_exactly active current declared
  constructor
  · refine Ends.ok_iff (exactly.mono ?_ ?_)
    · rintro _ _ ⟨c, classified, -⟩
      exact ⟨c.scenario, c.misc, classified⟩
    · rintro _ _ unclassified ⟨s, m, classified⟩
      exact unclassified s m classified
  · intro s m h
    cases result : announceCall chain world i t with
    | error v t' =>
        rw [result] at exactly
        exact absurd h (exactly s m)
    | ok id t' =>
        rw [result] at exactly
        obtain ⟨c, classified, announced, rfl, rfl⟩ := exactly
        obtain ⟨rfl, rfl⟩ := classified.functional h
        refine ⟨c, ?_, ?_⟩
        · congr
          split
          · rename_i exceptional
            rw [CallSection.awaited, exceptional]
            rfl
          · rfl
        · rw [CallSection.prequel_eq, announced.kind, announced.stack, announced.pushed,
            announced.context]
          rfl

/-- A contract can pay another contract, and a call that runs out of gas is refused if there is no
callee on its stack. -/
theorem calls_accepted_on_samples :
    let world := WorldState.ofList [(Script.sender, { balance := Script.gwei 1000000000 }),
      (0xc0de, { balance := 7, code := [0x00] }), (0xbeef, { code := [0x00] })]
    let t := drive .ethereum
      [.beginTransaction world (Script.messageCall Script.sender 0xc0de 0),
        .enterContext { address := 0xc0de, codeAddress := 0xc0de, caller := Script.sender }]
    let short := ({ Invocation.make .call 0xbeef 5 with stack := [0] }).withExceptions .outOfGas
    (∃ c t', announceCall .ethereum world (.make .call 0xbeef 5) t = .ok 1 t' ∧
      t'.sections = t.sections.push (.call c) ∧ .scenario .contractUndefined ∈ c.prequel) ∧
    ¬∃ id t', announceCall .ethereum world short t = .ok id t' := by
  intro world t short
  have active : t.transaction? = some (Script.messageCall Script.sender 0xc0de 0) := by
    decide +kernel
  have seen : (match t.contexts.currentFrame with
    | .ok f => decide (f.entry.address = 0xc0de ∧ f.depth = 0)
    | .error _ => false) = true := by
    decide +kernel
  split at seen
  · rename_i frame current
    obtain ⟨address, depth⟩ := of_decide_eq_true seen
    obtain ⟨-, accepted⟩ := @calls_accepted_iff_classified .ethereum world frame
      (.make .call 0xbeef 5) _ t active current (by decide)
    obtain ⟨refused, -⟩ := @calls_accepted_iff_classified .ethereum world frame short _ t active
      current (by decide)
    constructor
    · have clean : Invocation.Unexceptional world frame (.make .call 0xbeef 5) 0xbeef 5 := by
        refine ⟨rfl, rfl, rfl, by decide, by decide, by decide, ?_⟩
        rw [address, depth]
        decide +kernel
      obtain ⟨c, result, prequel⟩ := accepted _ _ (.unexceptional clean)
      have first : t.sections.size = 1 := by
        decide +kernel
      have outlook : Invocation.outlook .ethereum world
          ((Invocation.make .call 0xbeef 5).MustAbort 5 (world.balance 0xc0de) 0) 0xbeef =
            .contractUndefined := by
        decide +kernel
      rw [first] at result
      refine ⟨c, _, result, ?_, ?_⟩
      · rfl
      rw [prequel, address, depth, outlook]
      exact List.mem_cons_of_mem _ (List.mem_cons_self ..)
    · intro accepted
      obtain ⟨s, m, classified⟩ := refused.1 accepted
      have deep := (classified.gas_eq (by decide) (by decide)).2
      exact absurd deep (by decide)
  · cases seen

end Tracer

end ExecutionTrace
