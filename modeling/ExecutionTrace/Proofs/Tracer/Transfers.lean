import ExecutionTrace.Proofs.Call.Reaction
import ExecutionTrace.Proofs.Rows.Extension

/-!
# The transfers of calls

A call is paid for when its child context becomes active, with the balances that were seen at its
announcement.  The caller can always pay, since a call that is short of balance aborts.  What is
left to go wrong is that the callee has no room for the value, and the callee here is the account
as it was found, before anything was taken from it.  In a call of an account to itself the two are
the same account, so such a call is refused although it moves nothing.

## Main Definitions

* `CallSection.Feasible` — what is known of a call from its announcement on
* `CallSection.Overflows` — the callee has no room for the value
* `CallSection.Feasible.enterChild_exactly` — when the child context can be entered
* `CallSection.Pays` — what becomes of a feasible call at the entry of its child context
* `Tracer.transfers_refused_for_want_of_room` — the same, whatever is announced in between

## Design Notes

Between the announcement and the entry other announcements may intervene, even unsuitable ones.  The
terms of the call survive all of them, which is all that its transfer depends on; the scenario may
have moved, but then nothing is transferred any more.
-/

namespace ExecutionTrace

/-- The scenarios that a child context is entered in. -/
def Scenario.AwaitsEntry (s : Scenario) : Prop :=
  s = .precompileUndefined ∨ s = .contractUndefined

namespace CallSection

/-- **A call that was found feasible**, its parties being seen with the balances of a world as
given. -/
structure Feasible (world : WorldState) (before : Parties) (c : CallSection) : Prop where
  latched : c.before? = some before
  caller : before.caller.address = c.caller
  callee : before.callee.address = c.callee
  paying : before.caller.balance = world.balance c.caller
  paid : before.callee.balance = world.balance c.callee
  payable : c.kind.movesValue = true → c.value.toNat ≤ (world.balance c.caller).toNat

/-- **The callee has no room for the value**, on top of what it has in the given world. -/
def Overflows (world : WorldState) (c : CallSection) : Prop :=
  c.kind.movesValue = true ∧ Word.size ≤ (world.balance c.callee).toNat + c.value.toNat

/-- **There and back**: an account loses a value and gets it back. -/
structure ThereAndBack (a : Address) (balance value : Word) (there back : AccountRow) : Prop where
  addresses : there.address = a ∧ back.address = a
  start : there.before.balance = balance
  paid : there.after.balance.toNat + value.toNat = balance.toNat
  between : back.before.balance = there.after.balance
  finish : back.after.balance = balance

variable {world : WorldState} {before after : Parties} {c c' : CallSection}

/-! ## The transfer -/

/-- A call to a precompile or to a contract is feasible. -/
theorem Announced.feasible {chain : Chain} {setting : Setting} {frame : Frame} {i : Invocation}
    (announced : Announced chain setting world frame i c) (awaits : c.scenario.AwaitsEntry) :
    c.Feasible world (.canonical chain world setting.incarnations c.caller c.callee) := by
  have proceeds : i.exceptions.any = false ∧ i.aborts.any = false := by
    cases announced.course with
    | precompile _ quiet proceeds => exact ⟨quiet, proceeds⟩
    | contract quiet proceeds => exact ⟨quiet, proceeds⟩
    | exceptional _ scenario => simp [Scenario.AwaitsEntry, scenario] at awaits
    | aborting _ _ scenario => simp [Scenario.AwaitsEntry, scenario] at awaits
    | external _ _ _ scenario => simp [Scenario.AwaitsEntry, scenario] at awaits
  have parsed := announced.parsed proceeds.1
  exact ⟨parsed.before, Snapshot.address_canonical .., Snapshot.address_canonical ..,
    Snapshot.balance_canonical .., Snapshot.balance_canonical .., parsed.payable proceeds.2⟩

/-- What is known of a call depends on its terms alone. -/
theorem Feasible.congr (feasible : c.Feasible world before) (kind : c'.kind = c.kind)
    (terms : c'.terms = c.terms) : c'.Feasible world before := by
  obtain ⟨caller, callee, value, latched⟩ := terms_eq_iff.1 terms
  constructor
  · rw [latched, feasible.latched]
  · rw [caller, feasible.caller]
  · rw [callee, feasible.callee]
  · rw [caller, feasible.paying]
  · rw [callee, feasible.paid]
  · rw [kind, value, caller]
    exact feasible.payable

/-- **The transfer of a feasible call fails exactly for want of room.** -/
theorem Feasible.transfer_exactly (feasible : c.Feasible world before) :
    Grants (c.transfer before) (fun after => ¬c.Overflows world ∧ c.Transferred before after)
      (fun v => c.Overflows world ∧
        v = .balanceOverflow c.callee (world.balance c.callee) c.value) := by
  have callee : before.callee.warmedUp.balance = world.balance c.callee := feasible.paid
  have address : before.callee.warmedUp.address = c.callee := feasible.callee
  unfold transfer Transferred Overflows
  split
  · rename_i moves
    refine Grants.bind ((Snapshot.debit_exactly ..).mono (fun _ h => h) ?_) ?_
    · rintro _ ⟨-, short⟩
      rw [feasible.paying] at short
      exact absurd (feasible.payable moves) (Nat.not_le_of_lt short)
    rintro _ ⟨left, paid, rfl⟩
    refine Grants.bind ((Snapshot.credit_exactly ..).mono (fun _ h => h) ?_) ?_
    · rintro _ ⟨rfl, full⟩
      rw [callee] at full ⊢
      rw [address]
      exact ⟨⟨moves, full⟩, rfl⟩
    rintro _ ⟨sum, received, rfl⟩
    refine ⟨fun overflows => ?_, left, sum, paid, received, rfl⟩
    have total := Word.checkedAdd_eq_some_iff.1 received
    rw [callee] at total
    exact absurd overflows.2 (Nat.not_le_of_lt (total ▸ sum.toNat_lt_size))
  · rename_i moves
    exact ⟨fun overflows => moves overflows.1, rfl⟩

/-! ## The child context -/

/-- **The child context of a feasible call can be entered** unless the callee has no room. -/
theorem Feasible.enterChild_exactly (feasible : c.Feasible world before)
    (awaits : c.scenario.AwaitsEntry) :
    Grants c.enterChild
      (fun c' => ¬c.Overflows world ∧
        ∃ after, c.Transferred before after ∧ c' = c.entered before after)
      (fun v => c.Overflows world ∧
        v = .balanceOverflow c.callee (world.balance c.callee) c.value) := by
  have exactly := feasible.transfer_exactly
  cases transferred : c.transfer before with
  | ok after =>
      rw [enterChild_eq awaits feasible.latched transferred]
      rw [transferred] at exactly
      exact ⟨exactly.1, after, exactly.2, rfl⟩
  | error v =>
      rw [enterChild_error awaits feasible.latched transferred]
      rw [transferred] at exactly
      exact exactly

/-- A call that awaits no child context takes no notice of one. -/
theorem enterChild_unexpected (passed : ¬c.scenario.AwaitsEntry) :
    c.enterChild = .error (unexpected .contextEntry) := by
  obtain ⟨precompile, contract⟩ := not_or.1 passed
  unfold enterChild
  split
  · rename_i scenario
    exact absurd scenario contract
  · rename_i scenario
    exact absurd scenario precompile
  · rfl

/-- **A contract that calls itself** pays and is paid. -/
theorem Feasible.thereAndBack (feasible : c.Feasible world before)
    (transferred : c.Transferred before after) (contract : c.scenario = .contractUndefined)
    (own : c.isSelfTransfer = true) :
    ∃ there back, (c.entered before after).accountRows = c.accountRows ++ [there, back] ∧
      ThereAndBack c.caller (world.balance c.caller) c.value there back := by
  have moves : c.kind.movesValue = true := by
    simp only [isSelfTransfer, Bool.and_eq_true] at own
    exact own.1.1
  have rows : c.entryRows before after =
      c.forwardRows ⟨before.caller, after.caller⟩ ⟨after.caller, before.caller⟩ true := by
    rw [entryRows, contract]
    dsimp only
    rw [calleeTransition, if_pos own]
  have shown := accountRows_entered c before after
  rw [rows] at shown
  rw [Transferred, if_pos moves] at transferred
  obtain ⟨left, sum, paid, -, rfl⟩ := transferred
  have rest : left.toNat + c.value.toNat = before.caller.balance.toNat :=
    Word.checkedSub_eq_some_iff.1 paid
  rw [feasible.paying] at rest
  exact ⟨_, _, shown, ⟨feasible.caller, feasible.caller⟩, feasible.paying, rest, rfl,
    feasible.paying⟩

/-- **What the entry of the child context makes of a call**, which was announced in a world as
given. -/
structure Pays (world : WorldState) (c : CallSection) : Prop where
  /-- Nothing is refused but what the callee has no room for. -/
  refused : ∀ v, c.enterChild = .error v →
    (¬c.scenario.AwaitsEntry ∧ v = unexpected .contextEntry) ∨
      (c.Overflows world ∧ v = .balanceOverflow c.callee (world.balance c.callee) c.value)
  accepted : c.scenario.AwaitsEntry → ((∃ c', c.enterChild = .ok c') ↔ ¬c.Overflows world)
  /-- A contract that calls itself pays and is paid. -/
  thereAndBack : ∀ c', c.enterChild = .ok c' → c.scenario = .contractUndefined →
    c.isSelfTransfer = true → ∃ there back, c'.accountRows = c.accountRows ++ [there, back] ∧
      ThereAndBack c.caller (world.balance c.caller) c.value there back

theorem Feasible.pays (feasible : c.Feasible world before) : c.Pays world where
  refused := by
    intro v error
    by_cases awaits : c.scenario.AwaitsEntry
    · have exactly := feasible.enterChild_exactly awaits
      rw [error] at exactly
      exact .inr exactly
    · rw [enterChild_unexpected awaits] at error
      exact .inl ⟨awaits, (Except.error.inj error).symm⟩
  accepted := by
    intro awaits
    have exactly := feasible.enterChild_exactly awaits
    cases result : c.enterChild with
    | ok c' =>
        rw [result] at exactly
        exact ⟨fun _ => exactly.1, fun _ => ⟨c', rfl⟩⟩
    | error v =>
        rw [result] at exactly
        refine ⟨?_, fun fits => absurd exactly.1 fits⟩
        rintro ⟨c', entered⟩
        cases entered
  thereAndBack := by
    intro c' entered contract own
    have exactly := feasible.enterChild_exactly (.inr contract)
    rw [entered] at exactly
    obtain ⟨-, after, transferred, rfl⟩ := exactly
    exact feasible.thereAndBack transferred contract own

end CallSection

/-! ## Drivers -/

namespace Tracer

variable {chain : Chain} {world : WorldState} {t t' : Tracer} {id : Nat}

/-- **A call keeps its terms**, whatever a driver announces. -/
theorem Latched.terms_foldl_after (latched : t.Latched) (chain : Chain) {later : List Operation}
    (remembers : .startConflation ∉ later) {c : CallSection}
    (found : t.sections[id]? = some (.call c)) :
    ∃ c', (later.foldl (Tracer.after chain) t).sections[id]? = some (.call c') ∧
      c'.kind = c.kind ∧ c'.terms = c.terms := by
  induction later generalizing t c with
  | nil => exact ⟨c, found, rfl, rfl⟩
  | cons operation later ih =>
      obtain ⟨first, rest⟩ := not_or.1 (List.mem_cons.not.1 remembers)
      have continues := latched.after chain (Ne.symm first)
      obtain ⟨_, found', continued⟩ := continues.continues id _ found
      cases continued with
      | call advances =>
          obtain ⟨c'', found'', kind, terms⟩ := ih continues.toLatched rest found'
          exact ⟨c'', found'', kind.trans advances.kind, terms.trans advances.terms⟩

/-- The tracer that an accepted call leaves behind. -/
theorem after_announceCall {i : Invocation} (accepted : announceCall chain world i t = .ok id t') :
    t.after chain (.announceCall world i) = t' := by
  refine after_of_ok ?_
  show EStateM.map _ _ _ = _
  rw [EStateM.map, accepted]

/-- **Transfers are refused for want of room only.** Take a call that was accepted, to a precompile
or to a contract, and whatever a driver announces next.  The value does not exceed what the caller
had.  The child context can be entered, as long as the call still waits for it, unless the balance
of the callee and the value do not fit into a word together; that is the only failure, and it shows
both.  A contract that calls itself is paid what it has paid. -/
theorem transfers_refused_for_want_of_room (chain : Chain) (operations : List Operation)
    (world : WorldState) (i : Invocation) (id : Nat) (t : Tracer)
    (accepted : announceCall chain world i (drive chain operations) = .ok id t)
    (later : List Operation) (remembers : .startConflation ∉ later) :
    ∃ c c', t.sections[id]? = some (.call c) ∧
      (later.foldl (after chain) t).sections[id]? = some (.call c') ∧
      c'.kind = c.kind ∧ c'.terms = c.terms ∧
      (c.scenario.AwaitsEntry →
        (c.kind.movesValue = true → c.value.toNat ≤ (world.balance c.caller).toNat) ∧
          c'.Pays world) := by
  have latched : t.Latched := by
    rw [← after_announceCall accepted]
    exact ((latched_drive chain operations).after chain (by simp)).toLatched
  have announced := (Tracing.announceCall_announced chain world i _).value accepted
  obtain ⟨-, frame, c, found, announced⟩ := announced
  obtain ⟨c', found', kind, terms⟩ := latched.terms_foldl_after chain remembers found
  refine ⟨c, c', found, found', kind, terms, fun awaits => ?_⟩
  have feasible := announced.feasible awaits
  exact ⟨feasible.payable, (feasible.congr kind terms).pays⟩

/-- A contract that calls itself with 3 of its 7 pays and is paid, even if a return is announced
that nobody waits for. -/
theorem contract_pays_itself :
    let world := WorldState.ofList [(Script.sender, { balance := Script.gwei 1000000000 }),
      (0xc0de, { balance := 7, code := [0x00] })]
    let operations : List Operation :=
      [.beginTransaction world (Script.messageCall Script.sender 0xc0de 0),
        .enterContext { address := 0xc0de, codeAddress := 0xc0de, caller := Script.sender }]
    let later : List Operation := [.reEnterContext world 2]
    ∃ id t c c' there back,
      announceCall .ethereum world (.make .call 0xc0de 3) (drive .ethereum operations) = .ok id t ∧
        (later.foldl (after .ethereum) t).sections[id]? = some (.call c) ∧
        c.enterChild = .ok c' ∧ c'.accountRows = c.accountRows ++ [there, back] ∧
        CallSection.ThereAndBack 0xc0de 7 3 there back := by
  intro world operations later
  have numbered : (announceCall .ethereum world (.make .call 0xc0de 3)).run'
      (drive .ethereum operations) = some 1 := by
    decide +kernel
  obtain ⟨t, accepted⟩ := exists_ok_of_run' numbered
  have seen : ((later.foldl (after .ethereum) ((drive .ethereum operations).after .ethereum
      (.announceCall world (.make .call 0xc0de 3)))).sections[1]?.bind Section.call?).any
        (fun c => decide (c.scenario = .contractUndefined ∧ c.isSelfTransfer = true ∧
          c.callee = 0xc0de ∧ c.caller = 0xc0de ∧ c.value = 3)) = true := by
    decide +kernel
  have awaits : (((drive .ethereum operations).after .ethereum
      (.announceCall world (.make .call 0xc0de 3))).sections[1]?.bind Section.call?).any
        (fun c => decide (c.scenario = .contractUndefined)) = true := by
    decide +kernel
  obtain ⟨c, c', found, found', -, -, pays⟩ := transfers_refused_for_want_of_room .ethereum
    operations world (.make .call 0xc0de 3) 1 t accepted later (by simp [later])
  rw [after_announceCall accepted, found] at awaits
  rw [after_announceCall accepted, found'] at seen
  obtain ⟨contract, own, callee, caller, value⟩ := of_decide_eq_true seen
  obtain ⟨-, pays⟩ := pays (.inr (of_decide_eq_true awaits))
  have room : ¬c'.Overflows world := by
    rintro ⟨-, full⟩
    rw [callee, value] at full
    exact absurd full (by decide +kernel)
  obtain ⟨c'', entered⟩ := (pays.accepted (.inr contract)).2 room
  obtain ⟨there, back, rows, thereAndBack⟩ := pays.thereAndBack c'' entered contract own
  rw [caller, value, show world.balance 0xc0de = 7 by decide +kernel] at thereAndBack
  exact ⟨1, t, c', c'', there, back, accepted, found', entered, rows, thereAndBack⟩

/-- **A contract with half of all that a word can count cannot call itself with that**, though it
can pay, and would have no more afterwards than before. -/
theorem contract_refused_by_itself :
    let half : Word := BitVec.twoPow 256 255
    let world := WorldState.ofList [(Script.sender, { balance := Script.gwei 1000000000 }),
      (0xc0de, { balance := half, code := [0x00] })]
    let entry : ContextEntry := { address := 0xc0de, codeAddress := 0xc0de, caller := 0xc0de }
    ∃ c, (drive .ethereum [.beginTransaction world (Script.messageCall Script.sender 0xc0de 0),
          .enterContext entry, .announceCall world (.make .call 0xc0de half)]).sections[1]? =
        some (.call c) ∧ c.scenario = .contractUndefined ∧ c.kind = .call ∧ c.caller = c.callee ∧
      c.value.toNat ≤ (world.balance c.caller).toNat ∧
      c.enterChild = .error (.balanceOverflow 0xc0de half half) := by
  intro half world entry
  have seen : ((drive .ethereum
      [.beginTransaction world (Script.messageCall Script.sender 0xc0de 0), .enterContext entry,
        .announceCall world (.make .call 0xc0de half)]).sections[1]?.bind Section.call?).any
        (fun c => decide (c.scenario = .contractUndefined ∧ c.kind = .call ∧
          c.caller = c.callee ∧ c.value.toNat ≤ (world.balance c.caller).toNat ∧
          c.enterChild = .error (.balanceOverflow 0xc0de half half))) = true := by
    decide +kernel
  obtain ⟨c, called, seen⟩ := (Option.any_eq_true ..).1 seen
  obtain ⟨_, found, same⟩ := Option.bind_eq_some_iff.1 called
  obtain rfl := Section.call?_eq_some_iff.1 same
  exact ⟨c, found, of_decide_eq_true seen⟩

end Tracer

end ExecutionTrace
