import ExecutionTrace.Proofs.Run.Checkpoints
import ExecutionTrace.Proofs.Settlement.Payments

/-!
# Conservation of value

No step of a run creates value, and none loses any but for the gas that a transaction burns.  While
a transaction executes code, what it has paid for gas in advance is in no balance, so it is counted
beside them.  Together they stay what they are from the start of a transaction to its end.

## Main Definitions

* `Machine.supply` — all balances, and the gas paid for in advance
* `Solvent` — the machines of a run whose supply fits into a word
* `Reachable.conserves` — a step keeps the supply, up to the gas that is burnt
* `Machine.Credits` — where a step adds to a balance
* `Machine.Accounted`, `Reachable.accounted` — that it adds to no balance otherwise
* `CompletedTransaction`, `value_is_conserved` — whole transactions

## Design Notes

A failed context puts a world back that was kept when the context was spawned.  That world has the
same balances in all as the present one, since the value only moves afterwards, so
`Machine.Balanced` says of every world that is kept what it says of the present one.

A supply that fits into a word has room for everything that is credited, since it has been debited
before.  One unit is spared: a sender could pay the largest word for a sum that is larger still.
-/

namespace ExecutionTrace

variable {chain : Chain} {m m' : Machine} {a : Action} {tx : Transaction} {gasUsed : UInt64}

/-! ## What is paid for gas -/

namespace Transaction

/-- What a sender gets back of what it has paid for gas in advance. -/
def refund (tx : Transaction) (gasUsed : UInt64) : Word :=
  Word.saturatingSub tx.upfrontGasCost (tx.gasCost gasUsed)

/-- Gas within the limit costs no more than has been paid for it in advance. -/
theorem gasCost_le_upfrontGasCost (within : gasUsed ≤ tx.gasLimit) :
    (tx.gasCost gasUsed).toNat ≤ tx.upfrontGasCost.toNat := by
  have used : (Word.ofUInt64 gasUsed).toNat ≤ (Word.ofUInt64 tx.gasLimit).toNat := by
    rw [Word.toNat_ofUInt64, Word.toNat_ofUInt64]
    exact UInt64.le_iff_toNat_le.1 within
  have product := Nat.mul_le_mul_left tx.gasPrice.toNat used
  rw [gasCost, upfrontGasCost, Word.saturatingMul, Word.saturatingMul, Word.toNat_saturate,
    Word.toNat_saturate]
  omega

theorem toNat_refund (tx : Transaction) (gasUsed : UInt64) :
    (tx.refund gasUsed).toNat = tx.upfrontGasCost.toNat - (tx.gasCost gasUsed).toNat := by
  have bound := tx.upfrontGasCost.toNat_lt_size
  rw [refund, Word.saturatingSub, Word.toNat_saturate]
  omega

/-- What a transaction takes out of circulation when it ends: the cost of its gas, less the reward
of its beneficiary. -/
def burnt (tx : Transaction) (gasUsed : UInt64) : Nat :=
  (tx.gasCost gasUsed).toNat - (tx.coinbaseReward gasUsed).toNat

/-- Paying for gas in advance adds to no balance. -/
theorem raisesNone_charge (tx : Transaction) (world : WorldState) :
    world.RaisesNone (tx.charge world) := by
  have warmed : world.RaisesNone ((world.warmUp tx.sender).warmUp tx.recipient) :=
    .of_eq fun _ => rfl
  have raised (w : WorldState) : w.RaisesNone (w.raiseNonce tx.sender) :=
    .of_eq fun _ => WorldState.balance_raiseNonce w
  unfold charge
  dsimp only
  cases pays : ((world.warmUp tx.sender).warmUp tx.recipient).debit? tx.sender
      tx.upfrontGasCost with
  | none => exact warmed.trans (raised _)
  | some paid => exact (warmed.trans (.of_debit pays)).trans (raised _)

end Transaction

/-! ## The supply of a machine -/

namespace Machine

/-- What the transaction in progress has paid for gas in advance. -/
def prepaid (m : Machine) : Nat :=
  match m.transaction? with
  | some tx => if m.skipped then 0 else tx.upfrontGasCost.toNat
  | none => 0

/-- **The supply of a machine**: all balances of its world, and what has been paid for gas in
advance. -/
def supply (m : Machine) : Nat :=
  m.world.totalBalance + m.prepaid

/-- The transaction that is in progress after a step. -/
def transactionAfter (m : Machine) : Action → Option Transaction
  | .start tx => some tx
  | .call _ => m.transaction?
  | .finish _ => m.transaction?
  | .settle _ => none

/-- What a step takes out of circulation. -/
def burns (m : Machine) : Action → Nat
  | .start _ => 0
  | .call _ => 0
  | .finish _ => 0
  | .settle gasUsed => (m.transaction?.map (·.burnt gasUsed)).getD 0

/-- The transaction in progress is charged for no more gas than its limit. -/
def Meters (m : Machine) : Action → Prop
  | .settle gasUsed => ∀ tx, m.transaction? = some tx → gasUsed ≤ tx.gasLimit
  | _ => True

/-- **A machine whose books are balanced**: its supply fits into a word, and every world that it
keeps has the same balances in all as the present one. -/
structure Balanced (m : Machine) : Prop where
  fits : m.supply < Word.size - 1
  kept : ∀ w ∈ m.checkpoints, w.totalBalance = m.world.totalBalance

theorem totalBalance_le_supply (m : Machine) : m.world.totalBalance ≤ m.supply :=
  Nat.le_add_right ..

theorem supply_of_idle (free : m.transaction? = none) : m.supply = m.world.totalBalance := by
  rw [supply, prepaid, free]
  exact Nat.add_zero _

theorem supply_of_skipped (transaction : m.transaction? = some tx) (skipped : m.skipped = true) :
    m.supply = m.world.totalBalance := by
  rw [supply, prepaid, transaction]
  dsimp only
  rw [if_pos skipped, Nat.add_zero]

theorem supply_of_executing (transaction : m.transaction? = some tx)
    (executing : m.skipped = false) :
    m.supply = m.world.totalBalance + tx.upfrontGasCost.toNat := by
  rw [supply, prepaid, transaction]
  dsimp only
  rw [if_neg (by simp [executing])]

end Machine

/-- **The machines of a run whose supply fits into a word**, with one unit to spare, and which
charges no transaction for more gas than its limit. -/
inductive Solvent (chain : Chain) : Machine → Prop
  | initial (accounts : List (Address × Account)) (outcomes : List (Address × ContextOutcome))
      (fits : (Machine.initial accounts outcomes).world.totalBalance < Word.size - 1) :
      Solvent chain (.initial accounts outcomes)
  | step {m m' : Machine} {a : Action} (before : Solvent chain m) (allowed : m.Allows a)
      (metered : m.Meters a) (succeeds : a.carryOut chain m = .ok () m') : Solvent chain m'

theorem Solvent.reachable (solvent : Solvent chain m) : Reachable chain m := by
  induction solvent with
  | initial accounts outcomes => exact .initial accounts outcomes
  | step _ allowed _ succeeds ih => exact .step ih allowed succeeds

/-! ## What a step does to the supply -/

/-- **A call moves value**, and creates none. -/
theorem CallKind.Moves.totalBalance_eq {kind : CallKind} {caller callee : Address} {value : Word}
    {world world' : WorldState} (moves : kind.Moves caller callee value world world')
    (fits : world.totalBalance < Word.size) : world'.totalBalance = world.totalBalance := by
  unfold CallKind.Moves at moves
  split at moves
  · obtain ⟨paid, pays, rfl⟩ := moves
    rw [WorldState.totalBalance_transfer pays (by simpa using fits), WorldState.totalBalance_warmUp]
  · rw [moves, WorldState.totalBalance_warmUp]

/-- What is left to the sender of a transaction once it has paid for gas covers the value. -/
theorem LaunchSection.Announced.isSome_debit {setting : Setting} {world : WorldState}
    {s : LaunchSection} {incarnations : Incarnations}
    (announced : Announced setting world tx s incarnations) :
    ((tx.charge world).debit? tx.sender tx.value).isSome = true := by
  obtain ⟨left, left', paid, paid'⟩ := Idle.debits_of_announced announced
  obtain ⟨debited, -, debtor, charged⟩ := tx.charge_eq world paid
  have enough : Word.checkedSub ((tx.charge world).balance tx.sender) tx.value = some left' := by
    rw [charged, WorldState.balance_raiseNonce, debtor, WorldState.balance_setBalance, if_pos rfl]
    exact paid'
  rw [WorldState.debit?_eq _ enough]
  rfl

/-- **The start of a transaction**: what the sender pays for gas is counted as paid in advance. -/
theorem LaunchSection.Announced.totalBalance_launch {setting : Setting} {world : WorldState}
    {s : LaunchSection} {incarnations : Incarnations}
    (announced : Announced setting world tx s incarnations)
    (fits : world.totalBalance < Word.size) :
    (tx.charge world).totalBalance + tx.upfrontGasCost.toNat = world.totalBalance ∧
      (tx.launch world).totalBalance = (tx.charge world).totalBalance := by
  obtain ⟨left, -, paid, -⟩ := Idle.debits_of_announced announced
  obtain ⟨debited, pays, -, charged⟩ := tx.charge_eq world paid
  have charge : (tx.charge world).totalBalance + tx.upfrontGasCost.toNat = world.totalBalance := by
    have rest := WorldState.totalBalance_of_debit pays
    rwa [charged, WorldState.totalBalance_raiseNonce]
  refine ⟨charge, ?_⟩
  obtain ⟨sent, gives⟩ := Option.isSome_iff_exists.1 announced.isSome_debit
  have moved : ((((tx.charge world).debit? tx.sender tx.value).getD (tx.charge world)).credit
      tx.recipient tx.value).totalBalance = (tx.charge world).totalBalance := by
    rw [gives, Option.getD_some]
    exact WorldState.totalBalance_transfer gives (by omega)
  unfold Transaction.launch
  dsimp only
  split
  · rw [WorldState.totalBalance_raiseNonce, moved]
  · exact moved

/-- A deployment changes the nonce of its recipient besides. -/
theorem Transaction.totalBalance_created (tx : Transaction) (moved : WorldState) :
    (if tx.isDeployment then moved.setNonce tx.recipient 1 else moved).totalBalance =
      moved.totalBalance := by
  split
  · exact WorldState.totalBalance_setNonce ..
  · rfl

/-- **The settlement of a transaction that ran no code** burns what is paid for gas and rewards no
one. -/
theorem Transaction.totalBalance_settle? {before final : WorldState}
    (settled : tx.settle? gasUsed before = some final)
    (solvent : before.totalBalance < Word.size - 1) :
    final.totalBalance + tx.burnt gasUsed = before.totalBalance := by
  obtain ⟨paid, moved, payments, rfl⟩ := exists_payments_of_settle? settled solvent
  have supply := payments.totalBalance_moved
  have fits := payments.rewards_fits
  have covered := tx.coinbaseReward_le_gasCost gasUsed
  have same := tx.totalBalance_created moved
  rw [WorldState.totalBalance_credit (by rwa [same]), same, burnt]
  omega

/-- **The end of a transaction that executed code**, in the world: the sender is refunded, and the
beneficiary rewarded. -/
theorem Machine.endTransaction_world (executed : m.skipped = false)
    (transaction : m.transaction? = some tx) :
    Yields (endTransaction chain gasUsed m)
      (fun _ m' => m'.world = ((m.world.credit tx.sender (tx.refund gasUsed)).credit tx.coinbase
        (tx.coinbaseReward gasUsed)).coolDown) fun _ => True := by
  unfold endTransaction
  refine Ends.get_bind ?_
  rw [transaction]
  dsimp only
  refine Ends.modify_bind ?_
  refine Ends.get_bind ?_
  dsimp only
  rw [if_neg (by simp [executed])]
  refine Ends.bind (Q := fun _ m' => m'.world = m.world.credit tx.sender (tx.refund gasUsed))
    ?_ ?_
  · unfold Machine.refund
    refine Ends.get_bind ?_
    refine ofResult_bind (Grants.any _) (fun _ _ => trivial) fun root _ => ?_
    cases root.outcome? with
    | none => trivial
    | some outcome => exact rfl
  rintro success m' world
  refine Ends.bind_ok (credit_eq ..) ?_
  refine Ends.get_bind ?_
  refine announce_bind (Q := fun _ _ => True) (F := fun _ => True) ?_ (fun _ _ => trivial)
    fun _ t _ => ?_
  · cases Tracer.endTransaction chain _ _ m'.tracer <;> trivial
  · rw [← world]
    exact rfl

section Steps

variable {older : List Section} {launch : LaunchSection} {l : Level} {outer : List Level}

/-- The world after a transaction that executed code. -/
theorem Ended.world_closed {calls : List CallSection} {outcome : ContextOutcome}
    (ended : Ended m tx older launch calls outcome)
    (succeeds : (Action.settle gasUsed).carryOut chain m = .ok () m') :
    m'.world = ((m.world.credit tx.sender (tx.refund gasUsed)).credit tx.coinbase
      (tx.coinbaseReward gasUsed)).coolDown := by
  have yields : Yields ((Action.settle gasUsed).carryOut chain m) _ _ :=
    Machine.endTransaction_world ended.executing ended.transaction
  exact yields.value succeeds

/-- **A call keeps the supply**, whatever becomes of it. -/
theorem Running.Called.totalBalance_eq {frame : Frame} {i : Invocation} {c : CallSection}
    (called : Running.Called chain m tx older launch l outer frame i c m')
    (running : Running m tx older launch l outer) (balanced : m.Balanced) :
    m'.world.totalBalance = m.world.totalBalance ∧
      ∀ w ∈ m'.checkpoints, w.totalBalance = m.world.totalBalance := by
  have fits := Nat.lt_of_le_of_lt m.totalBalance_le_supply balanced.fits
  have kept := balanced.kept
  rw [running.checkpoints] at kept
  have moved : ∀ quiet proceeds, (c.moved m.world).totalBalance = m.world.totalBalance :=
    fun quiet proceeds => (called.announced.moves quiet proceeds).totalBalance_eq (by omega)
  cases called.effect with
  | dismissed _ running' world =>
      rw [running'.checkpoints, world]
      exact ⟨rfl, kept⟩
  | aborted _ _ running' world =>
      rw [running'.checkpoints, world, WorldState.totalBalance_warmUp]
      exact ⟨rfl, kept⟩
  | immediate quiet proceeds _ _ _ running' world =>
      rw [running'.checkpoints, world]
      refine ⟨?_, kept⟩
      split
      · exact moved quiet proceeds
      · exact WorldState.totalBalance_warmUp ..
  | spawned quiet proceeds _ _ running' world =>
      rw [running'.checkpoints, world]
      exact ⟨moved quiet proceeds,
        List.forall_mem_cons.2 ⟨WorldState.totalBalance_warmUp .., kept⟩⟩

/-- What a context that ends puts back has the same balances in all. -/
theorem Running.totalBalance_worldAfter (running : Running m tx older launch l outer)
    (balanced : m.Balanced) (success : Bool) :
    (l.worldAfter m.world success).totalBalance = m.world.totalBalance := by
  rw [Level.worldAfter]
  split
  · rfl
  · refine balanced.kept l.checkpoint ?_
    rw [running.checkpoints]
    exact List.mem_cons_self ..

/-- **A finished context keeps the supply**, whether it succeeded or not. -/
theorem Running.Finished.totalBalance_eq {outcome : ContextOutcome}
    (finished : Running.Finished chain m tx older launch outcome l outer m')
    (running : Running m tx older launch l outer) (balanced : m.Balanced) :
    m'.world.totalBalance = m.world.totalBalance ∧
      ∀ w ∈ m'.checkpoints, w.totalBalance = m.world.totalBalance := by
  have kept := balanced.kept
  rw [running.checkpoints] at kept
  cases finished with
  | nested _ _ running' world =>
      rw [running'.checkpoints, world]
      exact ⟨running.totalBalance_worldAfter balanced _, (List.forall_mem_cons.1 kept).2⟩
  | root ended world =>
      rw [ended.checkpoints, world]
      refine ⟨?_, nofun⟩
      split
      · exact WorldState.totalBalance_setCode ..
      · exact running.totalBalance_worldAfter balanced _

end Steps

/-- The transaction in progress, from one step to the next. -/
theorem Taken.transaction?_eq (taken : Taken chain m a m') :
    m'.transaction? = m.transactionAfter a := by
  cases taken with
  | starts _ action begun =>
      subst action
      cases begun with
      | skipping _ skipping => exact skipping.transaction
      | running _ _ running => exact running.transaction
  | settles _ action closed =>
      subst action
      exact closed.idle.transaction
  | calls running scripted action called =>
      subst action
      obtain ⟨_, _, running', -⟩ := called.running scripted
      exact running'.transaction.trans running.transaction.symm
  | finishes running _ action finished =>
      subst action
      cases finished with
      | nested _ _ running' => exact running'.transaction.trans running.transaction.symm
      | root ended => exact ended.transaction.trans running.transaction.symm
  | ends _ action closed =>
      subst action
      exact closed.idle.transaction

/-- **A step keeps the supply**, up to the gas that is burnt when a transaction ends, and so it does
for every world that is kept. -/
theorem Reachable.conserves (reachable : Reachable chain m) (balanced : m.Balanced)
    (allowed : m.Allows a) (metered : m.Meters a) (succeeds : a.carryOut chain m = .ok () m') :
    m'.supply + m.burns a = m.supply ∧
      ∀ w ∈ m'.checkpoints, w.totalBalance = m'.world.totalBalance := by
  have fits := balanced.fits
  have part := m.totalBalance_le_supply
  have taken := reachable.taken allowed succeeds
  have transaction := taken.transaction?_eq
  -- The supply is counted by the phase of the machine: what the sender has paid in advance is
  -- outside the world from the start of a transaction until it ends.
  cases taken with
  | starts idle action begun =>
      subst action
      rw [Machine.supply_of_idle idle.transaction] at fits ⊢
      cases begun with
      | skipping _ skipping _ world =>
          rw [Machine.supply_of_skipped transaction skipping.skipped, world, skipping.checkpoints]
          refine ⟨?_, nofun⟩
          rw [Machine.burns, Nat.add_zero]
      | running _ announced running world =>
          obtain ⟨charge, launch⟩ := announced.totalBalance_launch (by omega)
          rw [Machine.supply_of_executing transaction running.executing, world,
            running.checkpoints, launch]
          refine ⟨?_, ?_⟩
          · rw [Machine.burns, Nat.add_zero, charge]
          · rintro w kept
            rw [List.mem_singleton.1 kept]
  | @settles tx older settlement gasUsed skipping action closed =>
      subst action
      obtain ⟨world, _, settled, final, -⟩ := closed.settled
      rw [Machine.supply_of_skipped skipping.transaction skipping.skipped] at fits ⊢
      rw [Machine.supply_of_idle transaction, Machine.burns, skipping.transaction, final,
        closed.idle.checkpoints]
      refine ⟨?_, nofun⟩
      rw [WorldState.totalBalance_coolDown]
      exact Transaction.totalBalance_settle? settled fits
  | calls running scripted action called =>
      subst action
      obtain ⟨same, kept⟩ := called.totalBalance_eq running balanced
      obtain ⟨_, _, running', -⟩ := called.running scripted
      rw [Machine.supply_of_executing running.transaction running.executing,
        Machine.supply_of_executing running'.transaction running'.executing, same]
      exact ⟨Nat.add_zero _, kept⟩
  | finishes running _ action finished =>
      subst action
      obtain ⟨same, kept⟩ := finished.totalBalance_eq running balanced
      have executing : m'.skipped = false := by
        cases finished with
        | nested _ _ running' => exact running'.executing
        | root ended => exact ended.executing
      rw [Machine.supply_of_executing running.transaction running.executing,
        Machine.supply_of_executing (transaction.trans running.transaction) executing, same]
      exact ⟨Nat.add_zero _, kept⟩
  | @ends tx older launch calls outcome gasUsed revertStamp ended action closed =>
      subst action
      -- What was paid in advance comes back as the refund, the reward and the gas that is burnt.
      have world := ended.world_closed succeeds
      have within := tx.gasCost_le_upfrontGasCost (metered tx ended.transaction)
      have covered := tx.coinbaseReward_le_gasCost gasUsed
      have refund := tx.toNat_refund gasUsed
      rw [Machine.supply_of_executing ended.transaction ended.executing] at fits ⊢
      have refunded : (m.world.credit tx.sender (tx.refund gasUsed)).totalBalance = _ :=
        WorldState.totalBalance_credit (by omega)
      rw [Machine.supply_of_idle transaction, Machine.burns, ended.transaction, world,
        closed.idle.checkpoints, WorldState.totalBalance_coolDown,
        WorldState.totalBalance_credit (by omega), refunded, Option.map_some, Option.getD_some,
        Transaction.burnt]
      exact ⟨by omega, nofun⟩

theorem Machine.checkpoints_initial (accounts : List (Address × Account))
    (outcomes : List (Address × ContextOutcome)) : (initial accounts outcomes).checkpoints = [] :=
  (Idle.initial accounts outcomes).checkpoints

/-- **The books of a solvent run are balanced** at every instant. -/
theorem Solvent.balanced (solvent : Solvent chain m) : m.Balanced := by
  induction solvent with
  | initial accounts outcomes fits =>
      refine ⟨?_, ?_⟩
      · rwa [Machine.supply_of_idle (Idle.initial accounts outcomes).transaction]
      · rw [Machine.checkpoints_initial]
        exact nofun
  | step before allowed metered succeeds ih =>
      obtain ⟨conserved, kept⟩ := before.reachable.conserves ih allowed metered succeeds
      have fits := ih.fits
      exact ⟨by omega, kept⟩

/-! ## Where balances are added to -/

namespace Machine

/-- **The credits of a step**, each of an amount to an account in the world of that moment. -/
inductive Credits (m : Machine) : Action → WorldState → Address → Word → Prop
  /-- The value of a transaction that executes code. -/
  | launch {tx : Transaction} {paid : WorldState} (executes : tx.requiresExecution m.world = true)
      (pays : (tx.charge m.world).debit? tx.sender tx.value = some paid) :
      Credits m (.start tx) paid tx.recipient tx.value
  /-- The value of a call. -/
  | call {i : Invocation} {frame : Frame} {callee : Address} {value : Word} {paid : WorldState}
      (current : m.tracer.contexts.currentFrame = .ok frame) (target : i.callee = .ok callee)
      (amount : i.value = .ok value) (moves : i.kind.movesValue = true)
      (pays : (m.world.warmUp callee).debit? frame.entry.address value = some paid) :
      Credits m (.call i) paid callee value
  /-- The value of a transaction that runs no code. -/
  | settlement {tx : Transaction} {gasUsed : UInt64} {paid : WorldState}
      (transaction : m.transaction? = some tx) (skipped : m.skipped = true)
      (pays : m.world.debit? tx.sender (Word.saturatingAdd tx.value (tx.gasCost gasUsed)) =
        some paid) :
      Credits m (.settle gasUsed) (paid.raiseNonce tx.sender) tx.recipient tx.value
  /-- The reward of the beneficiary of such a transaction. -/
  | rewardOfSettled {tx : Transaction} {gasUsed : UInt64} {paid moved : WorldState}
      (transaction : m.transaction? = some tx) (skipped : m.skipped = true)
      (pays : m.world.debit? tx.sender (Word.saturatingAdd tx.value (tx.gasCost gasUsed)) =
        some paid)
      (gives : moved = (paid.raiseNonce tx.sender).credit tx.recipient tx.value) :
      Credits m (.settle gasUsed)
        (if tx.isDeployment then moved.setNonce tx.recipient 1 else moved) tx.coinbase
        (tx.coinbaseReward gasUsed)
  /-- What is left of what has been paid for gas. -/
  | refund {tx : Transaction} {gasUsed : UInt64} (transaction : m.transaction? = some tx)
      (executed : m.skipped = false) :
      Credits m (.settle gasUsed) m.world tx.sender (tx.refund gasUsed)
  /-- The reward of the beneficiary of a transaction that has executed code. -/
  | rewardOfRefunded {tx : Transaction} {gasUsed : UInt64} (transaction : m.transaction? = some tx)
      (executed : m.skipped = false) :
      Credits m (.settle gasUsed) (m.world.credit tx.sender (tx.refund gasUsed)) tx.coinbase
        (tx.coinbaseReward gasUsed)

/-- **Whatever is credited has been debited before**, so the supply has room for it. -/
theorem Balanced.credit_fits {world : WorldState} {b : Address} {amount : Word}
    (balanced : m.Balanced) (metered : m.Meters a) (credits : m.Credits a world b amount) :
    world.totalBalance + amount.toNat < Word.size := by
  have fits := balanced.fits
  have part := m.totalBalance_le_supply
  cases credits with
  | @launch tx paid _ pays =>
      have taken := WorldState.totalBalance_of_debit pays
      have charge := (tx.raisesNone_charge m.world).totalBalance_le
      omega
  | call _ _ _ _ pays =>
      have taken := WorldState.totalBalance_of_debit pays
      rw [WorldState.totalBalance_warmUp] at taken
      omega
  | @settlement tx gasUsed paid transaction skipped pays =>
      rw [supply_of_skipped transaction skipped] at fits
      have payments : tx.Payments gasUsed m.world (paid.raiseNonce tx.sender) _ _ :=
        ⟨⟨paid, pays, rfl⟩, rfl, rfl, fits⟩
      exact payments.receives_fits
  | @rewardOfSettled tx gasUsed paid moved transaction skipped pays gives =>
      rw [supply_of_skipped transaction skipped] at fits
      have payments : tx.Payments gasUsed m.world (paid.raiseNonce tx.sender) moved _ :=
        ⟨⟨paid, pays, rfl⟩, gives, rfl, fits⟩
      rw [tx.totalBalance_created]
      exact payments.rewards_fits
  | @refund tx gasUsed transaction executed =>
      rw [supply_of_executing transaction executed] at fits
      have refund := tx.toNat_refund gasUsed
      omega
  | @rewardOfRefunded tx gasUsed transaction executed =>
      rw [supply_of_executing transaction executed] at fits
      have refund := tx.toNat_refund gasUsed
      have within := tx.gasCost_le_upfrontGasCost (metered tx transaction)
      have covered := tx.coinbaseReward_le_gasCost gasUsed
      rw [WorldState.totalBalance_credit (by omega)]
      omega

/-- **The worlds that a step accounts for.** Starting from the world before it, a step raises a
balance by one of its credits only; a context that fails puts a world back that was kept. -/
inductive Accounted (m : Machine) (a : Action) : WorldState → Prop
  | before : Accounted m a m.world
  | restored {outcome : ContextOutcome} {world : WorldState} (finishes : a = .finish outcome)
      (failed : outcome.success = false) (kept : world ∈ m.checkpoints) : Accounted m a world
  | lowered {world world' : WorldState} (accounted : Accounted m a world)
      (raises : world.RaisesNone world') : Accounted m a world'
  | credited {world : WorldState} {b : Address} {amount : Word} (accounted : Accounted m a world)
      (credits : m.Credits a world b amount) : Accounted m a (world.credit b amount)

/-- A change of anything but balances. -/
theorem Accounted.congr {world world' : WorldState} (accounted : m.Accounted a world)
    (same : ∀ b, world'.balance b = world.balance b) : m.Accounted a world' :=
  accounted.lowered (.of_eq same)

/-- **The start of a transaction** credits the value that it sends. -/
theorem Accounted.launch (executes : tx.requiresExecution m.world = true)
    (payable : ((tx.charge m.world).debit? tx.sender tx.value).isSome = true) :
    m.Accounted (.start tx) (tx.launch m.world) := by
  obtain ⟨paid, pays⟩ := Option.isSome_iff_exists.1 payable
  have moved : m.Accounted (.start tx) (paid.credit tx.recipient tx.value) :=
    ((before.lowered (tx.raisesNone_charge m.world)).lowered (.of_debit pays)).credited
      (.launch executes pays)
  unfold Transaction.launch
  dsimp only
  rw [pays, Option.getD_some]
  split
  · exact moved.congr fun _ => WorldState.balance_raiseNonce _
  · exact moved

/-- **A call** credits the value that it moves. -/
theorem Accounted.call {i : Invocation} {frame : Frame} {callee : Address} {value : Word}
    {world : WorldState} (current : m.tracer.contexts.currentFrame = .ok frame)
    (target : i.callee = .ok callee) (amount : i.value = .ok value)
    (moves : i.kind.Moves frame.entry.address callee value m.world world) :
    m.Accounted (.call i) world := by
  have warmed : m.Accounted (.call i) (m.world.warmUp callee) := before.congr fun _ => rfl
  unfold CallKind.Moves at moves
  split at moves
  · rename_i movesValue
    obtain ⟨paid, pays, rfl⟩ := moves
    exact (warmed.lowered (.of_debit pays)).credited (.call current target amount movesValue pays)
  · rw [moves]
    exact warmed

/-- **The settlement of a transaction that ran no code** credits its value and rewards the
beneficiary. -/
theorem Accounted.settlement {gasUsed : UInt64} {final : WorldState}
    (transaction : m.transaction? = some tx) (skipped : m.skipped = true)
    (settled : tx.settle? gasUsed m.world = some final) :
    m.Accounted (.settle gasUsed) final := by
  obtain ⟨paid, pays, rfl⟩ := Option.map_eq_some_iff.1 settled
  have raised : m.Accounted (.settle gasUsed) (paid.raiseNonce tx.sender) :=
    (before.lowered (.of_debit pays)).congr fun _ => WorldState.balance_raiseNonce _
  have moved := raised.credited (.settlement transaction skipped pays)
  refine credited ?_ (.rewardOfSettled transaction skipped pays rfl)
  split
  · exact moved.congr fun b => WorldState.balance_setNonce _ tx.recipient b 1
  · exact moved

/-- **The end of a transaction that executed code** refunds the sender and rewards the
beneficiary. -/
theorem Accounted.refunded {gasUsed : UInt64} (transaction : m.transaction? = some tx)
    (executed : m.skipped = false) :
    m.Accounted (.settle gasUsed) ((m.world.credit tx.sender (tx.refund gasUsed)).credit tx.coinbase
      (tx.coinbaseReward gasUsed)) :=
  (before.credited (.refund transaction executed)).credited (.rewardOfRefunded transaction executed)

end Machine

section Accounting

variable {older : List Section} {launch : LaunchSection} {l : Level} {outer : List Level}

/-- The world after a call, whatever became of it. -/
theorem Running.Called.accounted {frame : Frame} {i : Invocation} {aborts : AbortFlags}
    {c : CallSection}
    (called : Running.Called chain m tx older launch l outer frame { i with aborts } c m')
    (running : Running m tx older launch l outer) : m.Accounted (.call i) m'.world := by
  have current : m.tracer.contexts.currentFrame = .ok frame :=
    ContextTree.currentFrame_eq_ok (called.number ▸ running.current) called.found
  have warmed : m.Accounted (.call i) (m.world.warmUp c.callee) :=
    Machine.Accounted.before.congr fun _ => rfl
  have moved (quiet : i.exceptions.any = false) (proceeds : aborts.any = false) :
      m.Accounted (.call i) (c.moved m.world) :=
    .call current (called.announced.parsed quiet).callee (called.announced.parsed quiet).value
      (called.announced.moves quiet proceeds)
  cases called.effect with
  | dismissed _ _ world =>
      rw [world]
      exact .before
  | aborted _ _ _ world =>
      rw [world]
      exact warmed
  | immediate quiet proceeds _ _ _ _ world =>
      rw [world]
      split
      · exact moved quiet proceeds
      · exact warmed
  | spawned quiet proceeds _ _ _ world =>
      rw [world]
      exact moved quiet proceeds

/-- The world after a context has ended. -/
theorem Running.Finished.accounted {outcome : ContextOutcome}
    (finished : Running.Finished chain m tx older launch outcome l outer m')
    (running : Running m tx older launch l outer) : m.Accounted (.finish outcome) m'.world := by
  have left : m.Accounted (.finish outcome) (l.worldAfter m.world outcome.success) := by
    rw [Level.worldAfter]
    split
    · exact .before
    · rename_i failed
      refine .restored rfl (Bool.eq_false_iff.2 failed) ?_
      rw [running.checkpoints]
      exact List.mem_cons_self ..
  cases finished with
  | nested _ _ _ world =>
      rw [world]
      exact left
  | root _ world =>
      rw [world]
      split
      · exact Machine.Accounted.before.congr fun b =>
          WorldState.balance_setCode m.world tx.recipient b outcome.output
      · exact left

/-- **Whatever a step of a run adds to a balance is one of its credits.** -/
theorem Reachable.accounted (reachable : Reachable chain m) (allowed : m.Allows a)
    (succeeds : a.carryOut chain m = .ok () m') : m.Accounted a m'.world := by
  cases reachable.taken allowed succeeds with
  | starts _ action begun =>
      subst action
      cases begun with
      | skipping _ _ _ world =>
          rw [world]
          exact .before
      | running executes announced _ world =>
          rw [world]
          exact .launch executes announced.isSome_debit
  | settles skipping action closed =>
      subst action
      obtain ⟨world, _, settled, final, -⟩ := closed.settled
      rw [final]
      exact (Machine.Accounted.settlement skipping.transaction skipping.skipped settled).congr
        fun _ => rfl
  | calls running _ action called =>
      subst action
      exact called.accounted running
  | finishes running _ action finished =>
      subst action
      exact finished.accounted running
  | @ends tx older launch calls outcome gasUsed revertStamp ended action closed =>
      subst action
      rw [ended.world_closed succeeds]
      exact (Machine.Accounted.refunded ended.transaction ended.executing).congr fun _ => rfl

end Accounting

/-! ## Whole transactions -/

/-- **A transaction of a solvent run**, from before its start to after its end. -/
structure CompletedTransaction (chain : Chain) where
  tx : Transaction
  /-- Before the transaction starts. -/
  idle : Machine
  /-- After it has started. -/
  begun : Machine
  /-- Before it is ended. -/
  closing : Machine
  gasUsed : UInt64
  /-- After it has been ended. -/
  closed : Machine
  solvent : Solvent chain idle
  free : idle.Allows (.start tx)
  starts : (Action.start tx).carryOut chain idle = .ok () begun
  runs : Executes chain begun closing
  metered : gasUsed ≤ tx.gasLimit
  ends : (Action.settle gasUsed).carryOut chain closing = .ok () closed

/-- A step of a solvent run. -/
theorem Solvent.taken (solvent : Solvent chain m) (allowed : m.Allows a) (metered : m.Meters a)
    (succeeds : a.carryOut chain m = .ok () m') :
    Solvent chain m' ∧ m'.transaction? = m.transactionAfter a ∧ m'.supply + m.burns a = m.supply :=
  ⟨.step solvent allowed metered succeeds,
    (solvent.reachable.taken allowed succeeds).transaction?_eq,
    (solvent.reachable.conserves solvent.balanced allowed metered succeeds).1⟩

/-- A step in the middle of a transaction. -/
theorem Solvent.inner (solvent : Solvent chain m) (transaction : m.transaction? = some tx)
    (inner : a.isInner = true) (succeeds : a.carryOut chain m = .ok () m') :
    Solvent chain m' ∧ m'.transaction? = some tx ∧ m'.supply = m.supply := by
  have busy : m.transaction?.isSome = true := Option.isSome_iff_exists.2 ⟨tx, transaction⟩
  cases a with
  | start tx => cases inner
  | settle gasUsed => cases inner
  | call i =>
      have allowed : m.Allows (.call i) := busy
      obtain ⟨solvent', same, supply⟩ := solvent.taken allowed trivial succeeds
      rw [Machine.burns, Nat.add_zero] at supply
      exact ⟨solvent', same.trans transaction, supply⟩
  | finish outcome =>
      have allowed : m.Allows (.finish outcome) := busy
      obtain ⟨solvent', same, supply⟩ := solvent.taken allowed trivial succeeds
      rw [Machine.burns, Nat.add_zero] at supply
      exact ⟨solvent', same.trans transaction, supply⟩

/-- **While a transaction executes code** its supply stays what it is. -/
theorem Solvent.executes (solvent : Solvent chain m) (transaction : m.transaction? = some tx)
    (executes : Executes chain m m') :
    Solvent chain m' ∧ m'.transaction? = some tx ∧ m'.supply = m.supply := by
  induction executes with
  | refl => exact ⟨solvent, transaction, rfl⟩
  | call _ succeeds ih =>
      obtain ⟨solvent, transaction, supply⟩ := ih
      obtain ⟨solvent', transaction', supply'⟩ := solvent.inner transaction rfl succeeds
      exact ⟨solvent', transaction', supply'.trans supply⟩
  | finish _ succeeds ih =>
      obtain ⟨solvent, transaction, supply⟩ := ih
      obtain ⟨solvent', transaction', supply'⟩ := solvent.inner transaction rfl succeeds
      exact ⟨solvent', transaction', supply'.trans supply⟩

namespace CompletedTransaction

/-- A transaction takes out of circulation what it burns, and nothing else. -/
theorem totalBalance_closed (run : CompletedTransaction chain) :
    run.closed.world.totalBalance + run.tx.burnt run.gasUsed = run.idle.world.totalBalance := by
  obtain ⟨solvent, transaction, started⟩ := run.solvent.taken run.free trivial run.starts
  obtain ⟨solvent', transaction', executed⟩ := solvent.executes transaction run.runs
  have metered : run.closing.Meters (.settle run.gasUsed) := by
    rintro tx inProgress
    obtain rfl := Option.some.inj (transaction'.symm.trans inProgress)
    exact run.metered
  have allowed : run.closing.Allows (.settle run.gasUsed) :=
    Option.isSome_iff_exists.2 ⟨run.tx, transaction'⟩
  obtain ⟨-, closed, ended⟩ := solvent'.taken allowed metered run.ends
  rw [Machine.supply_of_idle closed, Machine.burns, transaction', Option.map_some,
    Option.getD_some] at ended
  rw [Machine.burns, Nat.add_zero, Machine.supply_of_idle run.free] at started
  rw [ended, executed, started]

end CompletedTransaction

/-- **The machine conserves value.** A transaction of a run whose balances fit into a word takes
out of circulation the cost of its gas less the reward of its beneficiary, and so never adds to it,
whatever its script is and whichever of its parties are one account.  No credit saturates, and a
step of a run adds to a balance by these credits only. -/
theorem value_is_conserved (chain : Chain) :
    (∀ run : CompletedTransaction chain,
      run.closed.world.totalBalance + (run.tx.gasCost run.gasUsed).toNat =
          run.idle.world.totalBalance + (run.tx.coinbaseReward run.gasUsed).toNat ∧
        run.closed.world.totalBalance ≤ run.idle.world.totalBalance) ∧
    (∀ m a world b amount, Solvent chain m → m.Meters a → m.Credits a world b amount →
      ((world.credit b amount).balance b).toNat = (world.balance b).toNat + amount.toNat) ∧
    (∀ m a m', Reachable chain m → m.Allows a → a.carryOut chain m = .ok () m' →
      m.Accounted a m'.world) := by
  refine ⟨fun run => ?_, fun m a world b amount solvent metered credits => ?_,
    fun m a m' reachable allowed succeeds => reachable.accounted allowed succeeds⟩
  · have conserved := run.totalBalance_closed
    have covered := run.tx.coinbaseReward_le_gasCost run.gasUsed
    rw [Transaction.burnt] at conserved
    omega
  · have fits : Word.checkedAdd (world.balance b) amount = _ :=
      WorldState.checkedAdd_of_fits (solvent.balanced.credit_fits metered credits)
    rw [WorldState.balance_credit fits]
    exact Word.checkedAdd_eq_some_iff.1 fits

/-- A contract pays another one twice, and the second payment is undone. -/
theorem value_is_conserved_by_payments : ∃ tx : Transaction,
    (∃ run : CompletedTransaction .ethereum, run.tx = tx ∧ run.idle = Script.stage ∧
      run.closed.world.totalBalance + (tx.gasCost run.gasUsed).toNat =
          Script.stage.world.totalBalance + (tx.coinbaseReward run.gasUsed).toNat ∧
        Script.stage.Accounted (.start tx) run.begun.world) ∧
    (∃ paid, Script.stage.Credits (.start tx) paid 0xc0de 5 ∧
      ((paid.credit 0xc0de 5).balance 0xc0de).toNat = (paid.balance 0xc0de).toNat + 5) := by
  let tx := Script.messageCall Script.sender 0xc0de 5
  have solvent : Solvent .ethereum Script.stage := by
    refine .initial _ _ ?_
    exact (WorldState.totalBalance_ofList_le _).trans_lt (by decide +kernel)
  obtain ⟨transactions, credits, accounts⟩ := value_is_conserved .ethereum
  refine ⟨tx, ?_, ?_⟩
  · have played : ((Script.stage.play .ethereum [.start tx]).any fun begun =>
        (begun.play .ethereum (Script.calledTwice ++ [.finish (.succeeded [])])).any fun closing =>
          (closing.play .ethereum [.settle 30000]).isSome) = true := by
      decide +kernel
    simp only [Option.any_eq_true, Option.isSome_iff_exists] at played
    obtain ⟨begun, starts, closing, runs, closed, ends⟩ := played
    obtain ⟨free, starts⟩ := Machine.carryOut_of_play starts
    obtain ⟨-, ends⟩ := Machine.carryOut_of_play ends
    let run : CompletedTransaction .ethereum := ⟨tx, Script.stage, begun, closing, 30000, closed,
      solvent, free, starts, .play rfl runs, by decide, ends⟩
    exact ⟨run, rfl, rfl, (transactions run).1, accounts _ _ _ solvent.reachable free starts⟩
  · have payable : ((tx.charge Script.stage.world).debit? tx.sender tx.value).isSome = true := by
      decide +kernel
    obtain ⟨paid, pays⟩ := Option.isSome_iff_exists.1 payable
    have launch : Script.stage.Credits (.start tx) paid 0xc0de 5 := .launch (by decide +kernel) pays
    exact ⟨paid, launch, credits _ (.start tx) _ _ _ solvent trivial launch⟩

end ExecutionTrace
