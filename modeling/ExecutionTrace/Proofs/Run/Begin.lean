import ExecutionTrace.Proofs.Run.Levels

/-!
# Starting a transaction

What the start of a transaction leads to: one that executes code has its root context active, and
one that runs none waits for its end.

## Main Definitions

* `Transaction.charge`, `Transaction.launch` — the world before and after the value has moved
* `Idle.Begun` — what the start of a transaction leads to
* `Idle.beginTransaction_yields` — that it does, or that the transaction is to blame
-/

namespace ExecutionTrace

namespace Transaction

variable (tx : Transaction) (world : WorldState)

/-- **The world that a failed transaction puts back**: its sender has paid for gas. -/
def charge : WorldState :=
  let warmed := (world.warmUp tx.sender).warmUp tx.recipient
  ((warmed.debit? tx.sender tx.upfrontGasCost).getD warmed).raiseNonce tx.sender

/-- **The world that the root context starts in**: the value has moved as well. -/
def launch : WorldState :=
  let charged := tx.charge world
  let moved := ((charged.debit? tx.sender tx.value).getD charged).credit tx.recipient tx.value
  if tx.isDeployment then moved.raiseNonce tx.recipient else moved

/-- The root context of a transaction. -/
def rootEntry : ContextEntry where
  address := tx.recipient
  codeAddress := tx.recipient
  caller := tx.sender
  value := tx.value
  isDeployment := tx.isDeployment

/-- What a sender that can pay for gas is left with. -/
theorem charge_eq {left : Word}
    (paid : Word.checkedSub (world.balance tx.sender) tx.upfrontGasCost = some left) :
    ∃ debited, ((world.warmUp tx.sender).warmUp tx.recipient).debit? tx.sender tx.upfrontGasCost =
        some debited ∧
      debited = ((world.warmUp tx.sender).warmUp tx.recipient).setBalance tx.sender left ∧
      tx.charge world = debited.raiseNonce tx.sender := by
  have debited := WorldState.debit?_eq ((world.warmUp tx.sender).warmUp tx.recipient) paid
  refine ⟨_, debited, rfl, ?_⟩
  unfold charge
  dsimp only
  rw [debited]
  rfl

theorem isWarm_charge (a : Address) :
    (tx.charge world).isWarm a = ((world.warmUp tx.sender).warmUp tx.recipient).isWarm a :=
  WorldState.isWarm_debit ..

theorem isWarm_launch (a : Address) : (tx.launch world).isWarm a = (tx.charge world).isWarm a := by
  unfold launch
  dsimp only
  split
  · exact WorldState.isWarm_debit ..
  · exact WorldState.isWarm_debit ..

end Transaction

/-! ## The announcements -/

namespace Tracer

variable {t : Tracer} {chain : Chain} {world : WorldState} {tx : Transaction}

/-- **The announcement of a transaction** adds a section. -/
theorem beginTransaction_yields (attuned : t.Attuned) (quiet : t.incarnations.Quiet) :
    Yields (Tracer.beginTransaction chain world tx t)
      (fun _ t' => t'.Attuned ∧
        if tx.requiresExecution world then
          ∃ s incarnations, LaunchSection.Announced (t.beginSetting tx) world tx s incarnations ∧
            t'.toSetting = { t.beginSetting tx with incarnations } ∧
            t'.sections.toList = t.sections.toList ++ [.launch s]
        else
          ∃ s incarnations,
            SettlementSection.Announced chain (t.beginSetting tx) world tx s incarnations ∧
            t'.toSetting = { t.beginSetting tx with incarnations } ∧
            t'.sections.toList = t.sections.toList ++ [.settlement s])
      (fun v => ¬v.IsDisagreement) := by
  cases executes : tx.requiresExecution world with
  | true =>
      refine (t.beginTransaction_launches chain executes).mono ?_
        fun v _ h => h.2.blameless fun a _ => quiet a
      rintro _ _ ⟨-, -, s, incarnations, announced, rfl⟩
      have empty : s.trace.isEmpty = true := by
        rw [announced.trace]
        rfl
      rw [if_pos rfl]
      refine ⟨?_, s, incarnations, announced, rfl, Array.toList_push ..⟩
      refine Tracer.Attuned.addSection (t := { t with
        stamp := t.stamp + 1
        contexts := {}
        transaction? := some tx
        incarnations }) attuned (by simp [LaunchSection.awaited]) fun e => ?_
      show e ∈ LaunchSection.awaited ↔ e ∈ s.awaits
      rw [LaunchSection.awaits, if_pos empty, announced.root]
      rfl
  | false =>
      refine (t.beginTransaction_settles chain executes).mono ?_
        fun v _ h => h.2.blameless fun a _ => quiet a
      rintro _ _ ⟨-, -, s, incarnations, announced, rfl⟩
      have empty : s.trace.isEmpty = true := announced.isEmpty_trace
      rw [if_neg Bool.false_ne_true]
      refine ⟨?_, s, incarnations, announced, rfl, Array.toList_push ..⟩
      refine Tracer.Attuned.addSection (t := { t with
        stamp := t.stamp + 1
        contexts := {}
        transaction? := some tx
        incarnations }) attuned (by simp [SettlementSection.awaited]) fun e => ?_
      show e ∈ SettlementSection.awaited ↔ e ∈ s.awaits
      rw [SettlementSection.awaits, if_pos empty]
      rfl

/-- **The root context is entered** on behalf of the launch section. -/
theorem enterRoot_yields {older : List Section} {s : LaunchSection} {entry : ContextEntry}
    {E : Violation → Prop} (attuned : t.Attuned) (transaction : t.transaction?.isSome)
    (contexts : t.contexts = {}) (sections : t.sections.toList = older ++ [.launch s])
    (silent : ∀ s ∈ older, s.awaits = []) (empty : s.trace.isEmpty = true)
    (root : s.root? = none) :
    Yields (Tracer.enterContext chain entry t)
      (fun _ t' => t'.toSetting = { t.toSetting with contexts := t.contexts.enter entry } ∧
        ∃ row, Tracing t' older { s with root? := some row } []) E := by
  let t₁ : Tracer := { t with contexts := t.contexts.enter entry }
  let row : ContextRow := .initializeRoot 1 entry.address entry.codeAddress
  let entered : LaunchSection := { s with root? := some row }
  have waits : (Section.launch s).awaits = [.contextEntry, .transactionEnd] := by
    show s.awaits = _
    rw [LaunchSection.awaits, if_pos empty, root]
    rfl
  have waits' : entered.awaits = [.transactionEnd] := by
    rw [LaunchSection.awaits, if_pos empty]
    rfl
  have current : t₁.contexts.currentFrame = .ok (t.contexts.newFrame entry) := by
    show (t.contexts.enter entry).currentFrame = _
    rw [contexts]
    rfl
  have reaction : s.enterRoot t₁.toSetting = .ok entered := by
    unfold LaunchSection.enterRoot
    rw [current, contexts]
    rfl
  unfold Tracer.enterContext
  refine Ends.bind (Tracing.requireTransaction_yields transaction) ?_
  rintro _ t rfl
  refine Ends.get_bind ?_
  refine Ends.modify_bind ?_
  have attuned₁ : t₁.Attuned := attuned
  -- Only the launch section waits for a context to be entered.
  have nobody : ∀ r ∈ older ++ [], .contextEntry ∉ r.awaits := by
    intro r hr
    rw [silent r (List.append_nil older ▸ hr)]
    exact List.not_mem_nil
  have enters : Yields (Tracer.fire chain .contextEntry t₁)
      (fun _ t' => t'.toSetting = t₁.toSetting ∧ t'.Attuned ∧
        ∃ s', s' = .launch entered ∧ t'.sections.toList = older ++ [s']) E := by
    refine attuned₁.fire_only sections nobody (by simp [waits, Occurrence.event]) ?_ ?_
    · show Yields (Section.replace .launch s (s.enterRoot t₁.toSetting)) _ _
      rw [reaction]
      exact rfl
    · rintro _ rfl e
      rw [waits]
      show e ∈ entered.awaits ↔ _
      rw [waits']
      refine Section.mem_iff_of_filter_ne ?_ e
      simp [Occurrence.event]
  refine Ends.bind enters ?_
  rintro _ t' ⟨setting, attuned', _, rfl, sections'⟩
  exact ⟨setting, row, sections', attuned', silent, waits'⟩

end Tracer

/-! ## The start -/

namespace Idle

variable {m : Machine} {chain : Chain} {tx : Transaction}

/-- **What the start of a transaction leads to.** -/
inductive Begun (chain : Chain) (m : Machine) (tx : Transaction) (m' : Machine) : Prop
  /-- The transaction runs no code. -/
  | skipping {settlement : SettlementSection} {incarnations : Incarnations}
      (skips : tx.requiresExecution m.world = false)
      (skipping : Skipping m' tx m.tracer.sections.toList settlement)
      (announced : SettlementSection.Announced chain (m.tracer.beginSetting tx) m.world tx
        settlement incarnations)
      (world : m'.world = m.world) (stamp : m'.tracer.stamp = m.tracer.stamp + 1)
      (incarnations : m'.tracer.incarnations = incarnations)
      (contexts : m'.tracer.contexts = {})
  /-- The transaction executes code, and its root context is active. -/
  | running {s : LaunchSection} {row : ContextRow} {incarnations : Incarnations}
      (executes : tx.requiresExecution m.world = true)
      (announced : LaunchSection.Announced (m.tracer.beginSetting tx) m.world tx s incarnations)
      (running : Running m' tx m.tracer.sections.toList { s with root? := some row }
        ⟨LaunchSection.rootContext, tx.rootEntry, tx.charge m.world, none, []⟩ [])
      (world : m'.world = tx.launch m.world) (stamp : m'.tracer.stamp = m.tracer.stamp + 1)
      (incarnations : m'.tracer.incarnations = incarnations)
      (contexts : m'.tracer.contexts = ({} : ContextTree).enter tx.rootEntry)

/-- What the sender pays for gas and what it sends, in terms of the world. -/
theorem debits_of_announced {setting : Setting} {world : WorldState} {s : LaunchSection}
    {incarnations : Incarnations}
    (announced : LaunchSection.Announced setting world tx s incarnations) :
    ∃ left left', Word.checkedSub (world.balance tx.sender) tx.upfrontGasCost = some left ∧
      Word.checkedSub left tx.value = some left' := by
  obtain ⟨left, paid, charged⟩ := announced.charged
  obtain ⟨left', paid', -⟩ := announced.debited
  rw [announced.sender, Snapshot.capture_eq] at paid
  rw [charged] at paid'
  exact ⟨left, left', paid, paid'⟩

/-- The levels of a transaction whose root context has just been entered. -/
theorem running_of_entered (idle : Idle m) (executes : tx.requiresExecution m.world = true)
    {s : LaunchSection} {incarnations : Incarnations} {launch : LaunchSection}
    (announced : LaunchSection.Announced (m.tracer.beginSetting tx) m.world tx s incarnations)
    {t : Tracer}
    (setting : t.toSetting = { m.tracer.beginSetting tx with
      contexts := ({} : ContextTree).enter tx.rootEntry
      incarnations })
    (tracing : Tracing t m.tracer.sections.toList launch []) :
    Running
      { m with
        tracer := t
        world := tx.launch m.world
        checkpoints := tx.charge m.world :: m.checkpoints
        transaction? := some tx
        skipped := !tx.requiresExecution m.world }
      tx m.tracer.sections.toList launch
      ⟨LaunchSection.rootContext, tx.rootEntry, tx.charge m.world, none, []⟩ [] := by
  have contexts : t.contexts = ({} : ContextTree).enter tx.rootEntry := by rw [setting]
  refine ⟨rfl, ?_, ?_, tracing, ?_, ?_, ?_, ?_, ?_, ?_, ?_, ?_, ?_⟩
  · show t.transaction? = some tx
    rw [setting]
    rfl
  · simp [executes]
  · rw [contexts]
    exact ContextTree.wellFormed_empty.enter _
  · rw [contexts]
    exact ContextTree.truthful_empty.enter _ nofun
  · rw [contexts]
    rfl
  · show Stacked t.contexts tx t.contexts.nextId _
    rw [contexts]
    exact .root ⟨rfl, Nat.lt_succ_self 1, .nil _ _ _⟩ rfl rfl rfl rfl
  · show tx.charge m.world :: m.checkpoints = _
    rw [idle.checkpoints]
    rfl
  · intro x hx
    cases hx
  · intro x hx
    obtain rfl := List.mem_singleton.1 hx
    show (tx.launch m.world).isWarm tx.recipient = true
    rw [Transaction.isWarm_launch, Transaction.isWarm_charge, WorldState.isWarm_warmUp]
    simp
  · exact List.pairwise_singleton ..
  · intro a deploying
    have same : t.incarnations = incarnations := by rw [setting]
    have deploying : incarnations.isDeploying a = true := same ▸ deploying
    have effect := announced.incarnations
    -- Nothing is under construction between two transactions, so now it is the recipient at most.
    by_cases deploys : tx.isDeployment = true
    · refine ⟨deploys, ?_⟩
      rw [if_pos deploys] at effect
      rw [effect.2, Incarnations.isDeploying_set] at deploying
      by_contra other
      rw [if_neg (Ne.symm other)] at deploying
      have quiet : (m.tracer.beginSetting tx).incarnations.isDeploying a = false := idle.quiet a
      rw [quiet] at deploying
      cases deploying
    · rw [if_neg deploys] at effect
      have quiet : incarnations.isDeploying a = false := by
        rw [effect]
        exact idle.quiet a
      rw [quiet] at deploying
      cases deploying

/-- The levels of a transaction that runs no code, of which there are none. -/
theorem skipping_of_announced (idle : Idle m) (skips : tx.requiresExecution m.world = false)
    {settlement : SettlementSection} {incarnations : Incarnations} {t : Tracer}
    (attuned : t.Attuned)
    (announced : SettlementSection.Announced chain (m.tracer.beginSetting tx) m.world tx
      settlement incarnations)
    (setting : t.toSetting = { m.tracer.beginSetting tx with incarnations })
    (sections : t.sections.toList = m.tracer.sections.toList ++ [.settlement settlement]) :
    Skipping
      { m with
        tracer := t
        transaction? := some tx
        skipped := !tx.requiresExecution m.world }
      tx m.tracer.sections.toList settlement where
  transaction := rfl
  tracing := by
    show t.transaction? = some tx
    rw [setting]
    rfl
  skipped := by simp [skips]
  sections := sections
  attuned := attuned
  silent s hs := idle.silent s (Array.mem_toList_iff.1 hs)
  waits := announced.isEmpty_trace
  contexts := by
    show t.contexts.current? = none
    rw [setting]
    rfl
  checkpoints := idle.checkpoints
  quiet := by
    show t.incarnations.Quiet
    rw [setting]
    exact announced.quiet idle.quiet

/-- **The root context is entered** once the sender has paid. -/
theorem enterContext_yields (idle : Idle m) (executes : tx.requiresExecution m.world = true)
    {s : LaunchSection} {incarnations : Incarnations}
    (announced : LaunchSection.Announced (m.tracer.beginSetting tx) m.world tx s incarnations)
    {t : Tracer} (attuned : t.Attuned)
    (setting : t.toSetting = { m.tracer.beginSetting tx with incarnations })
    (sections : t.sections.toList = m.tracer.sections.toList ++ [.launch s]) (id : Nat)
    {E : Fault → Prop} :
    Yields ((do
        let _ ← Machine.announce (Tracer.enterContext chain tx.rootEntry)
        return id : Step Nat)
      { m with
        tracer := t
        world := tx.launch m.world
        checkpoints := tx.charge m.world :: m.checkpoints
        transaction? := some tx
        skipped := !tx.requiresExecution m.world })
      (fun _ m' => Begun chain m tx m') E := by
  have silent : ∀ s ∈ m.tracer.sections.toList, s.awaits = [] :=
    fun s hs => idle.silent s (Array.mem_toList_iff.1 hs)
  have traced : t.transaction? = some tx := by
    rw [setting]
    rfl
  have contexts : t.contexts = {} := by
    rw [setting]
    rfl
  have empty : s.trace.isEmpty = true := by
    rw [announced.trace]
    rfl
  refine Machine.announce_bind (Tracer.enterRoot_yields (E := fun _ => False) attuned
    (Option.isSome_iff_exists.2 ⟨tx, traced⟩) contexts sections silent empty announced.root)
    nofun ?_
  rintro _ t' ⟨setting', row, tracing⟩
  have setting'' : t'.toSetting = { m.tracer.beginSetting tx with
      contexts := ({} : ContextTree).enter tx.rootEntry
      incarnations } := by
    rw [setting', contexts, setting]
  have stamp : t'.stamp = m.tracer.stamp + 1 := by
    rw [setting'']
    rfl
  exact .running executes announced (running_of_entered idle executes announced setting'' tracing)
    rfl stamp (by rw [setting'']) (by rw [setting''])

/-- **Starting a transaction.** -/
theorem beginTransaction_yields (idle : Idle m) :
    Yields (Machine.beginTransaction chain tx m) (fun _ m' => Begun chain m tx m')
      (fun f => ¬f.IsDisagreement ∧ ¬f.IsCannotPay) := by
  unfold Machine.beginTransaction
  refine Ends.get_bind ?_
  refine Machine.announce_bind (Tracer.beginTransaction_yields idle.attuned idle.quiet)
    (fun v h => ⟨h, fun h => h⟩) ?_
  rintro id t ⟨attuned, begun⟩
  refine Ends.get_bind ?_
  refine Ends.modify_bind ?_
  dsimp only
  by_cases executes : tx.requiresExecution m.world = true
  · rw [if_pos executes] at begun
    obtain ⟨s, incarnations, announced, setting, sections⟩ := begun
    obtain ⟨left, left', paid, paid'⟩ := debits_of_announced announced
    rw [if_neg (by simp [executes])]
    refine Ends.bind_ok (Machine.modifyWorld_eq _) ?_
    refine Ends.bind_ok (Machine.modifyWorld_eq _) ?_
    -- The announcement has found the sender able to pay, so neither debit fails.
    obtain ⟨w, debited, debtor, charged⟩ := tx.charge_eq m.world paid
    have payable :
        Word.checkedSub ((tx.charge m.world).balance tx.sender) tx.value = some left' := by
      rw [charged, WorldState.balance_raiseNonce, debtor, WorldState.balance_setBalance,
        if_pos rfl]
      exact paid'
    have debited' := WorldState.debit?_eq (tx.charge m.world) payable
    refine Ends.bind_ok (Machine.debit_eq_of_some debited) ?_
    refine Ends.bind_ok (Machine.modifyWorld_eq _) ?_
    refine Ends.bind_ok (Machine.pushCheckpoint_eq ..) ?_
    dsimp only
    rw [← charged]
    refine Ends.bind_ok (Machine.debit_eq_of_some debited') ?_
    refine Ends.bind_ok (Machine.credit_eq ..) ?_
    have entering : Yields _ (fun _ m' => Begun chain m tx m')
        (fun f : Fault => ¬f.IsDisagreement ∧ ¬f.IsCannotPay) :=
      enterContext_yields idle executes announced attuned setting sections id
    have launched : tx.launch m.world =
        if tx.isDeployment then
          (((tx.charge m.world).setBalance tx.sender left').credit tx.recipient tx.value).raiseNonce
            tx.recipient
        else ((tx.charge m.world).setBalance tx.sender left').credit tx.recipient tx.value := by
      unfold Transaction.launch
      dsimp only
      rw [debited']
      rfl
    by_cases deploys : tx.isDeployment = true
    · rw [if_pos deploys] at launched ⊢
      rw [launched] at entering
      refine Ends.bind_ok (Machine.modifyWorld_eq _) ?_
      exact entering
    · rw [if_neg deploys] at launched ⊢
      rw [launched] at entering
      exact entering
  · rw [if_neg executes] at begun
    obtain ⟨s, incarnations, announced, setting, sections⟩ := begun
    have skips : tx.requiresExecution m.world = false := Bool.eq_false_iff.2 executes
    have stamp : t.stamp = m.tracer.stamp + 1 := by
      rw [setting]
      rfl
    have contexts : t.contexts = {} := by
      rw [setting]
      rfl
    rw [if_pos (by simp [skips])]
    exact .skipping skips (skipping_of_announced idle skips attuned announced setting sections)
      announced rfl stamp (by rw [setting]) contexts

end Idle

end ExecutionTrace
