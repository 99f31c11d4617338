import ExecutionTrace.Proofs.Settlement.Skipped

/-!
# Deployments without init code

A deployment without init code consists of the three payments of a transaction that runs no code,
and between the last two of them its recipient comes into existence: its deployment number rises,
and its nonce is set.  The section shows this in the transition of the recipient, unless the
recipient is the beneficiary as well.  Then the start of that transition is computed from its end,
and since nothing but the balance is taken back, the recipient seems to have existed before.

## Main Definitions

* `Snapshot.reborn` — what the coming into existence makes of a snapshot
* `SettlementSection.deploymentPayments` — the three transitions of the section
* `SettlementSection.Announced.settle_deployment_grants` — they are
* `SkippedTransaction.deployment_shows` — the history of the recipient

## Design Notes

The worlds between the payments are those of a message call with the same parties, so everything
that has been shown of `Transaction.Payments` applies.  A world in which the recipient exists
differs from its counterpart in the account of the recipient alone.
-/

namespace ExecutionTrace

/-! ## Coming into existence -/

namespace Snapshot

/-- **An account that has just come into existence**, without a constructor. -/
def reborn (s : Snapshot) : Snapshot :=
  { s with nonce := 1, deploymentNumber := s.deploymentNumber + 1 }

/-- It comes into existence with the balance that it has. -/
theorem debit_reborn {s s' : Snapshot} {amount : Word} (paid : s.debit amount = .ok s') :
    s.reborn.debit amount = .ok s'.reborn := by
  unfold debit at paid ⊢
  dsimp only [reborn]
  cases left : Word.checkedSub s.balance amount with
  | none =>
      rw [left] at paid
      cases paid
  | some left =>
      rw [left] at paid
      obtain rfl := Except.ok.inj paid
      rfl

end Snapshot

namespace Incarnations

/-- The table once a deployment without init code has been counted. -/
def counted (t : Incarnations) (a : Address) : Incarnations :=
  t.set a { number := t.number a + 1, initCode? := none }

@[simp]
theorem number_counted (t : Incarnations) (a : Address) :
    (t.counted a).number a = t.number a + 1 := by
  rw [counted, number_set, if_pos rfl]

@[simp]
theorem isDeploying_counted (t : Incarnations) (a : Address) :
    (t.counted a).isDeploying a = false := by
  rw [counted, isDeploying_set, if_pos rfl]
  rfl

end Incarnations

namespace SettlementSection

variable {chain : Chain} {setting : Setting} {incarnations incarnations' : Incarnations}
  {tx : Transaction} {gasUsed : UInt64} {before paid moved created final : WorldState}
  {s : SettlementSection} {a b : Address}

/-- The count of one address is not seen at others. -/
theorem capture_counted_of_ne (other : b ≠ a) :
    capture chain before (incarnations.counted b) a = capture chain before incarnations a := by
  rw [capture, capture, Snapshot.capture_eq, Snapshot.capture_eq, Incarnations.counted,
    Incarnations.number_set, Incarnations.initCode?_set, Incarnations.isDeploying_set, if_neg other,
    if_neg other, if_neg other]

theorem capture_credit_of_ne {amount : Word} (other : b ≠ a) :
    capture chain (before.credit b amount) incarnations a = capture chain before incarnations a :=
  Snapshot.capture_credit_of_ne other

theorem capture_setNonce_of_ne {nonce : UInt64} (other : b ≠ a) :
    capture chain (before.setNonce b nonce) incarnations a = capture chain before incarnations a :=
  Snapshot.capture_congr (by rw [WorldState.setNonce, WorldState.account_update, if_neg other])

/-- **A captured account that comes into existence.** -/
theorem capture_reborn (vacant : incarnations.isDeploying a = false) :
    capture chain (before.setNonce a 1) (incarnations.counted a) a =
      (capture chain before incarnations a).reborn := by
  have bare : incarnations.initCode? a = none := by simpa [Incarnations.isDeploying] using vacant
  rw [capture, capture, Snapshot.capture_eq, Snapshot.capture_eq, Snapshot.reborn,
    Incarnations.counted, Incarnations.number_set, Incarnations.initCode?_set,
    Incarnations.isDeploying_set, if_pos rfl, if_pos rfl, if_pos rfl, WorldState.setNonce,
    WorldState.balance, WorldState.account_update, if_pos rfl, bare, vacant]
  rfl

/-! ## The three transitions -/

/-- **The transitions of a deployment without init code.** Where the recipient is the beneficiary,
the second one does not show that it comes into existence. -/
def deploymentPayments (chain : Chain) (incarnations : Incarnations) (tx : Transaction)
    (before paid moved created final : WorldState) : List Transition :=
  let latched := capture chain before incarnations tx.recipient
  [⟨capture chain before incarnations tx.sender, capture chain paid incarnations tx.sender⟩,
    ⟨if tx.recipient = tx.coinbase then latched.reborn else latched,
      (capture chain moved incarnations tx.recipient).reborn⟩,
    ⟨capture chain created (incarnations.counted tx.recipient) tx.coinbase,
      capture chain final (incarnations.counted tx.recipient) tx.coinbase⟩]

namespace Announced

/-- The beneficiary's snapshot before it was rewarded. -/
theorem debit_coinbase_created (h : tx.Payments gasUsed before paid moved final)
    (creates : created = moved.setNonce tx.recipient 1) :
    (capture chain (created.credit tx.coinbase (tx.coinbaseReward gasUsed)) incarnations
        tx.coinbase).debit (tx.coinbaseReward gasUsed) =
      .ok (capture chain created incarnations tx.coinbase) := by
  have same : created.balance tx.coinbase = moved.balance tx.coinbase := by
    rw [creates, WorldState.setNonce, WorldState.balance, WorldState.account_update]
    split
    · rename_i own
      rw [← own, WorldState.balance]
    · rfl
  have fits := h.rewards
  rw [← same] at fits
  exact Snapshot.debit_capture_credit fits

/-- **The sender's transition** is its payment. -/
theorem settleSender_deployment_grants
    (announced : Announced chain setting before tx s incarnations')
    (h : tx.Payments gasUsed before paid moved final)
    (creates : created = moved.setNonce tx.recipient 1) (apart : tx.sender ≠ tx.recipient) :
    Grants (s.settleSender tx gasUsed
        (capture chain (created.credit tx.coinbase (tx.coinbaseReward gasUsed))
          (setting.incarnations.counted tx.recipient) tx.sender))
      (fun t => t = ⟨capture chain before setting.incarnations tx.sender,
        capture chain paid setting.incarnations tx.sender⟩)
      (fun _ => True) := by
  unfold settleSender
  rw [announced.senderIsRecipient, announced.senderIsCoinbase, announced.sender]
  split
  · exact (pay_grants h).mono (fun _ told => told) fun _ _ => trivial
  · rename_i others
    obtain ⟨-, coinbase⟩ : tx.sender ≠ tx.recipient ∧ tx.sender ≠ tx.coinbase := by
      simpa using others
    rw [capture_counted_of_ne apart.symm, capture_credit_of_ne coinbase.symm, creates,
      capture_setNonce_of_ne apart.symm, capture_moved_of_ne h apart.symm]
    exact rfl

/-- **The recipient's transition** starts before the transaction, unless the recipient is the
beneficiary. -/
theorem settleRecipient_deployment_eq
    (announced : Announced chain setting before tx s incarnations')
    (h : tx.Payments gasUsed before paid moved final)
    (creates : created = moved.setNonce tx.recipient 1) (apart : tx.sender ≠ tx.recipient)
    (vacant : setting.incarnations.isDeploying tx.recipient = false) (sender : Transition) :
    s.settleRecipient tx (tx.coinbaseReward gasUsed) sender
        (capture chain (created.credit tx.coinbase (tx.coinbaseReward gasUsed))
          (setting.incarnations.counted tx.recipient) tx.recipient)
        (capture chain (created.credit tx.coinbase (tx.coinbaseReward gasUsed))
          (setting.incarnations.counted tx.recipient) tx.coinbase) =
      .ok ⟨if tx.recipient = tx.coinbase then
            (capture chain before setting.incarnations tx.recipient).reborn
          else capture chain before setting.incarnations tx.recipient,
        (capture chain moved setting.incarnations tx.recipient).reborn⟩ := by
  unfold settleRecipient
  rw [announced.senderIsRecipient, announced.recipientIsCoinbase, announced.recipient,
    if_neg (by simpa using apart)]
  have reborn : capture chain created (setting.incarnations.counted tx.recipient) tx.recipient =
      (capture chain moved setting.incarnations tx.recipient).reborn := by
    rw [creates]
    exact capture_reborn vacant
  by_cases same : tx.recipient = tx.coinbase
  -- Taking the reward and the value back does not take back that the recipient has been created.
  · have taken : (capture chain moved setting.incarnations tx.recipient).debit tx.value =
        .ok (capture chain paid setting.incarnations tx.recipient) := debit_recipient h
    have back := Snapshot.debit_reborn taken
    rw [if_pos (by simpa using same), if_pos same, debit_coinbase_created h creates, ← same, reborn]
    dsimp only [bind, Except.bind]
    rw [back, capture_paid_of_ne h apart]
    rfl
  · rw [if_neg (by simpa using same), if_neg same, capture_credit_of_ne (Ne.symm same), reborn]
    rfl

/-- **The beneficiary's transition** is its reward. -/
theorem settleCoinbase_deployment_eq
    (announced : Announced chain setting before tx s incarnations')
    (h : tx.Payments gasUsed before paid moved final)
    (creates : created = moved.setNonce tx.recipient 1) :
    s.settleCoinbase (tx.coinbaseReward gasUsed)
        (capture chain (created.credit tx.coinbase (tx.coinbaseReward gasUsed))
          (setting.incarnations.counted tx.recipient) tx.coinbase) =
      .ok ⟨capture chain created (setting.incarnations.counted tx.recipient) tx.coinbase,
        capture chain (created.credit tx.coinbase (tx.coinbaseReward gasUsed))
          (setting.incarnations.counted tx.recipient) tx.coinbase⟩ := by
  unfold settleCoinbase
  rw [announced.senderIsCoinbase, announced.recipientIsCoinbase, announced.coinbase]
  split
  · rw [debit_coinbase_created h creates]
    rfl
  · rename_i others
    obtain ⟨sender, recipient⟩ : tx.sender ≠ tx.coinbase ∧ tx.recipient ≠ tx.coinbase := by
      simpa using others
    have untouched : capture chain created (setting.incarnations.counted tx.recipient)
        tx.coinbase = capture chain before setting.incarnations tx.coinbase := by
      rw [capture_counted_of_ne recipient, creates, capture_setNonce_of_ne recipient,
        capture_moved_of_ne h recipient, capture_paid_of_ne h sender]
    rw [untouched]
    rfl

/-- **The section of a deployment tells of its payments.** -/
theorem settle_deployment_grants (announced : Announced chain setting before tx s incarnations')
    (h : tx.Payments gasUsed before paid moved final)
    (creates : created = moved.setNonce tx.recipient 1) (apart : tx.sender ≠ tx.recipient)
    (vacant : setting.incarnations.isDeploying tx.recipient = false) :
    Grants (s.settle chain (created.credit tx.coinbase (tx.coinbaseReward gasUsed))
        (setting.incarnations.counted tx.recipient) tx gasUsed)
      (fun ts => ts = deploymentPayments chain setting.incarnations tx before paid moved created
        (created.credit tx.coinbase (tx.coinbaseReward gasUsed)))
      (fun _ => True) := by
  unfold settle
  dsimp only
  rw [announced.sender, announced.recipient, announced.coinbase, address_capture, address_capture,
    address_capture]
  refine Grants.bind (announced.settleSender_deployment_grants h creates apart) ?_
  rintro _ rfl
  refine Grants.bind_ok (announced.settleRecipient_deployment_eq h creates apart vacant _) ?_
  refine Grants.bind_ok (announced.settleCoinbase_deployment_eq h creates) ?_
  exact rfl

end Announced

/-! ## The history of the recipient -/

/-- The rows of three transitions on the account of the second one. -/
theorem filter_paymentRows (t₀ t₁ t₂ : Transition) (stamp : Nat) (apart : t₀.before.address ≠ a)
    (own : t₁.before.address = a) :
    ∃ r₁ r₂, (r₁.before = t₁.before ∧ r₁.after = t₁.after) ∧
      (r₂.before = t₂.before ∧ r₂.after = t₂.after) ∧
      (paymentRows stamp [t₀, t₁, t₂]).filter (·.address = a) =
        r₁ :: if t₂.before.address = a then [r₂] else [] := by
  refine ⟨t₁.trimmedRow t₁.before.address.toWord (.forward stamp 1),
    t₂.trimmedRow t₂.before.address.toWord (.forward stamp 2), ⟨rfl, rfl⟩, ⟨rfl, rfl⟩, ?_⟩
  by_cases last : t₂.before.address = a <;>
    simp [paymentRows, AccountRow.address, Transition.trimmedRow, Transition.row, apart, own, last]

end SettlementSection

/-- The settlement that a section is, if it is one. -/
def Section.settlement? : Section → Option SettlementSection
  | launch _ => none
  | settlement s => some s
  | call _ => none

theorem Section.settlement?_eq_some_iff {s : Section} {settlement : SettlementSection} :
    s.settlement? = some settlement ↔ s = .settlement settlement := by
  cases s <;> simp [settlement?]

/-- A row on which a deployment is counted. -/
def AccountRow.raisesNumber (r : AccountRow) : Bool :=
  r.before.deploymentNumber < r.after.deploymentNumber

namespace SettlementSection

variable {chain : Chain} {incarnations : Incarnations} {tx : Transaction} {gasUsed : UInt64}
  {before paid moved created final : WorldState}

/-- **The rows on the recipient of a deployment without init code.** -/
theorem deploymentRows_connects (stamp : Nat) (apart : tx.sender ≠ tx.recipient)
    (creates : created = moved.setNonce tx.recipient 1)
    (closes : final = created.credit tx.coinbase (tx.coinbaseReward gasUsed))
    (vacant : incarnations.isDeploying tx.recipient = false) :
    let latched := capture chain before incarnations tx.recipient
    let rows := (paymentRows stamp (deploymentPayments chain incarnations tx before paid moved
      created final)).filter (·.address = tx.recipient)
    History.Connects rows (if tx.recipient = tx.coinbase then latched.reborn else latched)
        (capture chain final (incarnations.counted tx.recipient) tx.recipient) ∧
      rows.countP AccountRow.raisesNumber = if tx.recipient = tx.coinbase then 0 else 1 := by
  intro latched rows
  have reborn : capture chain created (incarnations.counted tx.recipient) tx.recipient =
      (capture chain moved incarnations tx.recipient).reborn := by
    rw [creates]
    exact capture_reborn vacant
  obtain ⟨r₁, r₂, ⟨before₁, after₁⟩, ⟨before₂, after₂⟩, filtered⟩ := filter_paymentRows
    ⟨capture chain before incarnations tx.sender, capture chain paid incarnations tx.sender⟩
    ⟨if tx.recipient = tx.coinbase then latched.reborn else latched,
      (capture chain moved incarnations tx.recipient).reborn⟩
    ⟨capture chain created (incarnations.counted tx.recipient) tx.coinbase,
      capture chain final (incarnations.counted tx.recipient) tx.coinbase⟩
    stamp (a := tx.recipient) (by simpa using apart)
    (by split <;> simp [latched, Snapshot.reborn])
  have filtered : rows = r₁ :: if tx.recipient = tx.coinbase then [r₂] else [] := by
    refine filtered.trans ?_
    rw [address_capture]
    simp only [eq_comm]
  rw [filtered]
  by_cases same : tx.recipient = tx.coinbase
  -- The recipient is rewarded after it has come into existence, which no row shows.
  · rw [if_pos same] at before₁
    rw [← same, reborn] at before₂
    rw [← same] at after₂
    simp only [if_pos same]
    refine ⟨⟨by simp [before₁], ⟨after₁.trans before₂.symm, trivial⟩, by simp [after₂]⟩, ?_⟩
    have steady : r₁.raisesNumber = false ∧ r₂.raisesNumber = false := by
      simp [AccountRow.raisesNumber, before₁, after₁, before₂, after₂, latched, Snapshot.reborn,
        capture, Snapshot.capture_eq]
    simp [steady]
  · rw [if_neg same] at before₁
    have ended : capture chain final (incarnations.counted tx.recipient) tx.recipient =
        (capture chain moved incarnations tx.recipient).reborn := by
      rw [closes, capture_credit_of_ne (Ne.symm same), reborn]
    simp only [if_neg same]
    refine ⟨⟨by simp [before₁], trivial, by simp [after₁, ended]⟩, ?_⟩
    have raises : r₁.raisesNumber = true := by
      simp [AccountRow.raisesNumber, before₁, after₁, latched, Snapshot.reborn, capture,
        Snapshot.capture_eq]
    simp [raises]

/-- **What the finished section tells of the recipient** when a deployment can be settled. -/
theorem Announced.finish_deployment_connects {setting closing : Setting} {s : SettlementSection}
    {incarnations' : Incarnations} (announced : Announced chain setting before tx s incarnations')
    (deploys : tx.isDeployment = true) (apart : tx.sender ≠ tx.recipient)
    (solvent : before.totalBalance < Word.size - 1)
    (settled : tx.settle? gasUsed before = some final)
    (vacant : setting.incarnations.isDeploying tx.recipient = false)
    (transaction : closing.transaction? = some tx)
    (counted : closing.incarnations = setting.incarnations.counted tx.recipient) :
    Grants (s.finish chain closing final { success := true, gasUsed })
      (fun s' =>
        let latched := capture chain before setting.incarnations tx.recipient
        History.Connects (s'.history tx.recipient)
            (if tx.recipient = tx.coinbase then latched.reborn else latched)
            (capture chain final closing.incarnations tx.recipient) ∧
          (s'.history tx.recipient).countP AccountRow.raisesNumber =
            if tx.recipient = tx.coinbase then 0 else 1)
      (fun _ => True) := by
  obtain ⟨paid, moved, payments, closes⟩ := Transaction.exists_payments_of_settle? settled solvent
  rw [if_pos deploys] at closes
  have settles := announced.settle_deployment_grants payments rfl apart vacant
  rw [← counted, ← closes] at settles
  refine (finish_shows announced.isEmpty_trace transaction settles).mono ?_ fun _ _ => trivial
  rintro s' ⟨_, rfl, shows⟩
  have history : s'.history tx.recipient = _ :=
    History.rows_ofRows (.of_eq shows.symm) (pairwise_paymentRows ..) _
  rw [history, counted]
  exact deploymentRows_connects _ apart rfl closes vacant

/-- The nonce of the recipient in the end. -/
theorem nonce_of_settle? (deploys : tx.isDeployment = true)
    (settled : tx.settle? gasUsed before = some final) :
    (final.account tx.recipient).nonce = 1 := by
  obtain ⟨paid, -, rfl⟩ := Option.map_eq_some_iff.1 settled
  dsimp only
  rw [if_pos deploys, WorldState.account_credit]
  split
  · rename_i same
    rw [same, WorldState.setNonce, WorldState.account_update, if_pos rfl]
  · rw [WorldState.setNonce, WorldState.account_update, if_pos rfl]

end SettlementSection

/-! ## The end of the transaction -/

/-- A new account is deployed to without init code, in a block of its own. -/
def Script.rewardedDeployment : Transaction :=
  { deployment sender 0xdec0 [] with coinbase := 0xdec0 }

namespace SkippedTransaction

variable {chain : Chain} {gasUsed : UInt64}

/-- **What a deployment without init code has left** of its recipient. -/
structure Deployed (skip : SkippedTransaction chain) (closed : Machine) (s : SettlementSection) :
    Prop where
  /-- The section is all that the transaction has added to the trace. -/
  sections : closed.tracer.sections.toList =
    skip.idle.tracer.sections.toList ++ [.settlement s]
  /-- The rows on the recipient lead to the account in the final world.  They start from the one
  before the transaction, unless the recipient is the beneficiary: then they start from that
  account as if it had come into existence already. -/
  connects : History.Connects (s.history skip.tx.recipient)
    (if skip.tx.recipient = skip.tx.coinbase then
      (SettlementSection.capture chain skip.idle.world skip.idle.tracer.incarnations
        skip.tx.recipient).reborn
    else SettlementSection.capture chain skip.idle.world skip.idle.tracer.incarnations
      skip.tx.recipient)
    (SettlementSection.capture chain closed.world closed.tracer.incarnations skip.tx.recipient)
  /-- In the end the recipient exists, and its constructor is not running. -/
  number : closed.tracer.incarnations.number skip.tx.recipient =
    skip.idle.tracer.incarnations.number skip.tx.recipient + 1
  nonce : (closed.world.account skip.tx.recipient).nonce = 1
  status : closed.tracer.incarnations.isDeploying skip.tx.recipient = false
  /-- The rise of the deployment number is shown once, unless the recipient is the beneficiary. -/
  raises : (s.history skip.tx.recipient).countP AccountRow.raisesNumber =
    if skip.tx.recipient = skip.tx.coinbase then 0 else 1

/-- **Deployments without init code show the new incarnation**, unless it is that of the
beneficiary. -/
theorem deployment_shows (skip : SkippedTransaction chain) (deploys : skip.tx.isDeployment = true)
    (apart : skip.tx.sender ≠ skip.tx.recipient)
    (solvent : skip.idle.world.totalBalance < Word.size - 1) (closed : Machine)
    (ended : (Action.settle gasUsed).carryOut chain skip.begun = .ok () closed) :
    ∃ s, skip.Deployed closed s := by
  obtain ⟨settlement, skipping, announced, same⟩ := skip.exists_announced
  obtain ⟨idle, -⟩ := skip.reachable.begun skip.free skip.starts
  have vacant := idle.quiet skip.tx.recipient
  have counted : skip.begun.tracer.incarnations =
      skip.idle.tracer.incarnations.counted skip.tx.recipient :=
    announced.incarnations.trans (if_pos deploys)
  have yields : Yields ((Action.settle gasUsed).carryOut chain skip.begun) _ _ :=
    skipping.endTransaction_yields gasUsed
  obtain ⟨-, ⟨final, finished, settled, world, finish, sections⟩, -, incarnations⟩ :=
    yields.value ended
  rw [same] at settled
  obtain ⟨connects, raises⟩ := (announced.finish_deployment_connects deploys apart solvent settled
    vacant skipping.tracing counted).value finish
  refine ⟨finished, sections, ?_, ?_, ?_, ?_, raises⟩
  · rw [world, incarnations, SettlementSection.capture_coolDown]
    exact connects
  · rw [incarnations, counted, Incarnations.number_counted]
  · rw [world]
    show (final.account skip.tx.recipient).nonce = 1
    exact SettlementSection.nonce_of_settle? deploys settled
  · rw [incarnations, counted, Incarnations.isDeploying_counted]

/-- A new account is deployed to in a block of somebody else. -/
theorem deployment_shows_new_account : ∃ (skip : SkippedTransaction .ethereum) (closed : Machine)
    (s : SettlementSection), skip.tx = Script.deployment Script.sender 0xdec0 [] ∧
      (Action.settle 53000).carryOut .ethereum skip.begun = .ok () closed ∧
      skip.Deployed closed s := by
  have played : ((Script.stage.play .ethereum
      [.start (Script.deployment Script.sender 0xdec0 [])]).any fun begun =>
        (begun.play .ethereum [.settle 53000]).isSome) = true := by
    decide +kernel
  simp only [Option.any_eq_true, Option.isSome_iff_exists] at played
  obtain ⟨begun, starts, closed, ends⟩ := played
  obtain ⟨free, starts⟩ := Machine.carryOut_of_play starts
  obtain ⟨-, ended⟩ := Machine.carryOut_of_play ends
  let skip : SkippedTransaction .ethereum :=
    ⟨Script.deployment Script.sender 0xdec0 [], Script.stage, begun, Script.reachable_stage, free,
      by decide +kernel, starts⟩
  have solvent : skip.idle.world.totalBalance < Word.size - 1 :=
    (WorldState.totalBalance_ofList_le _).trans_lt (by decide +kernel)
  have apart : skip.tx.sender ≠ skip.tx.recipient := by
    show Script.sender ≠ 0xdec0
    decide
  obtain ⟨s, deployed⟩ := skip.deployment_shows rfl apart solvent closed ended
  exact ⟨skip, closed, s, rfl, ended, deployed⟩

/-- **The beneficiary seems to have existed before** it is deployed to: no row of it starts from the
account before the transaction, and none shows that its deployment number rises. -/
theorem deployment_of_beneficiary_not_shown : ∃ (closed : Machine) (s : SettlementSection),
    Script.stage.play .ethereum [.start Script.rewardedDeployment, .settle 53000] = some closed ∧
    Script.stage.world.totalBalance < Word.size - 1 ∧
    Script.stage.world.account? 0xdec0 = none ∧
    Script.stage.tracer.incarnations.number 0xdec0 = 0 ∧
    closed.tracer.sections[0]? = some (.settlement s) ∧
    (s.history 0xdec0).map (fun r => (r.before.deploymentNumber, r.before.nonce)) =
      [(1, 1), (1, 1)] ∧
    (s.history 0xdec0).countP AccountRow.raisesNumber = 0 := by
  have seen : ((Script.stage.play .ethereum
      [.start Script.rewardedDeployment, .settle 53000]).any fun closed =>
        (closed.tracer.sections[0]?.bind Section.settlement?).any fun s =>
          let rows := s.trace.accountRows.filter (·.address = 0xdec0)
          decide (s.trace.accountRows.Pairwise fun r s => r.stamp.Precedes s.stamp) &&
            (rows.map (fun r => (r.before.deploymentNumber, r.before.nonce)) == [(1, 1), (1, 1)] &&
              rows.countP AccountRow.raisesNumber == 0)) = true := by
    decide +kernel
  obtain ⟨closed, played, shown⟩ := (Option.any_eq_true ..).1 seen
  obtain ⟨s, added, shown⟩ := (Option.any_eq_true ..).1 shown
  obtain ⟨_, found, same⟩ := Option.bind_eq_some_iff.1 added
  obtain rfl := Section.settlement?_eq_some_iff.1 same
  obtain ⟨sorted, shown⟩ := Bool.and_eq_true_iff.1 shown
  have history : s.history 0xdec0 = s.trace.accountRows.filter (·.address = 0xdec0) :=
    History.rows_ofRows (.refl _) (of_decide_eq_true sorted) 0xdec0
  rw [← history] at shown
  obtain ⟨starts, raises⟩ := Bool.and_eq_true_iff.1 shown
  refine ⟨closed, s, played, ?_, by decide +kernel, by decide +kernel, found,
    beq_iff_eq.1 starts, beq_iff_eq.1 raises⟩
  exact (WorldState.totalBalance_ofList_le _).trans_lt (by decide +kernel)

end SkippedTransaction

end ExecutionTrace
