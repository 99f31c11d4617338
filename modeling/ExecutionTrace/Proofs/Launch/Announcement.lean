import ExecutionTrace.Proofs.State.Incarnations
import ExecutionTrace.Proofs.State.Transition
import ExecutionTrace.Section.Launch
import ExecutionTrace.Section.Settlement

/-!
# The announcement of a transaction

Which transactions are accepted, what is known of the section that one starts with, and that nothing
but the transaction itself can be the reason why it is refused.

## Main Definitions

* `WorldState.IsVacant` — nothing is at an address
* `Refused` — a transaction is refused, with a violation that fits
* `LaunchSection.Admissible`, `LaunchSection.Announced` — which transactions that execute code are
  accepted, and their sections
* `SettlementSection.Admits`, `SettlementSection.Announced` — the same of those that run none
* `LaunchSection.announce_ends`, `SettlementSection.announce_ends` — what a construction leads to

## Design Notes

A construction changes the table and the agenda as it goes along, so what a refused one leaves
behind depends on the order of its checks and changes.  All checks come first: `announce_ends` goes
through them once, for whatever has been announced before, and finds the desk of a refused
transaction as it was.
-/

namespace ExecutionTrace

namespace Snapshot

@[simp]
theorem deploymentStatus_capture (world : WorldState) (incarnations : Incarnations) (a : Address)
    (isWarm : Bool) :
    (capture world incarnations a isWarm).deploymentStatus = incarnations.isDeploying a := by
  rw [capture_eq]

@[simp]
theorem balance_capture (world : WorldState) (incarnations : Incarnations) (a : Address)
    (isWarm : Bool) : (capture world incarnations a isWarm).balance = world.balance a := by
  rw [capture_eq]

@[simp]
theorem nonce_capture (world : WorldState) (incarnations : Incarnations) (a : Address)
    (isWarm : Bool) : (capture world incarnations a isWarm).nonce = (world.account a).nonce := by
  rw [capture_eq]

@[simp]
theorem address_capture (world : WorldState) (incarnations : Incarnations) (a : Address)
    (isWarm : Bool) : (capture world incarnations a isWarm).address = a := by
  rw [capture_eq]

end Snapshot

/-- **Nothing is at an address**: its nonce is zero, and it has no code. -/
def WorldState.IsVacant (w : WorldState) (a : Address) : Prop :=
  (w.account a).nonce = 0 ∧ w.hasCode a = false

instance (w : WorldState) (a : Address) : Decidable (w.IsVacant a) :=
  inferInstanceAs (Decidable (_ ∧ _))

/-- **A transaction is refused**: it is not accepted, and if no script is to blame for the
violation, then a constructor is running at one of its parties. -/
structure Refused (incarnations : Incarnations) (parties : List Address) (accepted : Prop)
    (v : Violation) : Prop where
  rejected : ¬accepted
  busy : v.IsDisagreement →
    ∃ a ∈ parties, incarnations.isDeploying a = true ∧ v = .deploymentInProgress a

namespace Refused

variable {incarnations : Incarnations} {parties : List Address} {accepted : Prop} {v : Violation}

theorem of_not (plain : ¬v.IsDisagreement) (rejected : ¬accepted) :
    Refused incarnations parties accepted v :=
  ⟨rejected, fun disagrees => absurd disagrees plain⟩

/-- No section is missed. -/
theorem found (refused : Refused incarnations parties accepted v) : ¬v.MissesSection := by
  intro misses
  obtain ⟨a, -, -, rfl⟩ := refused.busy misses.isDisagreement
  exact misses

/-- Between two transactions no constructor is running. -/
theorem blameless (refused : Refused incarnations parties accepted v)
    (settled : ∀ a ∈ parties, incarnations.isDeploying a = false) : ¬v.IsDisagreement := by
  intro disagrees
  obtain ⟨a, party, running, -⟩ := refused.busy disagrees
  rw [settled a party] at running
  cases running

end Refused

/-! ## Transactions that execute code -/

namespace LaunchSection

/-- **What is accepted as a transaction that executes code.** -/
structure Admissible (incarnations : Incarnations) (world : WorldState) (tx : Transaction) :
    Prop where
  settled : ∀ a ∈ [tx.sender, tx.recipient], incarnations.isDeploying a = false
  /-- The sender can pay for gas and for the value. -/
  payable : tx.upfrontGasCost.toNat + tx.value.toNat ≤ (world.balance tx.sender).toNat
  countable : (world.account tx.sender).nonce.toNat + 1 < UInt64.size
  /-- The recipient has room for the value.  The sender has, since it is its own. -/
  receivable : tx.sender = tx.recipient ∨
    (world.balance tx.recipient).toNat + tx.value.toNat < Word.size
  /-- A deployment goes where nothing is, which excludes its sender. -/
  vacant : tx.isDeployment = true → tx.sender ≠ tx.recipient ∧ world.IsVacant tx.recipient

/-- **The section of an accepted transaction that executes code.** -/
structure Announced (setting : Setting) (world : WorldState) (tx : Transaction) (s : LaunchSection)
    (incarnations : Incarnations) : Prop where
  trace : s.trace = Trace.start setting.stamp 0
  root : s.root? = none
  sender : s.sender =
    Snapshot.capture world setting.incarnations tx.sender tx.senderPreWarmed
  charged : ∃ left, Word.checkedSub s.sender.balance tx.upfrontGasCost = some left ∧
    s.charged = { s.sender with balance := left, nonce := s.sender.nonce + 1, isWarm := true }
  debited : ∃ left, Word.checkedSub s.charged.balance tx.value = some left ∧
    s.debited = { s.charged with balance := left }
  recipient : s.recipient = if tx.sender = tx.recipient then s.debited
    else Snapshot.capture world setting.incarnations tx.recipient tx.recipientPreWarmed
  credited : ∃ sum, Word.checkedAdd s.recipient.balance tx.value = some sum ∧
    s.credited =
      if tx.isDeployment then
        (({ s.recipient with balance := sum, nonce := s.recipient.nonce + 1 }.withCode
          ⟨tx.payload⟩).warmedUp).withDeploymentFrom incarnations
      else { s.recipient with balance := sum }.warmedUp
  /-- The nonce of the sender has been raised, so nothing can be deployed there. -/
  apart : tx.isDeployment = true → tx.sender ≠ tx.recipient
  /-- Only a deployment changes the incarnations, and only to an account without code. -/
  incarnations : if tx.isDeployment then world.hasCode tx.recipient = false ∧
      incarnations = setting.incarnations.set tx.recipient
        { number := setting.incarnations.number tx.recipient + 1, initCode? := some tx.payload }
    else incarnations = setting.incarnations

variable {desk : Desk} {world : WorldState} {tx : Transaction} {id : Nat}

/-- Deploying to an account that is as captured. -/
theorem deploy_ends (recipient : Snapshot)
    (idle : desk.incarnations.isDeploying tx.recipient = false) :
    Ends (deploy world tx recipient desk)
      (fun created desk' => (recipient.nonce = 0 ∧ world.hasCode tx.recipient = false) ∧
        ∃ incarnations, desk' = { desk with incarnations } ∧
          incarnations = desk.incarnations.set tx.recipient
            { number := desk.incarnations.number tx.recipient + 1, initCode? := some tx.payload } ∧
          ∃ sum, Word.checkedAdd recipient.balance tx.value = some sum ∧
            created = (({ recipient with balance := sum, nonce := recipient.nonce + 1 }.withCode
              ⟨tx.payload⟩).warmedUp).withDeploymentFrom incarnations)
      (fun v desk' => desk' = desk ∧ ¬v.IsDisagreement ∧
        ((recipient.nonce = 0 ∧ world.hasCode tx.recipient = false) →
          Word.size ≤ recipient.balance.toNat + tx.value.toNat)) := by
  unfold deploy
  split
  · rename_i occupied
    refine ⟨rfl, fun h => h, fun ⟨unused, codeless⟩ => ?_⟩
    simp [unused, codeless] at occupied
  rename_i vacant
  have vacant : recipient.nonce = 0 ∧ world.hasCode tx.recipient = false := by
    simpa using vacant
  refine Ends.ofExcept_bind (recipient.raiseNonce_exactly.mono (fun _ h => h) ?_) ?_
  · rintro _ ⟨rfl, full⟩
    rw [vacant.1] at full
    cases full
  rintro _ ⟨rfl, -⟩
  refine Ends.ofExcept_bind ((Snapshot.credit_exactly ..).mono (fun _ h => h) ?_) ?_
  · rintro _ ⟨rfl, exceeds⟩
    exact ⟨rfl, fun h => h, fun _ => exceeds⟩
  rintro _ ⟨sum, received, rfl⟩
  refine Ends.bind_ok (onPart_eq_of_ok (Incarnations.start_eq_ok idle _)) ?_
  exact ⟨vacant, _, rfl, rfl, sum, received, rfl⟩

/-- **What the sender has paid** by the time the value is on its way. -/
structure Pays (tx : Transaction) (sender charged debited : Snapshot) : Prop where
  countable : sender.nonce.toNat + 1 < UInt64.size
  gas : ∃ left, Word.checkedSub sender.balance tx.upfrontGasCost = some left ∧
    charged = { sender with balance := left, nonce := sender.nonce + 1, isWarm := true }
  value : ∃ left, Word.checkedSub charged.balance tx.value = some left ∧
    debited = { charged with balance := left }

namespace Pays

variable {sender charged debited : Snapshot}

theorem payable (pays : Pays tx sender charged debited) :
    tx.upfrontGasCost.toNat + tx.value.toNat ≤ sender.balance.toNat := by
  obtain ⟨left, paid, rfl⟩ := pays.gas
  obtain ⟨left', paid', -⟩ := pays.value
  have price := Word.checkedSub_eq_some_iff.1 paid
  have value : left'.toNat + tx.value.toNat = left.toNat := Word.checkedSub_eq_some_iff.1 paid'
  omega

theorem status (pays : Pays tx sender charged debited) :
    debited.deploymentStatus = sender.deploymentStatus := by
  obtain ⟨left, -, rfl⟩ := pays.gas
  obtain ⟨left', -, rfl⟩ := pays.value
  rfl

/-- The nonce of the sender has been raised. -/
theorem used (pays : Pays tx sender charged debited) : debited.nonce ≠ 0 := by
  obtain ⟨left, -, rfl⟩ := pays.gas
  obtain ⟨left', -, rfl⟩ := pays.value
  intro none
  have none : (sender.nonce + 1).toNat = 0 := congrArg UInt64.toNat none
  rw [UInt64.toNat_add, UInt64.toNat_one, Nat.mod_eq_of_lt pays.countable] at none
  cases none

/-- There is room for the value where it came from. -/
theorem room (pays : Pays tx sender charged debited) :
    debited.balance.toNat + tx.value.toNat < Word.size := by
  obtain ⟨left, paid, rfl⟩ := pays.value
  rw [Word.checkedSub_eq_some_iff.1 paid]
  exact charged.balance.toNat_lt_size

end Pays

/-- **The payments of the sender** are made if it can pay for gas and for the value and its nonce
can be raised, and not otherwise. -/
theorem pays_bind {β : Type} {next : Snapshot → Snapshot → Construction β} {Q : β → Desk → Prop}
    {P : Violation → Desk → Prop} (sender : Snapshot)
    (refused : ∀ v, ¬v.IsDisagreement →
      ¬(tx.upfrontGasCost.toNat + tx.value.toNat ≤ sender.balance.toNat ∧
        sender.nonce.toNat + 1 < UInt64.size) → P v desk)
    (paid : ∀ charged debited, Pays tx sender charged debited →
      Ends (next charged debited desk) Q P) :
    Ends ((do
      let paid ← ofExcept (sender.debit tx.upfrontGasCost)
      let charged ← ofExcept paid.warmedUp.raiseNonce
      let debited ← ofExcept (charged.debit tx.value)
      next charged debited) desk) Q P := by
  refine Ends.ofExcept_bind ((sender.debit_exactly _).mono (fun _ h => h) ?_) ?_
  · rintro v ⟨rfl, short⟩
    exact refused _ (fun h => h) fun h => by omega
  rintro _ ⟨left, gas, rfl⟩
  refine Ends.ofExcept_bind ((Snapshot.raiseNonce_exactly _).mono (fun _ h => h) ?_) ?_
  · rintro v ⟨rfl, full⟩
    have full : sender.nonce.toNat + 1 = UInt64.size := full
    exact refused _ (fun h => h) fun h => absurd full (Nat.ne_of_lt h.2)
  rintro charged ⟨rfl, countable⟩
  refine Ends.ofExcept_bind ((Snapshot.debit_exactly ..).mono (fun _ h => h) ?_) ?_
  · rintro v ⟨rfl, short⟩
    have price := Word.checkedSub_eq_some_iff.1 gas
    have short : left.toNat < tx.value.toNat := short
    exact refused _ (fun h => h) fun h => by omega
  exact fun debited value => paid _ debited ⟨countable, ⟨left, gas, rfl⟩, value⟩

/-- The recipient as it is before the value reaches it, if the sender has paid. -/
theorem recipient_exactly {incarnations : Incarnations} {sender charged debited : Snapshot}
    (pays : Pays tx sender charged debited)
    (status : sender.deploymentStatus = incarnations.isDeploying tx.sender)
    {recipient : Snapshot} (chosen : (if tx.sender = tx.recipient then debited
      else .capture world incarnations tx.recipient tx.recipientPreWarmed) = recipient) :
    recipient.deploymentStatus = incarnations.isDeploying tx.recipient ∧
      (recipient.balance.toNat + tx.value.toNat < Word.size ↔ tx.sender = tx.recipient ∨
        (world.balance tx.recipient).toNat + tx.value.toNat < Word.size) ∧
      (recipient.nonce = 0 ∧ world.hasCode tx.recipient = false ↔
        tx.sender ≠ tx.recipient ∧ world.IsVacant tx.recipient) := by
  by_cases same : tx.sender = tx.recipient
  · rw [if_pos same] at chosen
    subst chosen
    exact ⟨pays.status.trans (same ▸ status), iff_of_true pays.room (.inl same),
      iff_of_false (fun h => pays.used h.1) fun h => h.1 same⟩
  · rw [if_neg same] at chosen
    subst chosen
    simp [same, WorldState.IsVacant]

/-- **What the construction of a section leads to.** Nothing is assumed of what has been announced
before. -/
theorem announce_ends (traced : desk.transaction? = some tx) :
    Ends (announce id world desk)
      (fun s desk' => Admissible desk.incarnations world tx ∧ ∃ incarnations,
        Announced desk.toSetting world tx s incarnations ∧
        desk' = { desk with incarnations, agenda := desk.agenda.scheduleAll awaited id })
      (fun v desk' => desk' = desk ∧ Refused desk.incarnations [tx.sender, tx.recipient]
        (Admissible desk.incarnations world tx) v) := by
  unfold announce
  refine Ends.get_bind (Ends.ofExcept_bind_ok (Setting.transaction_eq_ok traced) ?_)
  dsimp only
  generalize captured : Snapshot.capture world desk.incarnations tx.sender tx.senderPreWarmed =
    sender
  have status : sender.deploymentStatus = desk.incarnations.isDeploying tx.sender := by
    rw [← captured, Snapshot.deploymentStatus_capture]
  have balance : sender.balance = world.balance tx.sender := by
    rw [← captured, Snapshot.balance_capture]
  have nonce : sender.nonce = (world.account tx.sender).nonce := by
    rw [← captured, Snapshot.nonce_capture]
  -- The checks in their order: the sender, what it pays, the recipient as the payment leaves it
  -- (the two may be one account), and, for a deployment, the target.
  split
  · rename_i busy
    rw [status] at busy
    refine ⟨rfl, fun admissible => ?_, fun _ => ⟨tx.sender, by simp, busy, rfl⟩⟩
    simp [admissible.settled tx.sender] at busy
  rename_i free
  refine pays_bind sender (fun v plain short => ?_) fun charged debited pays => ?_
  · rw [balance, nonce] at short
    exact ⟨rfl, .of_not plain fun admissible => short ⟨admissible.payable, admissible.countable⟩⟩
  generalize chosen : (if tx.sender = tx.recipient then debited
    else Snapshot.capture world desk.incarnations tx.recipient tx.recipientPreWarmed) = recipient
  obtain ⟨recipientStatus, fits, unused⟩ := recipient_exactly pays status chosen
  split
  · rename_i busy
    rw [recipientStatus] at busy
    refine ⟨rfl, fun admissible => ?_, fun _ => ⟨tx.recipient, by simp, busy, rfl⟩⟩
    simp [admissible.settled tx.recipient] at busy
  rename_i recipientFree
  have idle : desk.incarnations.isDeploying tx.recipient = false := by
    simpa [recipientStatus] using recipientFree
  have admissible : ∀ {sum}, Word.checkedAdd recipient.balance tx.value = some sum →
      (tx.isDeployment = true → recipient.nonce = 0 ∧ world.hasCode tx.recipient = false) →
      Admissible desk.incarnations world tx := by
    refine fun {sum} received vacant => ⟨?_, balance ▸ pays.payable, nonce ▸ pays.countable,
      fits.1 ?_,
      fun deploys => unused.1 (vacant deploys)⟩
    · simpa [status, idle] using free
    · exact Word.checkedAdd_eq_some_iff.1 received ▸ sum.toNat_lt_size
  by_cases deploys : tx.isDeployment = true
  · rw [if_pos deploys]
    refine Ends.bind ((deploy_ends recipient idle).mono (fun _ _ h => h) ?_) ?_
    · rintro v _ ⟨rfl, plain, full⟩
      refine ⟨rfl, .of_not plain fun h => ?_⟩
      exact absurd (fits.2 h.receivable) (Nat.not_lt_of_le (full (unused.2 (h.vacant deploys))))
    rintro credited _ ⟨vacant, incarnations, rfl, started, sum, received, hcredited⟩
    refine ⟨admissible received fun _ => vacant, incarnations, ⟨rfl, rfl, captured.symm,
      pays.gas, pays.value, chosen.symm, ⟨sum, received, ?_⟩,
      fun _ => (unused.1 vacant).1, ?_⟩, rfl⟩
    · rw [if_pos deploys]
      exact hcredited
    · rw [if_pos deploys]
      exact ⟨vacant.2, started⟩
  · rw [if_neg deploys]
    refine Ends.ofExcept_bind ((recipient.credit_exactly _).mono (fun _ h => h) ?_) ?_
    · rintro _ ⟨rfl, full⟩
      refine ⟨rfl, .of_not (fun h => h) fun h => ?_⟩
      exact absurd (fits.2 h.receivable) (Nat.not_lt_of_le full)
    rintro _ ⟨sum, received, rfl⟩
    refine ⟨admissible received fun h => absurd h deploys, _, ⟨rfl, rfl, captured.symm,
      pays.gas, pays.value, chosen.symm, ⟨sum, received, ?_⟩,
      fun deployment => absurd deployment deploys, ?_⟩, rfl⟩
    · rw [if_neg deploys]
    · rw [if_neg deploys]

end LaunchSection

/-! ## Transactions that run no code -/

namespace SettlementSection

/-- **What is accepted as a transaction that runs no code.** Of the recipient nothing is asked but
to be no precompile, whether or not it is deployed to. -/
structure Admits (chain : Chain) (incarnations : Incarnations) (world : WorldState)
    (tx : Transaction) : Prop where
  ordinary : tx.recipient.isPrecompile chain = false
  /-- The sender exists, and has no code. -/
  external : ∃ account, world.account? tx.sender = some account ∧ account.hasCode = false
  settled : ∀ a ∈ [tx.sender, tx.recipient, tx.coinbase], incarnations.isDeploying a = false

/-- **The section of an accepted transaction that runs no code.** -/
structure Announced (chain : Chain) (setting : Setting) (world : WorldState) (tx : Transaction)
    (s : SettlementSection) (incarnations : Incarnations) : Prop where
  trace : s.trace = Trace.start setting.stamp 0
  sender : s.sender = capture chain world setting.incarnations tx.sender
  recipient : s.recipient = capture chain world setting.incarnations tx.recipient
  coinbase : s.coinbase = capture chain world setting.incarnations tx.coinbase
  /-- Only a deployment changes the incarnations, and no constructor runs. -/
  incarnations : incarnations =
    if tx.isDeployment then setting.incarnations.set tx.recipient
      { number := setting.incarnations.number tx.recipient + 1, initCode? := none }
    else setting.incarnations

variable {chain : Chain} {setting : Setting} {world : WorldState} {tx : Transaction}

theorem Announced.isEmpty_trace {s : SettlementSection} {incarnations : Incarnations}
    (announced : Announced chain setting world tx s incarnations) : s.trace.isEmpty = true := by
  rw [announced.trace]
  rfl

/-- A transaction that runs no code runs no constructor. -/
theorem Announced.quiet {s : SettlementSection} {incarnations : Incarnations}
    (announced : Announced chain setting world tx s incarnations)
    (quiet : setting.incarnations.Quiet) : incarnations.Quiet := by
  rw [announced.incarnations]
  split
  · exact quiet.set _ _
  · exact quiet

/-- **What the construction of a section leads to.** Nothing is assumed of what has been announced
before. -/
theorem announce_ends {desk : Desk} {id : Nat} (traced : desk.transaction? = some tx) :
    Ends (announce chain id world desk)
      (fun s desk' => Admits chain desk.incarnations world tx ∧ ∃ incarnations,
        Announced chain desk.toSetting world tx s incarnations ∧
        desk' = { desk with incarnations, agenda := desk.agenda.scheduleAll awaited id })
      (fun v desk' => desk' = desk ∧ Refused desk.incarnations
        [tx.sender, tx.recipient, tx.coinbase] (Admits chain desk.incarnations world tx) v) := by
  unfold announce
  refine Ends.get_bind (Ends.ofExcept_bind_ok (Setting.transaction_eq_ok traced) ?_)
  dsimp only
  split
  · rename_i precompile
    exact ⟨rfl, .of_not (fun h => h) fun admits => by simp [admits.ordinary] at precompile⟩
  rename_i ordinary
  split
  · rename_i refused
    refine ⟨rfl, .of_not (fun h => h) ?_⟩
    rintro ⟨-, ⟨account, found, codeless⟩, -⟩
    simp [found, codeless] at refused
  rename_i external
  have status : ∀ a, (capture chain world desk.incarnations a).deploymentStatus =
      desk.incarnations.isDeploying a := fun a => by
    rw [capture, Snapshot.deploymentStatus_capture]
  cases search : ([tx.sender, tx.recipient, tx.coinbase].map fun a =>
      capture chain world desk.incarnations a).find? (·.deploymentStatus) with
  | some found =>
      have running := List.find?_some search
      obtain ⟨a, party, rfl⟩ := List.mem_map.1 (List.mem_of_find?_eq_some search)
      rw [List.map_cons, List.map_cons, List.map_cons, List.map_nil] at search
      rw [search]
      rw [status] at running
      refine ⟨rfl, fun admits => ?_, fun _ => ⟨a, party, running, ?_⟩⟩
      · rw [admits.settled a party] at running
        cases running
      · rw [capture, Snapshot.address_capture]
  | none =>
      have settled : ∀ a ∈ [tx.sender, tx.recipient, tx.coinbase],
          desk.incarnations.isDeploying a = false := by
        simpa [status] using search
      have admits : Admits chain desk.incarnations world tx := by
        refine ⟨by simpa using ordinary, ?_, settled⟩
        cases found : world.account? tx.sender with
        | none => simp [found] at external
        | some account => exact ⟨account, rfl, by simpa [found] using external⟩
      rw [List.map_cons, List.map_cons, List.map_cons, List.map_nil] at search
      rw [search]
      dsimp only
      by_cases deploys : tx.isDeployment = true
      · rw [if_pos deploys]
        refine Ends.bind_ok
          (onPart_eq_of_ok (Incarnations.start_eq_ok (settled tx.recipient (by simp)) none)) ?_
        exact ⟨admits, _, ⟨rfl, rfl, rfl, rfl, (if_pos deploys).symm⟩, rfl⟩
      · rw [if_neg deploys]
        exact ⟨admits, _, ⟨rfl, rfl, rfl, rfl, (if_neg deploys).symm⟩, rfl⟩

end SettlementSection

end ExecutionTrace
