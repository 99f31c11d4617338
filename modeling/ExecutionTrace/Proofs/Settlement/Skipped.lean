import ExecutionTrace.Proofs.History.Histories
import ExecutionTrace.Proofs.Settlement.Payments

/-!
# Message calls that run no code

The trace of a message call to an account without code consists of one section.  Its rows on each of
the three parties lead from the account before the transaction to the account after it, and the
transaction can be ended whenever its sender can pay for it.

## Main Definitions

* `History.Connects` — rows that lead from one snapshot to another
* `SettlementSection.history` — the rows of the section on one account
* `SettlementSection.Announced.finish_connects` — what the finished section tells of its parties
* `SkippedTransaction` — a transaction of a run that runs no code
* `SkippedTransaction.Settled` — what such a message call leaves in the world and in the trace
* `SkippedTransaction.settles_exactly` — that it settles, and with nothing else left

## Design Notes

The supply bounds every balance, and everything that is credited has been paid by the sender.  So a
supply that fits into a word, with one unit to spare, rules out every overflow of a balance.  What
remains is the nonce of the sender: where the sender is another party as well, the section raises
it itself and refuses the largest one.
-/

namespace ExecutionTrace

/-! ## Rows that lead from one snapshot to another -/

/-- **Rows that lead from one snapshot to another**, each starting from the very snapshot that the
row before it ends with. -/
structure History.Connects (rows : List AccountRow) (source target : Snapshot) : Prop where
  first : rows.head?.map (·.before) = some source
  chained : History.Chained rows
  last : rows.getLast?.map (·.after) = some target

/-- **Moves of current rows** connect the snapshots of every account that they touch. -/
theorem History.connects_of_leads {incarnations : Incarnations} {rows : List AccountRow}
    {v w : View} {a : Address} {source target : Snapshot}
    (leads : Leads v (rows.map AccountRow.move) w)
    (current : ∀ r ∈ rows, r.IsCurrent incarnations) (touched : ∃ r ∈ rows, r.address = a)
    (starts : source.address = a ∧ source.IsCurrent incarnations ∧ source.face = v a)
    (ends : target.address = a ∧ target.IsCurrent incarnations ∧ target.face = w a) :
    Connects (rows.filter (·.address = a)) source target := by
  have own : ∀ r ∈ rows.filter (·.address = a), r.IsCurrent incarnations ∧ r.address = a := by
    intro r hr
    obtain ⟨hr, address⟩ := List.mem_filter.1 hr
    exact ⟨current r hr, of_decide_eq_true address⟩
  obtain ⟨r, hr, address⟩ := touched
  have nonempty : rows.filter (·.address = a) ≠ [] :=
    List.ne_nil_of_mem (List.mem_filter.2 ⟨hr, decide_eq_true address⟩)
  obtain ⟨chains, first, last, head, last', sourceFace, targetFace⟩ :=
    (leads.passes_rows a).exists_ends nonempty
  -- Current snapshots of one account that show the same are the same.
  refine ⟨?_, ?_, ?_⟩
  · obtain ⟨now, address⟩ := own first (List.mem_of_head? head)
    rw [head, Option.map_some]
    exact congrArg some (Snapshot.eq_of_face (address.trans starts.1.symm) now.before starts.2.1
      (sourceFace.trans starts.2.2.symm))
  · rw [chained_iff_isChain]
    refine chains.imp_of_mem_imp fun r s hr hs face => ?_
    obtain ⟨now, address⟩ := own r hr
    obtain ⟨now', address'⟩ := own s hs
    exact Snapshot.eq_of_face (now.address.trans (address.trans address'.symm)) now.after
      now'.before face
  · obtain ⟨now, address⟩ := own last (List.mem_of_getLast? last')
    rw [last', Option.map_some]
    exact congrArg some (Snapshot.eq_of_face (now.address.trans (address.trans ends.1.symm))
      now.after ends.2.1 (targetFace.trans ends.2.2.symm))

/-! ## The rows of the section -/

namespace SettlementSection

variable {chain : Chain} {setting : Setting} {incarnations : Incarnations} {tx : Transaction}
  {gasUsed : UInt64} {before paid moved final : WorldState} {s : SettlementSection}

/-- The rows of the section on one account, in the order of their stamps. -/
def history (s : SettlementSection) (a : Address) : List AccountRow :=
  (History.ofRows s.trace.rows a).map Prod.fst

/-- What the section shows of the accounts of a world. -/
def view (chain : Chain) (world : WorldState) (incarnations : Incarnations) : View := fun a =>
  (capture chain world incarnations a).face

/-- The account rows of three payments. -/
def paymentRows (stamp : Nat) (ts : List Transition) : List AccountRow :=
  ts.zipIdx.map fun (t, offset) =>
    t.trimmedRow t.before.address.toWord (.forward stamp offset)

/-- **The payments lead** from the accounts before the transaction to those after it. -/
theorem paymentRows_leads (h : tx.Payments gasUsed before paid moved final) (stamp : Nat) :
    Leads (view chain before incarnations)
      ((paymentRows stamp (payments chain incarnations tx before paid moved final)).map
        AccountRow.move) (view chain final incarnations) := by
  have pays : Leads (view chain before incarnations) _ (view chain paid incarnations) :=
    .single fun a other => congrArg Snapshot.face (capture_paid_of_ne h (Ne.symm other))
  have gives : Leads (view chain paid incarnations) _ (view chain moved incarnations) :=
    .single fun a other => congrArg Snapshot.face (capture_moved_of_ne h (Ne.symm other))
  have closes : Leads (view chain moved incarnations) _ (view chain final incarnations) :=
    .single fun a other => congrArg Snapshot.face (capture_final_of_ne h (Ne.symm other))
  simpa [paymentRows, payments, AccountRow.move, AccountRow.address, Transition.trimmedRow,
    Transition.row, view] using (pays.append gives).append closes

theorem exists_of_mem_paymentRows {stamp : Nat} {ts : List Transition} {r : AccountRow}
    (hr : r ∈ paymentRows stamp ts) : ∃ t ∈ ts, r.before = t.before ∧ r.after = t.after := by
  obtain ⟨⟨t, offset⟩, listed, rfl⟩ := List.mem_map.1 hr
  exact ⟨t, List.fst_mem_of_mem_zipIdx listed, rfl, rfl⟩

/-- Every payment shows one account. -/
theorem exists_isCurrent_of_mem_payments {t : Transition}
    (ht : t ∈ payments chain incarnations tx before paid moved final) :
    ∃ a ∈ [tx.sender, tx.recipient, tx.coinbase], t.IsCurrent incarnations a := by
  have current : ∀ w w' a, Transition.IsCurrent incarnations a
      ⟨capture chain w incarnations a, capture chain w' incarnations a⟩ := fun _ _ _ =>
    ⟨address_capture, address_capture, Snapshot.isCurrent_capture ..,
      Snapshot.isCurrent_capture ..⟩
  simp only [payments, List.mem_cons, List.not_mem_nil, or_false] at ht
  rcases ht with rfl | rfl | rfl
  · exact ⟨tx.sender, by simp, current ..⟩
  · exact ⟨tx.recipient, by simp, current ..⟩
  · exact ⟨tx.coinbase, by simp, current ..⟩

theorem isCurrent_of_mem_paymentRows {stamp : Nat} {r : AccountRow}
    (hr : r ∈ paymentRows stamp (payments chain incarnations tx before paid moved final)) :
    r.IsCurrent incarnations := by
  obtain ⟨t, ht, source, target⟩ := exists_of_mem_paymentRows hr
  obtain ⟨a, -, current⟩ := exists_isCurrent_of_mem_payments ht
  exact current.of_ends source target

/-- There is a payment of each party. -/
theorem map_address_paymentRows (stamp : Nat) :
    (paymentRows stamp (payments chain incarnations tx before paid moved final)).map
      AccountRow.address = [tx.sender, tx.recipient, tx.coinbase] := by
  simp [paymentRows, payments, AccountRow.address, Transition.trimmedRow, Transition.row]

theorem pairwise_paymentRows (stamp : Nat) (ts : List Transition) :
    (paymentRows stamp ts).Pairwise fun r s => r.stamp.Precedes s.stamp := by
  have offsets : (ts.zipIdx.map Prod.snd).Pairwise (· < ·) := by
    rw [List.zipIdx_map_snd]
    exact List.pairwise_lt_range'
  refine List.pairwise_map.2 ((List.pairwise_map.1 offsets).imp fun before => ?_)
  exact RowStamp.precedes_forward before

/-- **Rows of payments connect** every party with what it is in the end. -/
theorem paymentRows_connects (h : tx.Payments gasUsed before paid moved final) (stamp : Nat)
    {a : Address} (party : a ∈ [tx.sender, tx.recipient, tx.coinbase]) :
    History.Connects
      ((paymentRows stamp (payments chain incarnations tx before paid moved final)).filter
        (·.address = a))
      (capture chain before incarnations a) (capture chain final incarnations a) :=
  History.connects_of_leads (paymentRows_leads h stamp)
    (fun _ hr => isCurrent_of_mem_paymentRows hr)
    (List.mem_map.1 ((map_address_paymentRows stamp).symm ▸ party))
    ⟨address_capture, Snapshot.isCurrent_capture .., rfl⟩
    ⟨address_capture, Snapshot.isCurrent_capture .., rfl⟩

/-- **The finished section shows its transitions**, whatever they are. -/
theorem finish_shows {closing : Setting} {Q : List Transition → Prop} {E : Violation → Prop}
    (fresh : s.trace.isEmpty = true) (transaction : closing.transaction? = some tx)
    (settles : Grants (s.settle chain final closing.incarnations tx gasUsed) Q E) :
    Grants (s.finish chain closing final { success := true, gasUsed })
      (fun s' => ∃ ts, Q ts ∧ s'.trace.accountRows = paymentRows s.trace.shared.stamp ts) E := by
  unfold finish
  dsimp only
  rw [if_pos rfl]
  refine Grants.bind_ok (Setting.transaction_eq_ok transaction) ?_
  refine Grants.bind settles fun ts told => ⟨ts, told, ?_⟩
  have nothing : s.trace.accountRows = [] := by
    rw [Trace.accountRows, List.isEmpty_iff.1 fresh]
    rfl
  show (s.trace.append _).accountRows = _
  rw [Trace.accountRows_append, nothing, List.filterMap_append, filterMap_account?_map]
  exact List.append_nil _

/-- **What the finished section tells of its parties** when a message call can be settled. -/
theorem Announced.finish_connects {closing : Setting}
    (announced : Announced chain setting before tx s incarnations)
    (message : tx.isDeployment = false) (solvent : before.totalBalance < Word.size - 1)
    (settled : tx.settle? gasUsed before = some final)
    (transaction : closing.transaction? = some tx)
    (same : closing.incarnations = setting.incarnations) :
    Grants (s.finish chain closing final { success := true, gasUsed })
      (fun s' => ∀ a ∈ [tx.sender, tx.recipient, tx.coinbase], History.Connects (s'.history a)
        (capture chain before setting.incarnations a) (capture chain final setting.incarnations a))
      (fun v => v = .nonceOverflow tx.sender ∧
        (before.account tx.sender).nonce.toNat + 1 = UInt64.size) := by
  obtain ⟨paid, moved, payments⟩ := Transaction.exists_payments message settled solvent
  have settles := announced.settle_grants payments
  rw [← same] at settles
  refine (finish_shows announced.isEmpty_trace transaction settles).mono ?_ fun _ failure => failure
  rintro s' ⟨_, rfl, shows⟩ a party
  have history : s'.history a = _ :=
    History.rows_ofRows (.of_eq shows.symm) (pairwise_paymentRows ..) a
  rw [history, same]
  exact paymentRows_connects payments _ party

/-- Cooling down is not seen outside of execution. -/
@[simp]
theorem capture_coolDown {a : Address} :
    capture chain final.coolDown incarnations a = capture chain final incarnations a := rfl

end SettlementSection

/-! ## The end of the transaction -/

/-- **A transaction of a run that runs no code**, from before its start to after it. -/
structure SkippedTransaction (chain : Chain) where
  tx : Transaction
  /-- Before the transaction starts. -/
  idle : Machine
  /-- After it has started. -/
  begun : Machine
  reachable : Reachable chain idle
  free : idle.Allows (.start tx)
  skips : tx.requiresExecution idle.world = false
  starts : (Action.start tx).carryOut chain idle = .ok () begun

namespace SkippedTransaction

variable {chain : Chain} {skip : SkippedTransaction chain} {gasUsed : UInt64}

/-- The world in which the sender of a message call has paid for it. -/
def paid? (skip : SkippedTransaction chain) (gasUsed : UInt64) : Option WorldState :=
  skip.idle.world.debit? skip.tx.sender
    (Word.saturatingAdd skip.tx.value (skip.tx.gasCost gasUsed))

/-- **How a message call that runs no code has been settled**: in the world, and in the trace. -/
structure Settled (skip : SkippedTransaction chain) (gasUsed : UInt64) (closed : Machine) :
    Prop where
  world : ∃ paid, skip.paid? gasUsed = some paid ∧
    closed.world = (((paid.raiseNonce skip.tx.sender).credit skip.tx.recipient
      skip.tx.value).credit skip.tx.coinbase (skip.tx.coinbaseReward gasUsed)).coolDown
  /-- The rows on every party lead from the account before the transaction to the one after it. -/
  trace : ∃ s, closed.tracer.sections.toList =
      skip.idle.tracer.sections.toList ++ [.settlement s] ∧
    ∀ a ∈ [skip.tx.sender, skip.tx.recipient, skip.tx.coinbase], History.Connects (s.history a)
      (SettlementSection.capture chain skip.idle.world skip.idle.tracer.incarnations a)
      (SettlementSection.capture chain closed.world closed.tracer.incarnations a)

/-- The section that waits for the end of the transaction. -/
theorem exists_announced (skip : SkippedTransaction chain) : ∃ settlement,
    Skipping skip.begun skip.tx skip.idle.tracer.sections.toList settlement ∧
      SettlementSection.Announced chain (skip.idle.tracer.beginSetting skip.tx) skip.idle.world
        skip.tx settlement skip.begun.tracer.incarnations ∧
      skip.begun.world = skip.idle.world := by
  obtain ⟨-, begun⟩ := skip.reachable.begun skip.free skip.starts
  cases begun with
  | skipping skips skipping announced world stamp incarnations contexts =>
      exact ⟨_, skipping, incarnations ▸ announced, world⟩
  | running executes =>
      rw [skip.skips] at executes
      cases executes

theorem settle?_eq (message : skip.tx.isDeployment = false) :
    skip.tx.settle? gasUsed skip.idle.world = (skip.paid? gasUsed).map fun paid =>
      ((paid.raiseNonce skip.tx.sender).credit skip.tx.recipient skip.tx.value).credit
        skip.tx.coinbase (skip.tx.coinbaseReward gasUsed) := by
  unfold Transaction.settle? paid?
  simp [message]

/-- **What the end of a message call that runs no code leads to.** -/
theorem settle_yields (skip : SkippedTransaction chain) (message : skip.tx.isDeployment = false)
    (solvent : skip.idle.world.totalBalance < Word.size - 1) (gasUsed : UInt64) :
    Yields ((Action.settle gasUsed).carryOut chain skip.begun)
      (fun _ closed => skip.Settled gasUsed closed)
      (fun f => skip.paid? gasUsed = none ∨ f = .violation (.nonceOverflow skip.tx.sender) ∧
        (skip.idle.world.account skip.tx.sender).nonce.toNat + 1 = UInt64.size) := by
  obtain ⟨settlement, skipping, announced, same⟩ := skip.exists_announced
  have unchanged : skip.begun.tracer.incarnations = skip.idle.tracer.incarnations :=
    announced.incarnations.trans (if_neg (by simp [message]))
  refine (skipping.endTransaction_yields gasUsed).mono ?_ ?_
  · rintro _ closed ⟨-, ⟨final, finished, settled, world, finish, sections⟩, -, incarnations⟩
    rw [same] at settled
    have connects := (announced.finish_connects message solvent settled skipping.tracing
      unchanged).value finish
    refine ⟨?_, finished, sections, ?_⟩
    · rw [settle?_eq message] at settled
      obtain ⟨paid, payable, rfl⟩ := Option.map_eq_some_iff.1 settled
      exact ⟨paid, payable, world⟩
    · intro a party
      rw [world, incarnations, unchanged, SettlementSection.capture_coolDown]
      exact connects a party
  · rintro f fails
    cases fails with
    | unpaid short fault =>
        rw [same, settle?_eq message, Option.map_eq_none_iff] at short
        exact .inl short
    | refused settled refuses fault =>
        rw [same] at settled
        have granted : Grants (settlement.finish chain _ _ _) _ _ :=
          announced.finish_connects message solvent settled skipping.tracing unchanged
        rw [refuses] at granted
        exact .inr ⟨fault.trans (congrArg _ granted.1), granted.2⟩

/-- **Message calls that run no code settle exactly**, whichever of their parties coincide: when one
has been ended, the rows of its section on every party lead from the account before the transaction
to the account in the world in which everything is paid.  It can be ended whenever the sender can
pay for it, unless the nonce of the sender is the largest one. -/
theorem settles_exactly (skip : SkippedTransaction chain) (message : skip.tx.isDeployment = false)
    (solvent : skip.idle.world.totalBalance < Word.size - 1) (gasUsed : UInt64) :
    (∀ closed, (Action.settle gasUsed).carryOut chain skip.begun = .ok () closed →
      skip.Settled gasUsed closed) ∧
    ((skip.paid? gasUsed).isSome →
      (∃ closed, (Action.settle gasUsed).carryOut chain skip.begun = .ok () closed) ∨
        (skip.idle.world.account skip.tx.sender).nonce.toNat + 1 = UInt64.size ∧
          ∃ m, (Action.settle gasUsed).carryOut chain skip.begun =
            .error (.violation (.nonceOverflow skip.tx.sender)) m) := by
  have yields := skip.settle_yields message solvent gasUsed
  refine ⟨fun closed ended => yields.value ended, fun payable => ?_⟩
  cases ended : (Action.settle gasUsed).carryOut chain skip.begun with
  | ok _ closed => exact .inl ⟨closed, rfl⟩
  | error f m =>
      rcases yields.error ended with unpaid | ⟨rfl, full⟩
      · rw [unpaid] at payable
        cases payable
      · exact .inr ⟨full, m, rfl⟩

/-- All three parties of such a transaction are one account. -/
theorem settles_exactly_with_itself : ∃ skip : SkippedTransaction .ethereum,
    skip.tx.recipient = skip.tx.sender ∧ skip.tx.coinbase = skip.tx.sender ∧
      skip.tx.isDeployment = false ∧ skip.idle.world.totalBalance < Word.size - 1 ∧
      ∃ closed, (Action.settle 21000).carryOut .ethereum skip.begun = .ok () closed ∧
        skip.Settled 21000 closed := by
  have starts : (Script.stage.play .ethereum [.start Script.selfPayment]).isSome = true := by
    decide +kernel
  obtain ⟨begun, starts⟩ := Option.isSome_iff_exists.1 starts
  obtain ⟨free, starts⟩ := Machine.carryOut_of_play starts
  let skip : SkippedTransaction .ethereum :=
    ⟨Script.selfPayment, Script.stage, begun, Script.reachable_stage, free, by decide +kernel,
      starts⟩
  have solvent : skip.idle.world.totalBalance < Word.size - 1 :=
    (WorldState.totalBalance_ofList_le _).trans_lt (by decide +kernel)
  have payable : (skip.paid? 21000).isSome = true := by
    show (Script.stage.world.debit? Script.sender (Word.saturatingAdd Script.selfPayment.value
      (Script.selfPayment.gasCost 21000))).isSome = true
    decide +kernel
  obtain ⟨settled, ends⟩ := skip.settles_exactly rfl solvent 21000
  rcases ends payable with ⟨closed, ended⟩ | ⟨full, -⟩
  · exact ⟨skip, rfl, rfl, rfl, solvent, closed, ended, settled closed ended⟩
  -- The nonce of the sender is far from the largest one.
  · have fresh : (Script.stage.world.account Script.sender).nonce.toNat + 1 ≠ UInt64.size := by
      decide +kernel
    exact absurd full fresh

end SkippedTransaction

end ExecutionTrace
