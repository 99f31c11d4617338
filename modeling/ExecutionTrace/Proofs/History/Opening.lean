import ExecutionTrace.Proofs.History.Postings
import ExecutionTrace.Proofs.Run.Begin

/-!
# The opening of a transaction

The rows of a transaction before any code runs: its sender pays for gas and sends the value, its
recipient receives it.  Their first snapshots need not agree with the world on warmth, so the view
that they start from is made up of them.

## Main Definitions

* `Opening` — what is fixed while a transaction executes
* `Opening.start`, `Opening.base`, `Opening.undone` — the views before the first row, when the root
  context starts, and after the transaction has been undone
* `Opening.leads_forward`, `Opening.leads_undoing` — the rows lead from one to the next

## Design Notes

Undoing a deployment gives the recipient back the code that it had, while its init code still
counts as its code.  Up to that, the view after the transaction has been undone is the one of the
world that its failure puts back.
-/

namespace ExecutionTrace

/-- **What is fixed while a transaction executes.** -/
structure Opening where
  chain : Chain
  tx : Transaction
  /-- The sections of earlier transactions. -/
  older : List Section
  launch : LaunchSection
  incarnations : Incarnations
  /-- The world before the transaction. -/
  world : WorldState

namespace Transaction

variable {tx : Transaction} {world : WorldState} {left left' sum : Word}

/-- The accounts after the sender has paid for gas. -/
theorem account_charge
    (paid : Word.checkedSub (world.balance tx.sender) tx.upfrontGasCost = some left) (a : Address) :
    (tx.charge world).account a =
      if tx.sender = a then
        { world.account tx.sender with
          balance := left, nonce := (world.account tx.sender).nonce + 1 }
      else world.account a := by
  obtain ⟨w, -, debtor, charged⟩ := tx.charge_eq world paid
  rw [charged, WorldState.raiseNonce, WorldState.account_update, debtor, WorldState.setBalance,
    WorldState.account_update, WorldState.account_update, if_pos rfl]
  split
  · rfl
  · rfl

/-- The accounts when the root context starts. -/
theorem account_launch
    (paid : Word.checkedSub ((tx.charge world).balance tx.sender) tx.value = some left')
    (received : Word.checkedAdd
      (if tx.sender = tx.recipient then left' else (tx.charge world).balance tx.recipient)
      tx.value = some sum)
    (a : Address) : (tx.launch world).account a =
      if tx.recipient = a then
        { (tx.charge world).account tx.recipient with
          balance := sum
          nonce := ((tx.charge world).account tx.recipient).nonce +
            if tx.isDeployment then 1 else 0 }
      else if tx.sender = a then { (tx.charge world).account tx.sender with balance := left' }
      else (tx.charge world).account a := by
  have debited := WorldState.debit?_eq (tx.charge world) paid
  let sent := (tx.charge world).setBalance tx.sender left'
  have account_sent : ∀ b, sent.account b = if tx.sender = b then
      { (tx.charge world).account tx.sender with balance := left' }
      else (tx.charge world).account b := fun b => WorldState.account_update ..
  have credited : Word.saturatingAdd (sent.balance tx.recipient) tx.value = sum := by
    refine Word.saturatingAdd_eq_of_checkedAdd ?_
    rw [← received]
    congr 1
    exact WorldState.balance_setBalance ..
  have account_moved : ∀ b, (sent.credit tx.recipient tx.value).account b =
      if tx.recipient = b then { (tx.charge world).account tx.recipient with balance := sum }
      else sent.account b := by
    intro b
    rw [WorldState.credit, credited, WorldState.setBalance, WorldState.account_update, account_sent]
    split
    · rename_i one
      split
      · rename_i same
        rw [same]
      · rfl
    · rfl
  have launched : tx.launch world =
      if tx.isDeployment then (sent.credit tx.recipient tx.value).raiseNonce tx.recipient
      else sent.credit tx.recipient tx.value := by
    unfold launch
    dsimp only
    rw [debited]
    rfl
  rw [launched]
  by_cases deploys : tx.isDeployment = true
  · rw [if_pos deploys, WorldState.raiseNonce, WorldState.account_update, account_moved,
      account_moved, if_pos rfl, account_sent, if_pos deploys]
    split <;> rfl
  · rw [if_neg deploys, account_moved, account_sent, if_neg deploys]
    split
    · simp
    · rfl

end Transaction

namespace LaunchSection

/-- The sender gets the value back. -/
def senderBack (s : LaunchSection) (later : Incarnations) : Transition :=
  (s.valueTransfer.map (·.withNumberFrom later)).reverse

/-- The recipient loses the value again, and stays warm. -/
def recipientBack (s : LaunchSection) (later : Incarnations) : Transition where
  before := s.credited.withNumberFrom later
  after := (s.recipient.withNumberFrom later).warmedUp

theorem undoingRows_eq (s : LaunchSection) (later : Incarnations) (tx : Transaction)
    (revertStamp : Nat) : s.undoingRows later tx revertStamp =
      if tx.sender = tx.recipient then
        [(s.recipientBack later).row (.undoing s.trace.shared.stamp revertStamp 3),
          (s.senderBack later).row (.undoing s.trace.shared.stamp revertStamp 4)]
      else
        [(s.senderBack later).row (.undoing s.trace.shared.stamp revertStamp 3),
          (s.recipientBack later).row (.undoing s.trace.shared.stamp revertStamp 4)] := by
  unfold undoingRows
  by_cases same : tx.sender = tx.recipient
  · simp only [if_pos same]
    rfl
  · simp only [if_neg same]
    rfl

end LaunchSection

namespace Opening

variable (o : Opening)

/-- The stamp that the transaction was announced at. -/
def stamp : Nat :=
  o.launch.trace.shared.stamp

/-- The world that a failure of the transaction puts back. -/
def charged : WorldState :=
  o.tx.charge o.world

/-- **The view that the root context starts in.** -/
def base : View :=
  (o.tx.launch o.world).view o.chain o.incarnations

/-- **The view that the rows of the transaction start from.** -/
def start : View :=
  Function.update (Function.update o.base o.tx.recipient o.launch.recipient.face) o.tx.sender
    o.launch.sender.face

/-- **The view that undoing the transaction leads to.** -/
def undone : View :=
  Function.update (o.charged.view o.chain o.incarnations) o.tx.recipient
    { o.charged.view o.chain o.incarnations o.tx.recipient with code := o.launch.recipient.code }

/-- The transaction has been announced. -/
structure Opened (setting : Setting) (s : LaunchSection) (row : ContextRow) : Prop where
  announced : LaunchSection.Announced setting o.world o.tx s o.incarnations
  launch : o.launch = { s with root? := some row }

namespace Opened

variable {o : Opening} {setting : Setting} {s : LaunchSection} {row : ContextRow}

/-- Nothing has been shown yet. -/
theorem accountRows_trace (h : o.Opened setting s row) : o.launch.trace.accountRows = [] := by
  rw [h.launch]
  exact congrArg Trace.accountRows h.announced.trace

/-- Only the recipient of a deployment has other code than before. -/
theorem initCode?_eq (h : o.Opened setting s row) (a : Address) :
    o.incarnations.initCode? a =
      if o.tx.isDeployment = true ∧ o.tx.recipient = a then some o.tx.payload
      else setting.incarnations.initCode? a := by
  have effect := h.announced.incarnations
  by_cases deploys : o.tx.isDeployment = true
  · rw [if_pos deploys] at effect
    rw [effect.2, Incarnations.initCode?, Incarnations.get_set]
    by_cases own : o.tx.recipient = a
    · rw [if_pos own, if_pos ⟨deploys, own⟩]
    · rw [if_neg own, if_neg (fun both => own both.2)]
      rfl
  · rw [if_neg deploys] at effect
    rw [effect, if_neg (fun both => deploys both.1)]

end Opened

/-- **What the snapshots of an opening say**, given what the sender is left with after paying for
gas and after sending the value, and what the recipient then has. -/
structure Figures (setting : Setting) (s : LaunchSection) (left left' sum : Word) : Prop where
  paid : Word.checkedSub (o.world.balance o.tx.sender) o.tx.upfrontGasCost = some left
  sent : Word.checkedSub left o.tx.value = some left'
  received : Word.checkedAdd s.recipient.balance o.tx.value = some sum
  senderAddress : s.sender.address = o.tx.sender
  chargedAddress : s.charged.address = o.tx.sender
  recipientAddress : s.recipient.address = o.tx.recipient
  creditedAddress : s.credited.address = o.tx.recipient
  charged : s.charged.face = ⟨left, (o.world.account o.tx.sender).nonce + 1,
    ⟨(setting.incarnations.initCode? o.tx.sender).getD (o.world.account o.tx.sender).code⟩, true⟩
  debited : s.debited = { s.charged with balance := left' }
  same : o.tx.sender = o.tx.recipient → s.recipient = s.debited
  apart : o.tx.sender ≠ o.tx.recipient → s.recipient = Snapshot.capture o.world
    setting.incarnations o.tx.recipient o.tx.recipientPreWarmed
  credited : s.credited.face = ⟨sum, s.recipient.nonce + (if o.tx.isDeployment then 1 else 0),
    if o.tx.isDeployment then ⟨o.tx.payload⟩ else s.recipient.code, true⟩

variable {o : Opening} {setting : Setting} {s : LaunchSection} {row : ContextRow}
  {left left' sum : Word}

theorem Opened.figures (h : o.Opened setting s row) :
    ∃ left left' sum, o.Figures setting s left left' sum := by
  obtain ⟨left, paid, hcharged⟩ := h.announced.charged
  obtain ⟨left', paid', hdebited⟩ := h.announced.debited
  obtain ⟨sum, received, hcredited⟩ := h.announced.credited
  have sender := h.announced.sender
  have recipient := h.announced.recipient
  have address : s.sender.address = o.tx.sender := by
    rw [sender, Snapshot.address_capture]
  have charged : s.charged.address = o.tx.sender := by
    rw [hcharged]
    exact address
  have target : s.recipient.address = o.tx.recipient := by
    rw [recipient]
    split
    · rename_i same
      rw [hdebited, ← same]
      exact charged
    · exact Snapshot.address_capture ..
  refine ⟨left, left', sum, ?_, ?_, received, address, charged, target, ?_, ?_, hdebited,
    fun same => ?_, fun apart => ?_, ?_⟩
  · rw [sender, Snapshot.capture_eq] at paid
    exact paid
  · rw [hcharged] at paid'
    exact paid'
  · rw [hcredited]
    split <;> exact target
  · rw [hcharged, sender, Snapshot.capture_eq]
    rfl
  · rw [recipient, if_pos same]
  · rw [recipient, if_neg apart]
  · rw [hcredited]
    by_cases deploys : o.tx.isDeployment = true
    · rw [if_pos deploys, if_pos deploys, if_pos deploys]
      rfl
    · rw [if_neg deploys, if_neg deploys, if_neg deploys]
      simp [Snapshot.face, Snapshot.warmedUp, Snapshot.withWarmth]

namespace Figures

/-! ## The snapshots and the world -/

theorem account_charged (f : o.Figures setting s left left' sum) (a : Address) :
    o.charged.account a =
      if o.tx.sender = a then
        { o.world.account o.tx.sender with
          balance := left, nonce := (o.world.account o.tx.sender).nonce + 1 }
      else o.world.account a :=
  Transaction.account_charge f.paid a

/-- What the recipient is before the value reaches it. -/
theorem recipient_eq (f : o.Figures setting s left left' sum) :
    s.recipient.balance =
        (if o.tx.sender = o.tx.recipient then left' else o.charged.balance o.tx.recipient) ∧
      s.recipient.nonce = (o.charged.account o.tx.recipient).nonce ∧
      s.recipient.code = ⟨(setting.incarnations.initCode? o.tx.recipient).getD
        (o.charged.account o.tx.recipient).code⟩ := by
  unfold WorldState.balance
  rw [f.account_charged]
  by_cases same : o.tx.sender = o.tx.recipient
  · rw [if_pos same, if_pos same, f.same same, f.debited, ← same]
    exact ⟨rfl, congrArg Face.nonce f.charged, congrArg Face.code f.charged⟩
  · rw [if_neg same, if_neg same, f.apart same, Snapshot.capture_eq]
    exact ⟨rfl, rfl, rfl⟩

theorem account_base (f : o.Figures setting s left left' sum) (a : Address) :
    (o.tx.launch o.world).account a =
      if o.tx.recipient = a then
        { o.charged.account o.tx.recipient with
          balance := sum
          nonce := (o.charged.account o.tx.recipient).nonce +
            if o.tx.isDeployment then 1 else 0 }
      else if o.tx.sender = a then { o.charged.account o.tx.sender with balance := left' }
      else o.charged.account a := by
  refine Transaction.account_launch ?_ ?_ a
  · have balance : (o.tx.charge o.world).balance o.tx.sender = left := by
      unfold WorldState.balance
      rw [Transaction.account_charge f.paid, if_pos rfl]
    rw [balance]
    exact f.sent
  · have received := f.received
    rw [f.recipient_eq.1] at received
    exact received

theorem isWarm_charged (o : Opening) {a : Address} (party : o.tx.sender = a ∨ o.tx.recipient = a) :
    (a.isPrecompile o.chain || o.charged.isWarm a) = true := by
  rw [Opening.charged, Transaction.isWarm_charge, WorldState.isWarm_warmUp,
    WorldState.isWarm_warmUp]
  rcases party with same | same <;> simp [same]

theorem isWarm_base (o : Opening) (a : Address) :
    (o.tx.launch o.world).isWarm a = o.charged.isWarm a :=
  Transaction.isWarm_launch ..

/-- **The recipient as the root context finds it.** -/
theorem credited_face (h : o.Opened setting s row) (f : o.Figures setting s left left' sum) :
    s.credited.face = o.base o.tx.recipient := by
  obtain ⟨-, nonce, code⟩ := f.recipient_eq
  have account := f.account_base o.tx.recipient
  rw [if_pos rfl] at account
  rw [f.credited, nonce, code, base, WorldState.view, WorldState.balance, account, isWarm_base,
    isWarm_charged o (.inr rfl), h.initCode?_eq]
  by_cases deploys : o.tx.isDeployment = true
  · simp [deploys]
  · simp [deploys]

/-- **The sender as the root context finds it**, if it is not the recipient as well. -/
theorem debited_face (h : o.Opened setting s row) (f : o.Figures setting s left left' sum)
    (apart : o.tx.sender ≠ o.tx.recipient) : s.debited.face = o.base o.tx.sender := by
  have account := f.account_base o.tx.sender
  rw [if_neg (Ne.symm apart), if_pos rfl, f.account_charged, if_pos rfl] at account
  have face : s.debited.face = { s.charged.face with balance := left' } := by
    rw [f.debited]
    rfl
  rw [face, f.charged, base, WorldState.view, WorldState.balance, account, isWarm_base,
    isWarm_charged o (.inl rfl), h.initCode?_eq, if_neg (fun both => apart both.2.symm)]

/-! ## What undoing the transaction leads to -/

/-- **The sender after the transaction has been undone** has paid for gas. -/
theorem charged_face (h : o.Opened setting s row) (f : o.Figures setting s left left' sum) :
    s.charged.face = o.undone o.tx.sender := by
  have account := f.account_charged o.tx.sender
  rw [if_pos rfl] at account
  by_cases same : o.tx.sender = o.tx.recipient
  · have code : o.launch.recipient.code = s.charged.code := by
      rw [h.launch]
      show s.recipient.code = _
      rw [f.same same, f.debited]
    rw [undone, ← same, Function.update_self, code, WorldState.view, WorldState.balance, account,
      isWarm_charged o (.inl rfl), f.charged]
    exact congrArg (Face.mk _ _ · _) (congrArg Face.code f.charged).symm
  · rw [undone, Function.update_of_ne same, WorldState.view, WorldState.balance, account,
      isWarm_charged o (.inl rfl), f.charged, h.initCode?_eq,
      if_neg (fun both => same both.2.symm)]

/-- **The recipient after the transaction has been undone** is what it was, but warm. -/
theorem recipient_face (h : o.Opened setting s row) (f : o.Figures setting s left left' sum)
    (apart : o.tx.sender ≠ o.tx.recipient) :
    s.recipient.face.warmed = o.undone o.tx.recipient := by
  obtain ⟨balance, nonce, -⟩ := f.recipient_eq
  rw [if_neg apart] at balance
  have code : o.launch.recipient.code = s.recipient.code := by rw [h.launch]
  rw [undone, Function.update_self, code, WorldState.view, isWarm_charged o (.inr rfl), ← balance,
    ← nonce]
  rfl

/-- Undoing the transaction concerns nobody but its sender and its recipient. -/
theorem undone_elsewhere (f : o.Figures setting s left left' sum) {a : Address}
    (notSender : a ≠ o.tx.sender) (notRecipient : a ≠ o.tx.recipient) : o.undone a = o.base a := by
  have account := f.account_base a
  rw [if_neg (Ne.symm notRecipient), if_neg (Ne.symm notSender)] at account
  rw [undone, Function.update_of_ne notRecipient, base, WorldState.view, WorldState.view,
    WorldState.balance, WorldState.balance, account, isWarm_base]

/-! ## The rows of the opening -/

/-- **The rows of a transaction before any code runs.** -/
theorem leads_forward (h : o.Opened setting s row) (f : o.Figures setting s left left' sum) :
    Leads o.start ((o.launch.forwardRows o.tx).map AccountRow.move) o.base := by
  have charged : s.debited.address = o.tx.sender := by
    rw [f.debited]
    exact f.chargedAddress
  have sender : o.launch.sender = s.sender := by rw [h.launch]
  have recipient : o.launch.recipient = s.recipient := by rw [h.launch]
  rw [h.launch]
  show Leads o.start [⟨s.sender.address, s.sender.face, s.charged.face⟩,
    ⟨s.charged.address, s.charged.face, s.debited.face⟩,
    ⟨s.recipient.address, s.recipient.face, s.credited.face⟩] o.base
  rw [f.senderAddress, f.chargedAddress, f.recipientAddress, start, sender, recipient]
  refine ⟨Function.update_self .., Function.update_self .., ?_, ?_⟩
  · by_cases same : o.tx.sender = o.tx.recipient
    · rw [← same, f.same same, Function.update_self]
    · rw [Function.update_of_ne (Ne.symm same), Function.update_of_ne (Ne.symm same),
        Function.update_of_ne (Ne.symm same), Function.update_self]
  · show o.base = _
    funext a
    rw [f.credited_face h]
    by_cases own : a = o.tx.recipient
    · rw [own, Function.update_self]
    · rw [Function.update_of_ne own]
      by_cases paying : a = o.tx.sender
      · have apart : o.tx.sender ≠ o.tx.recipient := paying ▸ own
        rw [paying, Function.update_self, f.debited_face h apart]
      · rw [Function.update_of_ne paying, Function.update_of_ne paying,
          Function.update_of_ne paying, Function.update_of_ne own]

/-- **The rows that undo them.** -/
theorem leads_undoing (h : o.Opened setting s row) (f : o.Figures setting s left left' sum)
    (later : Incarnations) (revertStamp : Nat) :
    Leads o.base ((o.launch.undoingRows later o.tx revertStamp).map AccountRow.move) o.undone := by
  have charged : s.debited.address = o.tx.sender := by
    rw [f.debited]
    exact f.chargedAddress
  rw [h.launch, LaunchSection.undoingRows_eq]
  by_cases same : o.tx.sender = o.tx.recipient
  · rw [if_pos same]
    show Leads o.base [⟨s.credited.address, s.credited.face, s.recipient.face.warmed⟩,
      ⟨s.debited.address, s.debited.face, s.charged.face⟩] o.undone
    have warm : s.debited.face.isWarm = true := by
      rw [f.debited]
      exact congrArg Face.isWarm f.charged
    rw [f.creditedAddress, charged, f.same same, f.credited_face h, Face.warmed_of_isWarm warm,
      f.charged_face h]
    refine ⟨rfl, ?_, ?_⟩
    · rw [same, Function.update_self]
    · show o.undone = _
      funext a
      by_cases own : a = o.tx.sender
      · rw [own, Function.update_self]
      · have other : a ≠ o.tx.recipient := same ▸ own
        rw [Function.update_of_ne own, Function.update_of_ne other, f.undone_elsewhere own other]
  · rw [if_neg same]
    show Leads o.base [⟨s.debited.address, s.debited.face, s.charged.face⟩,
      ⟨s.credited.address, s.credited.face, s.recipient.face.warmed⟩] o.undone
    rw [charged, f.creditedAddress, f.debited_face h same, f.credited_face h, f.charged_face h,
      f.recipient_face h same]
    exact .pair (fun a first second => f.undone_elsewhere first second) fun one => absurd one same

end Figures

/-- Up to code, undoing a transaction leads to the world that its failure puts back. -/
theorem undone_eq (o : Opening) (a : Address) : ∃ code, o.undone a =
    { o.charged.view o.chain o.incarnations a with code } := by
  unfold undone
  by_cases own : a = o.tx.recipient
  · rw [own, Function.update_self]
    exact ⟨_, rfl⟩
  · rw [Function.update_of_ne own]
    exact ⟨_, rfl⟩

/-! ## Where the rows of the opening stand -/

theorem sorted_forwardRows (o : Opening) : (o.launch.forwardRows o.tx).Pairwise
    fun r s => r.stamp.Precedes s.stamp := by
  have order : ∀ {k k'}, k < k' → (RowStamp.forward o.stamp k).Precedes (.forward o.stamp k') :=
    fun less => RowStamp.precedes_forward less
  refine .cons ?_ (List.pairwise_pair.2 (order (by omega)))
  intro r hr
  simp only [List.mem_cons, List.not_mem_nil, or_false] at hr
  rcases hr with rfl | rfl
  · exact order (by omega)
  · exact order (by omega)

theorem stamp_of_mem_forwardRows {o : Opening} {r : AccountRow}
    (hr : r ∈ o.launch.forwardRows o.tx) : ∃ k, k < 3 ∧ r.stamp = .forward o.stamp k := by
  simp only [LaunchSection.forwardRows, List.mem_cons, List.not_mem_nil, or_false] at hr
  rcases hr with rfl | rfl | rfl
  · exact ⟨0, by omega, rfl⟩
  · exact ⟨1, by omega, rfl⟩
  · exact ⟨2, by omega, rfl⟩

theorem map_stamp_undoingRows (o : Opening) (later : Incarnations) (revertStamp : Nat) :
    (o.launch.undoingRows later o.tx revertStamp).map AccountRow.stamp =
      [.undoing o.stamp revertStamp 3, .undoing o.stamp revertStamp 4] := by
  rw [LaunchSection.undoingRows_eq]
  split <;> rfl

theorem sorted_undoingRows (o : Opening) (later : Incarnations) (revertStamp : Nat) :
    (o.launch.undoingRows later o.tx revertStamp).Pairwise fun r s => r.stamp.Precedes s.stamp := by
  rw [← List.pairwise_map (f := AccountRow.stamp), o.map_stamp_undoingRows later revertStamp]
  exact List.pairwise_pair.2 (RowStamp.undoing_precedes_offset (by omega) (by omega))

theorem stamp_of_mem_undoingRows {o : Opening} {later : Incarnations} {revertStamp : Nat}
    {r : AccountRow} (hr : r ∈ o.launch.undoingRows later o.tx revertStamp) :
    r.stamp = .undoing o.stamp revertStamp 3 ∨ r.stamp = .undoing o.stamp revertStamp 4 := by
  have found := List.mem_map_of_mem (f := AccountRow.stamp) hr
  rw [o.map_stamp_undoingRows later revertStamp] at found
  simpa using found

/-! ## Message calls -/

/-- All snapshots of a message call carry the deployment information of now. -/
theorem Opened.current (h : o.Opened setting s row) (message : o.tx.isDeployment = false) :
    Transition.IsCurrent o.incarnations o.tx.sender s.gasPayment ∧
      Transition.IsCurrent o.incarnations o.tx.sender s.valueTransfer ∧
      Transition.IsCurrent o.incarnations o.tx.recipient s.valueReception := by
  obtain ⟨left, left', sum, f⟩ := h.figures
  have still : o.incarnations = setting.incarnations := by
    have effect := h.announced.incarnations
    rwa [if_neg (by simp [message])] at effect
  have sender : s.sender.IsCurrent o.incarnations := by
    rw [h.announced.sender, still]
    exact Snapshot.isCurrent_capture ..
  have charged : s.charged.IsCurrent o.incarnations := by
    obtain ⟨_, -, eq⟩ := h.announced.charged
    rw [eq]
    exact sender
  have debited : s.debited.IsCurrent o.incarnations := by
    rw [f.debited]
    exact charged
  have recipient : s.recipient.IsCurrent o.incarnations := by
    rw [h.announced.recipient]
    split
    · exact debited
    · rw [still]
      exact Snapshot.isCurrent_capture ..
  have credited : s.credited.IsCurrent o.incarnations := by
    obtain ⟨_, -, eq⟩ := h.announced.credited
    rw [eq, if_neg (by simp [message])]
    exact recipient
  have debitedAddress : s.debited.address = o.tx.sender := by
    rw [f.debited]
    exact f.chargedAddress
  exact ⟨⟨f.senderAddress, f.chargedAddress, sender, charged⟩,
    ⟨f.chargedAddress, debitedAddress, charged, debited⟩,
    ⟨f.recipientAddress, f.creditedAddress, recipient, credited⟩⟩

theorem Opened.current_forwardRows (h : o.Opened setting s row)
    (message : o.tx.isDeployment = false) :
    ∀ r ∈ o.launch.forwardRows o.tx, r.IsCurrent o.incarnations := by
  obtain ⟨gas, value, reception⟩ := h.current message
  intro r hr
  rw [h.launch] at hr
  simp only [LaunchSection.forwardRows, List.mem_cons, List.not_mem_nil, or_false] at hr
  rcases hr with rfl | rfl | rfl
  · exact gas.of_ends rfl rfl
  · exact value.of_ends rfl rfl
  · exact reception.of_ends rfl rfl

theorem Opened.current_undoingRows (h : o.Opened setting s row)
    (message : o.tx.isDeployment = false) (revertStamp : Nat) :
    ∀ r ∈ o.launch.undoingRows o.incarnations o.tx revertStamp, r.IsCurrent o.incarnations := by
  obtain ⟨-, value, reception⟩ := h.current message
  have sender : (LaunchSection.senderBack { s with root? := some row } o.incarnations).IsCurrent
      o.incarnations o.tx.sender :=
    ⟨value.addressAfter, value.addressBefore, ⟨rfl, value.after.2⟩, ⟨rfl, value.before.2⟩⟩
  have recipient : (LaunchSection.recipientBack { s with root? := some row }
      o.incarnations).IsCurrent o.incarnations o.tx.recipient :=
    ⟨reception.addressAfter, reception.addressBefore, ⟨rfl, reception.after.2⟩,
      ⟨rfl, reception.before.2⟩⟩
  intro r hr
  rw [h.launch, LaunchSection.undoingRows_eq] at hr
  split at hr
  all_goals
    simp only [List.mem_cons, List.not_mem_nil, or_false] at hr
    rcases hr with rfl | rfl
  · exact recipient.row _
  · exact sender.row _
  · exact sender.row _
  · exact recipient.row _

end Opening

end ExecutionTrace
