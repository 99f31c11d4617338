import ExecutionTrace.Proofs.History.Histories

/-!
# The history of an account that is deployed to

A deployment raises the deployment number of its recipient and sets its deployment status when the
value reaches it.  The number stays as it is from then on.  The status stays set while the
constructor runs, and if the constructor fails the last row of the history takes it back.

## Main Definitions

* `Snapshot.incarnation` — the deployment number and status that a snapshot carries
* `Episode.Deploys` — the four parts of the history of the recipient
* `Episode.deployment_follows_cycle` — every deployment that runs a constructor has such a history

## Design Notes

The constructor has ended when its failure is rolled back, so the rows that undo its calls carry a
status that is no longer set, although the row that takes the status back comes only after them.
Among them, the row that cools down the callee of a failed call starts with the status that was set
when control returned from that call.  So the status follows from row to row wherever no call on the
recipient is undone, and only there.
-/

namespace ExecutionTrace

variable {chain : Chain}

/-! ## Deployment information -/

namespace Snapshot

/-- The deployment number and status that a snapshot carries. -/
def incarnation (s : Snapshot) : Nat × Bool :=
  (s.deploymentNumber, s.deploymentStatus)

theorem IsCurrent.incarnation_eq {s : Snapshot} {incarnations : Incarnations}
    (current : s.IsCurrent incarnations) :
    s.incarnation = (incarnations.number s.address, incarnations.isDeploying s.address) :=
  Prod.ext current.1 current.2

end Snapshot

/-- What a row on an account says, in terms of two tables. -/
theorem AccountRow.Crosses.incarnation_eq {earlier later : Incarnations} {row : AccountRow}
    {a : Address} (crosses : row.Crosses earlier later) (own : row.address = a) :
    row.before.incarnation = (earlier.number a, earlier.isDeploying a) ∧
      row.after.incarnation = (later.number a, later.isDeploying a) := by
  have address : row.before.address = a := own
  rw [crosses.before.incarnation_eq, crosses.after.incarnation_eq, crosses.address, address]
  exact ⟨rfl, rfl⟩

/-- The rows of postings that are about an account. -/
def rowsOn (a : Address) (postings : List Posting) : List AccountRow :=
  (postings.filter (·.row.address = a)).map (·.row)

theorem rowsOn_append (a : Address) (postings more : List Posting) :
    rowsOn a (postings ++ more) = rowsOn a postings ++ rowsOn a more := by
  rw [rowsOn, List.filter_append, List.map_append]
  rfl

theorem mem_rowsOn {a : Address} {postings : List Posting} {r : AccountRow} :
    r ∈ rowsOn a postings ↔ ∃ e ∈ postings, e.row.address = a ∧ e.row = r := by
  simp only [rowsOn, List.mem_map, List.mem_filter, decide_eq_true_eq, and_assoc]

/-- The row that shows the value reach the recipient. -/
def LaunchSection.receptionRow (s : LaunchSection) (tx : Transaction) : AccountRow :=
  { s.valueReception.trimmedRow tx.recipient.toWord (.forward s.trace.shared.stamp 2) with
    requiresCode := true }

/-- A cooling row stays one at the end of the transaction. -/
theorem CallSection.CoolsDown.shut {c : CallSection} {r : AccountRow} (cools : c.CoolsDown r) :
    c.shut.CoolsDown r := by
  have rows := c.accountRows_shut
  obtain ⟨body, closing, eq, -⟩ := c.shut_cases
  rw [eq] at rows ⊢
  exact ⟨cools.scenario, rows ▸ cools.row, cools.stamp⟩

/-! ## The rows of the transaction itself -/

namespace Opening

variable {o : Opening} {setting : Setting} {s : LaunchSection} {row : ContextRow}

/-- **What is fixed of a deployment** that runs a constructor. -/
structure Deploying (o : Opening) (setting : Setting) (s : LaunchSection) (row : ContextRow) :
    Prop where
  opened : o.Opened setting s row
  deployment : o.tx.isDeployment = true
  quiet : setting.incarnations.Quiet

namespace Deploying

theorem apart (h : o.Deploying setting s row) : o.tx.sender ≠ o.tx.recipient :=
  h.opened.announced.apart h.deployment

theorem incarnations_eq (h : o.Deploying setting s row) :
    o.incarnations = setting.incarnations.set o.tx.recipient
      { number := setting.incarnations.number o.tx.recipient + 1
        initCode? := some o.tx.payload } := by
  have effect := h.opened.announced.incarnations
  rw [if_pos h.deployment] at effect
  exact effect.2

theorem number_eq (h : o.Deploying setting s row) :
    o.incarnations.number o.tx.recipient = setting.incarnations.number o.tx.recipient + 1 := by
  rw [h.incarnations_eq, Incarnations.number_set, if_pos rfl]

theorem isDeploying (h : o.Deploying setting s row) :
    o.incarnations.isDeploying o.tx.recipient = true := by
  rw [h.incarnations_eq, Incarnations.isDeploying_set, if_pos rfl]
  rfl

/-- The recipient before the deployment. -/
theorem incarnation_recipient (h : o.Deploying setting s row) :
    s.recipient.incarnation = (setting.incarnations.number o.tx.recipient, false) := by
  rw [h.opened.announced.recipient, if_neg h.apart,
    (Snapshot.isCurrent_capture ..).incarnation_eq, Snapshot.address_capture, h.quiet]

/-- **The recipient as the constructor finds it.** -/
theorem incarnation_credited (h : o.Deploying setting s row) :
    s.credited.incarnation = (setting.incarnations.number o.tx.recipient + 1, true) := by
  obtain ⟨left, left', sum, figures⟩ := h.opened.figures
  obtain ⟨_, -, credited⟩ := h.opened.announced.credited
  rw [if_pos h.deployment] at credited
  have current : s.credited.IsCurrent o.incarnations := by
    rw [credited]
    exact ⟨rfl, rfl⟩
  rw [current.incarnation_eq, figures.creditedAddress, h.number_eq, h.isDeploying]

/-- **While the constructor runs** its number and its status stay as they are. -/
theorem incarnation_of_isCurrent (h : o.Deploying setting s row) {r : AccountRow}
    (current : r.IsCurrent o.incarnations) (own : r.address = o.tx.recipient) :
    r.before.incarnation = (setting.incarnations.number o.tx.recipient + 1, true) ∧
      r.after.incarnation = (setting.incarnations.number o.tx.recipient + 1, true) := by
  rw [← h.number_eq, ← h.isDeploying]
  exact current.crosses.incarnation_eq own

/-- **The row that starts the deployment.** -/
theorem incarnation_receptionRow (h : o.Deploying setting s row) :
    (o.launch.receptionRow o.tx).before.incarnation =
        (setting.incarnations.number o.tx.recipient, false) ∧
      (o.launch.receptionRow o.tx).after.incarnation =
        (setting.incarnations.number o.tx.recipient + 1, true) := by
  have launch := h.opened.launch
  constructor
  · show o.launch.recipient.incarnation = _
    rw [launch]
    exact h.incarnation_recipient
  · show o.launch.credited.incarnation = _
    rw [launch]
    exact h.incarnation_credited

/-- The rows on the recipient before any code runs. -/
theorem rowsOn_firstPostings (h : o.Deploying setting s row) :
    rowsOn o.tx.recipient o.firstPostings = [o.launch.receptionRow o.tx] := by
  obtain ⟨left, left', sum, figures⟩ := h.opened.figures
  have launch := h.opened.launch
  have rows : o.firstPostings =
      [(o.launch.gasPayment.trimmedRow o.tx.sender.toWord (.forward o.stamp 0)).posting,
        (o.launch.valueTransfer.row (.forward o.stamp 1)).posting,
        (o.launch.receptionRow o.tx).posting] := rfl
  have payer : o.launch.sender.address = o.tx.sender := by
    rw [launch]
    exact figures.senderAddress
  have charged : o.launch.charged.address = o.tx.sender := by
    rw [launch]
    exact figures.chargedAddress
  have recipient : o.launch.recipient.address = o.tx.recipient := by
    rw [launch]
    exact figures.recipientAddress
  rw [rowsOn, rows, List.filter_cons_of_neg, List.filter_cons_of_neg, List.filter_cons_of_pos,
    List.filter_nil]
  · rfl
  · exact decide_eq_true recipient
  · exact fun same => h.apart (charged.symm.trans (of_decide_eq_true same))
  · exact fun same => h.apart (payer.symm.trans (of_decide_eq_true same))

/-- **The row that undoes the deployment.** -/
theorem rowsOn_lastPostings (h : o.Deploying setting s row) {later : Incarnations}
    (revertStamp : Nat)
    (number : later.number o.tx.recipient = setting.incarnations.number o.tx.recipient + 1) :
    ∃ r, rowsOn o.tx.recipient (o.lastPostings later revertStamp) = [r] ∧
      r.before.incarnation = (setting.incarnations.number o.tx.recipient + 1, true) ∧
      r.after.incarnation = (setting.incarnations.number o.tx.recipient + 1, false) := by
  obtain ⟨left, left', sum, figures⟩ := h.opened.figures
  have launch := h.opened.launch
  have sender : (o.launch.senderBack later).before.address = o.tx.sender := by
    rw [launch]
    show s.debited.address = _
    rw [figures.debited]
    exact figures.chargedAddress
  have recipient : o.launch.recipient.address = o.tx.recipient := by
    rw [launch]
    exact figures.recipientAddress
  have credited : o.launch.credited.address = o.tx.recipient := by
    rw [launch]
    exact figures.creditedAddress
  have running : o.launch.credited.deploymentStatus = true := by
    rw [launch]
    exact congrArg Prod.snd h.incarnation_credited
  have idle : o.launch.recipient.deploymentStatus = false := by
    rw [launch]
    exact congrArg Prod.snd h.incarnation_recipient
  refine ⟨(o.launch.recipientBack later).row (.undoing o.stamp revertStamp 4), ?_, ?_, ?_⟩
  · rw [rowsOn, lastPostings, LaunchSection.undoingRows_eq, if_neg h.apart, List.map_cons,
      List.map_singleton, List.filter_cons_of_neg, List.filter_cons_of_pos, List.filter_nil]
    · rfl
    · exact decide_eq_true credited
    · exact fun same => h.apart (sender.symm.trans (of_decide_eq_true same))
  · show (later.number o.launch.credited.address, o.launch.credited.deploymentStatus) = _
    rw [credited, number, running]
  · show (later.number o.launch.recipient.address, o.launch.recipient.deploymentStatus) = _
    rw [recipient, number, idle]

end Deploying

end Opening

/-! ## The end of the constructor -/

namespace Recorded

variable {run : Episode chain} {o : Opening} {l : Level} {revertStamp : Nat}
  {postings : List Posting} {setting : Setting} {s : LaunchSection} {row : ContextRow}

/-- **The constructor ends** with the root context, and its number stays. -/
theorem incarnation_left (recorded : Recorded o run.leaving l [] postings)
    (departs : run.Departs o l revertStamp) (deploying : o.Deploying setting s row) :
    run.left.tracer.incarnations.number o.tx.recipient =
        setting.incarnations.number o.tx.recipient + 1 ∧
      run.left.tracer.incarnations.isDeploying o.tx.recipient = false := by
  obtain ⟨deploys, address⟩ : l.entry.isDeployment = o.tx.isDeployment ∧
      l.entry.address = o.tx.recipient := by
    cases recorded.running.stacked with
    | root _ _ _ deploys address => exact ⟨deploys, address⟩
  have ended : run.left.tracer.incarnations = o.incarnations.ended o.tx.recipient := by
    rw [departs.incarnations, Level.incarnationsAfter, deploys, deploying.deployment, if_pos rfl,
      address, recorded.incarnations]
  rw [ended, Incarnations.number_ended, Incarnations.isDeploying, Incarnations.initCode?_ended,
    if_pos rfl]
  exact ⟨deploying.number_eq, rfl⟩

/-- The rows that undo the calls of the root context are current, except those that cool down the
callee of a failed call. -/
theorem of_mem_rootPostings (recorded : Recorded o run.leaving l [] postings)
    (staged : run.Staged o) (departs : run.Departs o l revertStamp) {e : Posting}
    (he : e ∈ run.rootPostings l) : e.row.IsCurrent run.left.tracer.incarnations ∨
      (∃ c ∈ run.calls, c.CoolsDown e.row) ∧
        e.row.Crosses o.incarnations run.left.tracer.incarnations := by
  unfold Episode.rootPostings Level.endPostings at he
  split at he
  · cases he
  rename_i failed
  have failure : run.outcome.success = false := Bool.eq_false_iff.2 failed
  obtain ⟨c, hc, found⟩ := mem_rollbackPostings he
  have own : c ∈ callsOf [l] := by
    simp [callsOf, Level.calls, hc]
  obtain ⟨resolved, -⟩ := recorded.running.stacked.sound.settled c hc
  refine (resolved.isCurrent_or_coolsDown (recorded.kept.accounted c own) found).imp_right ?_
  rintro ⟨cools, crosses⟩
  -- At the end of the transaction the call is found among the others, shut.
  refine ⟨⟨_, ?_, cools.shut⟩, crosses⟩
  rw [departs.calls_eq staged]
  refine List.mem_map_of_mem ?_
  rw [Episode.remainder, failure, ← departs.incarnations]
  exact List.mem_map_of_mem hc

/-- **The rows that undo the calls of a constructor** tell that it has ended. -/
theorem incarnation_of_mem_rootPostings (recorded : Recorded o run.leaving l [] postings)
    (staged : run.Staged o) (departs : run.Departs o l revertStamp)
    (deploying : o.Deploying setting s row) {r : AccountRow}
    (hr : r ∈ rowsOn o.tx.recipient (run.rootPostings l)) :
    r.after.incarnation = (setting.incarnations.number o.tx.recipient + 1, false) ∧
      (r.before.incarnation = (setting.incarnations.number o.tx.recipient + 1, false) ∨
        r.before.incarnation = (setting.incarnations.number o.tx.recipient + 1, true) ∧
          ∃ c ∈ run.calls, c.CoolsDown r) := by
  obtain ⟨e, he, own, rfl⟩ := mem_rowsOn.1 hr
  obtain ⟨number, idle⟩ := recorded.incarnation_left departs deploying
  rcases recorded.of_mem_rootPostings staged departs he with now | ⟨cools, crosses⟩
  · have tells := now.crosses.incarnation_eq own
    rw [number, idle] at tells
    exact ⟨tells.2, .inl tells.1⟩
  · have tells := crosses.incarnation_eq own
    rw [deploying.number_eq, deploying.isDeploying, number, idle] at tells
    exact ⟨tells.2, .inr ⟨tells.1, cools⟩⟩

end Recorded

/-! ## The history of the recipient -/

namespace Episode

/-- **The history of an account that is deployed to**, in four parts: the row that starts the
deployment, those of the calls that the constructor makes, those that undo them, and the row that
undoes the deployment itself. -/
structure Deploys (run : Episode chain) (number : Nat) (reception : AccountRow)
    (steady undone closing : List AccountRow) : Prop where
  history : run.history run.tx.recipient = reception :: (steady ++ undone ++ closing)
  stamp : reception.stamp = .forward run.begun.tracer.stamp 2
  starts : reception.before.incarnation = (number, false) ∧
    reception.after.incarnation = (number + 1, true)
  runs : ∀ r ∈ steady, r.before.incarnation = (number + 1, true) ∧
    r.after.incarnation = (number + 1, true)
  /-- Rows that undo calls tell of a constructor that has ended. -/
  undoes : ∀ r ∈ undone, r.after.incarnation = (number + 1, false) ∧
    (r.before.incarnation = (number + 1, false) ∨
      r.before.incarnation = (number + 1, true) ∧ ∃ c ∈ run.calls, c.CoolsDown r)
  succeeds : run.outcome.success = true → undone = [] ∧ closing = []
  fails : run.outcome.success = false → ∃ r, closing = [r] ∧
    r.before.incarnation = (number + 1, true) ∧ r.after.incarnation = (number + 1, false)

namespace Deploys

variable {run : Episode chain} {number : Nat} {reception : AccountRow}
  {steady undone closing : List AccountRow}

/-- The row that undoes the deployment. -/
theorem of_mem_closing (h : run.Deploys number reception steady undone closing) {r : AccountRow}
    (hr : r ∈ closing) : closing = [r] ∧ r.before.incarnation = (number + 1, true) ∧
      r.after.incarnation = (number + 1, false) := by
  cases success : run.outcome.success with
  | true =>
      rw [(h.succeeds success).2] at hr
      cases hr
  | false =>
      obtain ⟨last, rfl, ends⟩ := h.fails success
      obtain rfl := List.mem_singleton.1 hr
      exact ⟨rfl, ends⟩

/-- **The number never changes again** once the deployment has started. -/
theorem isChain_number (h : run.Deploys number reception steady undone closing) :
    (run.history run.tx.recipient).IsChain fun r s =>
      r.after.deploymentNumber = s.before.deploymentNumber := by
  -- Whatever the rows say of the status, all but the first have the new number at both ends.
  have later : ∀ r ∈ steady ++ undone ++ closing, r.before.deploymentNumber = number + 1 ∧
      r.after.deploymentNumber = number + 1 := by
    intro r hr
    simp only [List.mem_append] at hr
    rcases hr with (own | own) | own
    · obtain ⟨before, after⟩ := h.runs r own
      exact ⟨congrArg Prod.fst before, congrArg Prod.fst after⟩
    · obtain ⟨after, before | ⟨before, -⟩⟩ := h.undoes r own
      · exact ⟨congrArg Prod.fst before, congrArg Prod.fst after⟩
      · exact ⟨congrArg Prod.fst before, congrArg Prod.fst after⟩
    · obtain ⟨-, before, after⟩ := h.of_mem_closing own
      exact ⟨congrArg Prod.fst before, congrArg Prod.fst after⟩
  rw [h.history]
  refine List.Pairwise.isChain (List.pairwise_cons.2 ⟨fun s hs => ?_, ?_⟩)
  · exact (congrArg Prod.fst h.starts.2).trans (later s hs).1.symm
  · exact List.pairwise_of_forall_mem_list fun r hr s hs =>
      (later r hr).2.trans (later s hs).1.symm

/-- **The status follows one cycle** where no call on the recipient is undone. -/
theorem isChain_incarnation (h : run.Deploys number reception steady [] closing) :
    (run.history run.tx.recipient).IsChain fun r s =>
      r.after.incarnation = s.before.incarnation := by
  rw [h.history, List.append_nil]
  refine List.Pairwise.isChain (List.pairwise_cons.2 ⟨fun s hs => ?_, ?_⟩)
  · rcases List.mem_append.1 hs with steady | closing
    · exact h.starts.2.trans (h.runs s steady).1.symm
    · exact h.starts.2.trans (h.of_mem_closing closing).2.1.symm
  refine List.pairwise_append.2 ⟨?_, ?_, fun r hr s hs => ?_⟩
  · exact List.pairwise_of_forall_mem_list fun r hr s hs =>
      (h.runs r hr).2.trans (h.runs s hs).1.symm
  · cases closing with
    | nil => exact .nil
    | cons r rest =>
        rw [(h.of_mem_closing (.head _)).1]
        exact List.pairwise_singleton ..
  · exact (h.runs r hr).2.trans (h.of_mem_closing hs).2.1.symm

end Deploys

/-- The parts of the history, read off the chronicle. -/
theorem exists_deploys (run : Episode chain) (deployment : run.tx.isDeployment = true) :
    ∃ reception steady undone closing, run.Deploys
      (run.idle.tracer.incarnations.number run.tx.recipient) reception steady undone closing := by
  obtain ⟨o, staged⟩ := run.staged
  obtain ⟨s, row, opened⟩ := staged.opened
  obtain ⟨l, revertStamp, ⟨postings, recorded⟩, departs⟩ :=
    staged.departs o.preserved ⟨_, o.recorded staged⟩
  have deploying : o.Deploying (run.idle.tracer.beginSetting run.tx) s row :=
    ⟨opened, by rw [staged.tx, deployment], staged.idle.quiet⟩
  have chronicle := recorded.chronicle staged departs
  obtain ⟨made, rfl, current⟩ := recorded.current
  obtain ⟨number, -⟩ := recorded.incarnation_left departs deploying
  obtain ⟨back, closing, before, after⟩ := deploying.rowsOn_lastPostings revertStamp number
  have history : run.history o.tx.recipient = rowsOn o.tx.recipient (o.firstPostings ++ made ++
      run.rootPostings l ++ run.lastPostings o revertStamp) := chronicle.history_eq _
  rw [rowsOn_append, rowsOn_append, rowsOn_append, deploying.rowsOn_firstPostings] at history
  rw [← staged.tx]
  refine ⟨o.launch.receptionRow o.tx, rowsOn o.tx.recipient made,
    rowsOn o.tx.recipient (run.rootPostings l),
    rowsOn o.tx.recipient (run.lastPostings o revertStamp), ?_, ?_,
    deploying.incarnation_receptionRow, ?_, ?_, ?_, ?_⟩
  · rw [← staged.tx, history]
    rfl
  · show RowStamp.forward o.stamp 2 = _
    rw [staged.stamp]
  · intro r hr
    obtain ⟨e, he, own, rfl⟩ := mem_rowsOn.1 hr
    exact deploying.incarnation_of_isCurrent (current e he) own
  · exact fun r hr => recorded.incarnation_of_mem_rootPostings staged departs deploying hr
  · intro success
    simp [rowsOn, Episode.rootPostings, Level.endPostings, Episode.lastPostings, success]
  · intro failure
    refine ⟨back, ?_, before, after⟩
    rw [Episode.lastPostings, if_neg (by simp [failure])]
    exact closing

/-- **Deployments and the history of their recipient**: the number rises by one where the value
reaches the recipient, and never changes again.  The status is set there and stays set in all rows
of a constructor that succeeds; if the constructor fails, the last row takes it back.  The rows in
between, which undo the calls of a failed constructor, carry a status that is not set any more.
Where there are none the status follows from row to row. -/
theorem deployment_follows_cycle (run : Episode chain) (deployment : run.tx.isDeployment = true) :
    ∃ reception steady undone closing,
      run.Deploys (run.idle.tracer.incarnations.number run.tx.recipient) reception steady undone
        closing ∧
      ((run.history run.tx.recipient).IsChain fun r s =>
        r.after.deploymentNumber = s.before.deploymentNumber) ∧
      (undone = [] → (run.history run.tx.recipient).IsChain fun r s =>
        r.after.incarnation = s.before.incarnation) := by
  obtain ⟨reception, steady, undone, closing, deploys⟩ := run.exists_deploys deployment
  refine ⟨reception, steady, undone, closing, deploys, deploys.isChain_number, ?_⟩
  rintro rfl
  exact deploys.isChain_incarnation

end Episode

/-! ## A constructor that makes a call -/

/-- If a constructor pays nothing to an account without code and fails, the status does not follow
from row to row: the rows that undo the call start and end with a status that is not set, before the
last row takes it back. -/
theorem status_breaks_after_failure : ∃ run : Episode .ethereum,
    run.tx.isDeployment = true ∧ ¬(run.history run.tx.recipient).IsChain fun r s =>
      r.after.incarnation = s.before.incarnation := by
  have evaluated : Script.stage.rehearse .ethereum Script.constructor
      [.call (.make .call 0xe0a 0)] .failed 30000 (fun idle _ closed =>
        decide ((Machine.sortedRows idle closed).Pairwise fun r s => r.stamp.Precedes s.stamp) &&
          decide (¬((Machine.sortedRows idle closed).filter
            (·.address = Script.constructor.recipient)).IsChain fun r s =>
              r.after.incarnation = s.before.incarnation)) = true := by
    decide +kernel
  obtain ⟨run, tx, seen⟩ := Machine.exists_episode Script.reachable_stage evaluated
  obtain ⟨sorted, breaks⟩ := Bool.and_eq_true_iff.1 seen
  rw [← run.history_eq_sortedRows (of_decide_eq_true sorted), ← tx] at breaks
  exact ⟨run, by rw [tx]; rfl, of_decide_eq_true breaks⟩

/-- What the history of that account looks like in general. -/
theorem deployment_follows_cycle_after_failure : ∃ run : Episode .ethereum,
    run.tx.isDeployment = true ∧ run.outcome.success = false ∧
      ∃ reception steady undone closing,
        run.Deploys (run.idle.tracer.incarnations.number run.tx.recipient) reception steady undone
          closing := by
  have evaluated : Script.stage.rehearse .ethereum Script.constructor
      [.call (.make .call 0xe0a 0)] .failed 30000 (fun _ _ _ => true) = true := by
    decide +kernel
  obtain ⟨run, tx, outcome, -⟩ := Machine.exists_prompt_episode Script.reachable_stage evaluated
  have deployment : run.tx.isDeployment = true := by
    rw [tx]
    rfl
  obtain ⟨reception, steady, undone, closing, deploys, -⟩ := run.deployment_follows_cycle deployment
  exact ⟨run, deployment, by rw [outcome]; rfl, reception, steady, undone, closing, deploys⟩

end ExecutionTrace
