import ExecutionTrace.Proofs.Tracer.Announcements

/-!
# The end of a transaction

When a transaction is over its first section and then its calls complete their rows, and
afterwards nobody waits for anything.

## Main Definitions

* `LaunchSection.finished`, `CallSection.shut` — the sections of a transaction that is over
* `Tracing.endTransaction_yields` — a transaction that executed code
* `Tracer.endTransaction_of_settlement` — a transaction that ran none
-/

namespace ExecutionTrace

/-! ## Completed sections -/

namespace LaunchSection

/-- **The launch section once its transaction is over.** -/
def finished (s : LaunchSection) (tx : Transaction) (outcome : TransactionOutcome)
    (incarnations : Incarnations) (revertStamp : Nat) : LaunchSection :=
  let undoing := if outcome.success then [] else s.undoingRows incarnations tx revertStamp
  { s with
    root? := none
    trace := s.trace.append
      ([.misc {}, .transaction (TransactionRow.ofOutcome tx true outcome)] ++
        (s.forwardRows tx ++ undoing).map .account ++ s.root?.toList.map .context) }

theorem finish_eq {setting : Setting} {s : LaunchSection} {tx : Transaction}
    {outcome : TransactionOutcome} {frame : Frame} (transaction : setting.transaction? = some tx)
    (root : s.root?.isSome) (found : setting.contexts.frame? rootContext = some frame) :
    finish setting outcome s =
      .ok () (s.finished tx outcome setting.incarnations frame.revertStamp) := by
  obtain ⟨row, root⟩ := Option.isSome_iff_exists.1 root
  have looked : setting.contexts.get rootContext = .ok frame := ContextTree.get_eq_ok found
  have traced : setting.transaction = .ok tx := Setting.transaction_eq_ok transaction
  cases s
  simp only at root
  subst root
  obtain ⟨success, gasUsed⟩ := outcome
  unfold finish
  rw [traced, looked]
  cases success with
  | true =>
      refine Eq.trans (b := .ok () _) rfl ?_
      simp [finished, Trace.append]
  | false =>
      refine Eq.trans (b := .ok () _) rfl ?_
      simp [finished, Trace.append]

/-- A launch section that waits for the end of its transaction has entered its root context. -/
theorem root_of_awaits {s : LaunchSection} (waits : s.awaits = [.transactionEnd]) :
    s.root?.isSome ∧ s.trace.isEmpty = true := by
  unfold awaits at waits
  split at waits
  · rename_i empty
    cases root : s.root? with
    | none => simp [root] at waits
    | some row => exact ⟨rfl, empty⟩
  · cases waits

theorem awaits_finished (s : LaunchSection) (tx : Transaction) (outcome : TransactionOutcome)
    (incarnations : Incarnations) (revertStamp : Nat) :
    (s.finished tx outcome incarnations revertStamp).awaits = [] := by
  refine if_neg ?_
  simp [finished, Trace.isEmpty, Trace.append]

/-- The account rows of a launch section once its transaction is over. -/
theorem accountRows_finished (s : LaunchSection) (tx : Transaction)
    (outcome : TransactionOutcome) (incarnations : Incarnations) (revertStamp : Nat) :
    (s.finished tx outcome incarnations revertStamp).trace.accountRows =
      s.trace.accountRows ++ (s.forwardRows tx ++
        if outcome.success then [] else s.undoingRows incarnations tx revertStamp) := by
  have contexts : ∀ row? : Option ContextRow,
      (row?.toList.map Row.context).filterMap Row.account? = [] := by
    intro row?
    cases row? <;> rfl
  rw [finished, Trace.accountRows_append, List.filterMap_append, List.filterMap_append, contexts,
    filterMap_account?_map, List.append_nil]
  rfl

end LaunchSection

namespace CallSection

/-- **A call once its transaction is over.** -/
def shut (c : CallSection) : CallSection :=
  c.heed .transactionClosed closed

/-- The last rows of a call are about no account. -/
theorem shut_cases (c : CallSection) : ∃ rows closing,
    c.shut = { c.append rows with closing? := closing } ∧ rows.filterMap Row.account? = [] := by
  unfold shut heed
  split
  · refine ⟨c.closingRows, none, rfl, ?_⟩
    have last : (c.closing?.toList.map Row.context).filterMap Row.account? = [] := by
      cases c.closing? <;> rfl
    unfold closingRows
    rw [List.filterMap_append, last, List.append_nil]
    split
    · exact filterMap_account?_run c.run?
    · rfl
  · exact ⟨[], c.closing?, by rw [append_nil], rfl⟩

/-- The end of the transaction changes neither the parties of a call nor what became of it. -/
@[simp]
theorem shut_terms (c : CallSection) : c.shut.shared = c.shared ∧ c.shut.kind = c.kind ∧
    c.shut.callee = c.callee ∧ c.shut.scenario = c.scenario := by
  obtain ⟨rows, closing, eq, -⟩ := c.shut_cases
  rw [eq]
  exact ⟨rfl, rfl, rfl, rfl⟩

/-- The last rows of a call are appended to those that it had. -/
theorem shut_shows (c : CallSection) :
    c.shut.stack = c.stack ∧ c.shut.pushed? = c.pushed? ∧ c.shut.misc = c.misc := by
  obtain ⟨rows, closing, eq, -⟩ := c.shut_cases
  obtain ⟨stack, pushed, misc, -⟩ := c.append_shows rows
  rw [eq]
  exact ⟨stack, pushed, misc⟩

theorem accountRows_shut (c : CallSection) : c.shut.accountRows = c.accountRows := by
  obtain ⟨rows, closing, eq, none⟩ := c.shut_cases
  rw [eq]
  show (c.append rows).accountRows = _
  rw [accountRows, (c.append_shows rows).2.2.2, List.filterMap_append, none, List.append_nil]
  rfl

/-- A call without a closing row gets none. -/
theorem shut_of_closed {c : CallSection} (closing : c.closing? = none)
    (resolved : c.scenario.isUndefined = false) : c.shut = c := by
  have isOver : c.awaits = [] := by simp [awaits, isClosed, closing, resolved]
  rw [shut, heed, if_neg (by simp [isOver])]

/-- **The rows that the end of the transaction adds to a call.** -/
theorem body_shut {c : CallSection} {row : ContextRow} (closing : c.closing? = some row) :
    c.shut.body = c.body ++
      (if c.scenario.isPrecompileCall then (c.run?.map PrecompileRun.rows).getD [] else []) ++
      [.context row] := by
  have waits : .transactionClosed ∈ c.awaits := by
    rw [awaits_of_closing (Option.isSome_iff_exists.2 ⟨row, closing⟩)]
    simp
  rw [shut, heed, if_pos waits]
  show (c.append c.closingRows).body = _
  rw [(c.append_shows _).2.2.2, closingRows, closing, List.append_assoc]
  rfl

/-- Nothing can happen to a call whose transaction is over. -/
theorem Resolved.awaits_shut {c : CallSection} (h : c.Resolved) : c.shut.awaits = [] := by
  have shutUp : ∀ c : CallSection, c.scenario.isUndefined = false → c.closed.awaits = [] := by
    intro c resolved
    have scenario : c.closed.scenario = c.scenario := rfl
    refine if_pos ?_
    rw [isClosed, scenario, resolved]
    rfl
  unfold shut heed
  rcases h with dismissed | standing | undone
  · rw [dismissed.awaits_eq, if_neg List.not_mem_nil, dismissed.awaits_eq]
  · rw [standing.awaits_eq, if_pos (by simp)]
    exact shutUp c standing.isUndefined_eq
  · rw [undone.awaits_eq, if_pos (by simp)]
    exact shutUp c undone.isUndefined_eq

/-- A call that waits for its transaction to be over is one that its last row completes. -/
theorem Resolved.close_eq_of_awaits {c : CallSection} (h : c.Resolved)
    (waits : .transactionClosed ∈ c.awaits) : close c = .ok () c.closed := by
  rcases h with dismissed | standing | undone
  · rw [dismissed.awaits_eq] at waits
    cases waits
  · exact close_eq standing.closing standing.isUndefined_eq
  · exact close_eq undone.closing undone.isUndefined_eq

end CallSection

/-! ## The announcement -/

namespace Tracing

variable {t : Tracer} {older : List Section} {launch : LaunchSection} {calls : List CallSection}
  {chain : Chain} {world : WorldState}

/-- The end of a transaction concerns nobody but its launch section, which completes its rows. -/
theorem fire_transactionEnd (tracing : Tracing t older launch calls) {tx : Transaction}
    (transaction : t.transaction? = some tx) {frame : Frame}
    (found : t.contexts.frame? LaunchSection.rootContext = some frame)
    (resolved : ∀ c ∈ calls, c.Resolved) (outcome : TransactionOutcome) {E : Violation → Prop} :
    Yields (Tracer.fire chain (.transactionEnd world outcome) t)
      (fun _ t' => t'.toSetting = t.toSetting ∧ t'.Attuned ∧
        t'.sections.toList = older ++
          .launch (launch.finished tx outcome t.incarnations frame.revertStamp) ::
            calls.map .call) E := by
  let last := launch.finished tx outcome t.incarnations frame.revertStamp
  have quiet : last.awaits = [] := LaunchSection.awaits_finished ..
  obtain ⟨root, -⟩ := LaunchSection.root_of_awaits tracing.launched
  have nobody : ∀ s ∈ older ++ calls.map Section.call, .transactionEnd ∉ s.awaits := by
    intro s hs waits
    rcases List.mem_append.1 hs with old | called
    · rw [tracing.silent s old] at waits
      cases waits
    · obtain ⟨c, hc, rfl⟩ := List.mem_map.1 called
      rcases (resolved c hc).mem_awaits waits with ⟨-, same⟩ | same <;> cases same
  have waits : .transactionEnd ∈ launch.awaits := by simp [tracing.launched]
  have completes : Yields (Tracer.fire chain (.transactionEnd world outcome) t)
      (fun _ t' => t'.toSetting = t.toSetting ∧ t'.Attuned ∧
        ∃ s, s = .launch last ∧ t'.sections.toList = older ++ s :: calls.map .call) E := by
    refine tracing.attuned.fire_only tracing.sections nobody waits ?_ ?_
    · show Yields (Section.within .launch launch _) _ _
      rw [Section.within, LaunchSection.finish_eq transaction root found]
      exact rfl
    · rintro _ rfl e
      show e ∈ last.awaits ↔ e ∈ launch.awaits ∧ _
      rw [quiet, tracing.launched]
      refine Section.mem_iff_of_filter_ne ?_ e
      simp [Occurrence.event]
  refine completes.mono ?_ fun _ h => h
  rintro _ t' ⟨setting, attuned, _, rfl, sections⟩
  exact ⟨setting, attuned, sections⟩

/-- Once a transaction is over, all of its calls complete their rows. -/
theorem fire_transactionClosed (attuned : t.Attuned)
    (sections : t.sections.toList = older ++ calls.map .call)
    (silent : ∀ s ∈ older, s.awaits = []) (resolved : ∀ c ∈ calls, c.Resolved)
    {E : Violation → Prop} :
    Yields (Tracer.fire chain .transactionClosed t)
      (fun _ t' => t'.toSetting = t.toSetting ∧
        t'.sections.toList = older ++ (calls.map CallSection.shut).map .call) E := by
  let change : Section → Section :=
    Section.heed Occurrence.transactionClosed.event (Section.onCall CallSection.closed)
  have closing : ∀ s ∈ t.sections, Occurrence.transactionClosed.event ∈ s.awaits →
      Yields (Section.react chain t.toSetting .transactionClosed s)
        (fun _ s' => s' = Section.onCall CallSection.closed s) E := by
    intro s hs waits
    rw [← Array.mem_toList_iff, sections, List.mem_append, List.mem_map] at hs
    rcases hs with old | ⟨c, hc, rfl⟩
    · rw [silent s old] at waits
      cases waits
    · show Yields (Section.within .call c _) _ _
      rw [Section.within, (resolved c hc).close_eq_of_awaits waits]
      exact rfl
  refine (attuned.fire_reaches closing).mono ?_ fun _ h => h
  rintro _ _ ⟨rfl, -⟩
  have kept : older.map change = older := by
    refine Section.map_heed_of_nobody fun s hs => ?_
    rw [silent s hs]
    exact List.not_mem_nil
  have shut : (calls.map Section.call).map change = (calls.map CallSection.shut).map .call := by
    rw [List.map_map, List.map_map]
    refine List.map_congr_left fun c _ => ?_
    show Section.heed _ _ (.call c) = .call (c.heed .transactionClosed CallSection.closed)
    by_cases waits : .transactionClosed ∈ c.awaits
    · rw [CallSection.heed, if_pos waits]
      exact if_pos waits
    · rw [CallSection.heed, if_neg waits]
      exact if_neg waits
  refine ⟨rfl, ?_⟩
  rw [Array.toList_map, sections, List.map_append, kept, shut]

/-- **The end of a transaction that executed code.** -/
theorem endTransaction_yields (tracing : Tracing t older launch calls) {tx : Transaction}
    (transaction : t.transaction? = some tx) {frame : Frame}
    (found : t.contexts.frame? LaunchSection.rootContext = some frame)
    (resolved : ∀ c ∈ calls, c.Resolved) (outcome : TransactionOutcome) {E : Violation → Prop} :
    Yields (Tracer.endTransaction chain world outcome t)
      (fun _ t' => t'.toSetting = { t.toSetting with transaction? := none } ∧
        t'.sections.toList = older ++
          .launch (launch.finished tx outcome t.incarnations frame.revertStamp) ::
            (calls.map CallSection.shut).map .call ∧
        t'.Attuned ∧ ∀ s ∈ t'.sections, s.awaits = []) E := by
  let last := launch.finished tx outcome t.incarnations frame.revertStamp
  have silent : ∀ s ∈ older ++ [.launch last], s.awaits = [] := by
    intro s hs
    rcases List.mem_append.1 hs with old | new
    · exact tracing.silent s old
    · rw [List.mem_singleton.1 new]
      exact LaunchSection.awaits_finished ..
  unfold Tracer.endTransaction
  refine Ends.bind (requireTransaction_yields (Option.isSome_iff_exists.2 ⟨tx, transaction⟩)) ?_
  rintro _ t rfl
  refine Ends.bind (tracing.fire_transactionEnd transaction found resolved outcome) ?_
  rintro _ t₁ ⟨setting₁, attuned, sections₁⟩
  rw [List.append_cons] at sections₁
  refine Ends.bind (fire_transactionClosed attuned sections₁ silent resolved) ?_
  rintro _ t₂ ⟨setting₂, sections₂⟩
  have done : ∀ s ∈ t₂.sections, s.awaits = [] := by
    intro s hs
    rw [← Array.mem_toList_iff, sections₂, List.mem_append, List.mem_map] at hs
    rcases hs with first | ⟨_, hc, rfl⟩
    · exact silent s first
    · obtain ⟨c, own, rfl⟩ := List.mem_map.1 hc
      exact (resolved c own).awaits_shut
  refine ⟨?_, ?_, Tracer.attuned_of_silent rfl done, done⟩
  · show { t₂.toSetting with transaction? := none } = _
    rw [setting₂, setting₁]
  · show t₂.sections.toList = _
    rw [sections₂, List.append_assoc]
    rfl

end Tracing

/-! ## Transactions that ran no code -/

namespace SettlementSection

variable {chain : Chain} {setting : Setting} {world : WorldState} {outcome : TransactionOutcome}
  {s : SettlementSection}

theorem settleSender_grants (tx : Transaction) (gasUsed : UInt64) (final : Snapshot) :
    Grants (s.settleSender tx gasUsed final) (fun _ => True) (fun v => ¬v.IsDisagreement) := by
  unfold settleSender
  split
  · refine Grants.bind (Snapshot.debit_grants ..) fun _ _ => ?_
    refine Grants.bind (Snapshot.debit_grants ..) fun _ _ => ?_
    exact Grants.bind (Snapshot.raiseNonce_grants ..) fun _ _ => trivial
  · trivial

theorem settleRecipient_grants (tx : Transaction) (reward : Word) (sender : Transition)
    (final coinbase : Snapshot) :
    Grants (s.settleRecipient tx reward sender final coinbase) (fun _ => True)
      (fun v => ¬v.IsDisagreement) := by
  unfold settleRecipient
  split
  · exact Grants.bind (Snapshot.credit_grants ..) fun _ _ => trivial
  split
  · refine Grants.bind (Snapshot.debit_grants ..) fun _ _ => ?_
    exact Grants.bind (Snapshot.debit_grants ..) fun _ _ => trivial
  · trivial

theorem settleCoinbase_grants (reward : Word) (final : Snapshot) :
    Grants (s.settleCoinbase reward final) (fun _ => True) (fun v => ¬v.IsDisagreement) := by
  unfold settleCoinbase
  split
  · exact Grants.bind (Snapshot.debit_grants ..) fun _ _ => trivial
  · trivial

/-- **A settlement that succeeds completes its section.** -/
theorem finish_grants {tx : Transaction} (transaction : setting.transaction? = some tx)
    (success : outcome.success = true) :
    Grants (s.finish chain setting world outcome) (fun s' => s'.awaits = [])
      (fun v => ¬v.IsDisagreement) := by
  unfold finish
  dsimp only
  rw [if_pos success]
  refine Grants.bind_ok (Setting.transaction_eq_ok transaction) ?_
  refine Grants.bind (Q := fun _ => True) ?_ fun transitions _ => ?_
  · unfold settle
    refine Grants.bind (settleSender_grants ..) fun _ _ => ?_
    refine Grants.bind (settleRecipient_grants ..) fun _ _ => ?_
    exact Grants.bind (settleCoinbase_grants ..) fun _ _ => trivial
  · refine if_neg ?_
    simp [Trace.isEmpty, Trace.append]

end SettlementSection

/-- **The end of a transaction that ran no code.** -/
theorem Tracer.endTransaction_of_settlement {t : Tracer} {chain : Chain} {world : WorldState}
    {older : List Section} {s : SettlementSection} {tx : Transaction} (attuned : t.Attuned)
    (transaction : t.transaction? = some tx)
    (sections : t.sections.toList = older ++ [.settlement s])
    (silent : ∀ s ∈ older, s.awaits = []) (waits : s.awaits = [.transactionEnd])
    {outcome : TransactionOutcome} (success : outcome.success = true) :
    Yields (Tracer.endTransaction chain world outcome t)
      (fun _ t' => t'.toSetting = { t.toSetting with transaction? := none } ∧
        (∃ s', s.finish chain t.toSetting world outcome = .ok s' ∧
          t'.sections.toList = older ++ [.settlement s']) ∧
        t'.Attuned ∧ ∀ s ∈ t'.sections, s.awaits = [])
      (fun v => s.finish chain t.toSetting world outcome = .error v) := by
  have granted : Grants (s.finish chain t.toSetting world outcome) (fun s' => s'.awaits = [])
    (fun v => ¬v.IsDisagreement) := SettlementSection.finish_grants transaction success
  have nobody : ∀ r ∈ older ++ [], .transactionEnd ∉ r.awaits := by
    intro r hr
    rw [silent r (List.append_nil older ▸ hr)]
    exact List.not_mem_nil
  have waiting : .transactionEnd ∈ (Section.settlement s).awaits := by
    show .transactionEnd ∈ s.awaits
    simp [waits]
  -- The settlement is what the end of its transaction makes of it, and then waits for nothing.
  have settles : Yields (Tracer.fire chain (.transactionEnd world outcome) t)
      (fun _ t' => t'.toSetting = t.toSetting ∧ t'.Attuned ∧
        ∃ s', (∃ r, s' = .settlement r ∧ s.finish chain t.toSetting world outcome = .ok r ∧
          r.awaits = []) ∧ t'.sections.toList = older ++ [s'])
      (fun v => s.finish chain t.toSetting world outcome = .error v) := by
    refine attuned.fire_only sections nobody waiting ?_ ?_
    · show Yields (Section.replace .settlement s (s.finish ..)) _ _
      unfold Section.replace
      cases result : s.finish chain t.toSetting world outcome with
      | error v => exact rfl
      | ok r => exact ⟨r, rfl, rfl, granted.value result⟩
    · rintro _ ⟨r, rfl, -, idle⟩ e
      show e ∈ r.awaits ↔ e ∈ s.awaits ∧ _
      rw [idle, waits]
      refine Section.mem_iff_of_filter_ne ?_ e
      simp [Occurrence.event]
  unfold Tracer.endTransaction
  refine Ends.bind (Tracing.requireTransaction_yields
    (Option.isSome_iff_exists.2 ⟨tx, transaction⟩)) ?_
  rintro _ t rfl
  refine Ends.bind settles ?_
  rintro _ t₁ ⟨setting, attuned₁, _, ⟨r, rfl, finished, idle⟩, sections₁⟩
  have done : ∀ s ∈ t₁.sections, s.awaits = [] := by
    intro s hs
    rw [← Array.mem_toList_iff, sections₁, List.mem_append, List.mem_singleton] at hs
    rcases hs with old | rfl
    · exact silent s old
    · exact idle
  refine Ends.bind (attuned₁.fire_nobody fun s hs => by simp [done s hs]) ?_
  rintro _ t₂ heeded
  have same : t₂.sections = t₁.sections := by
    rw [heeded.sections, Array.map_id]
  have done₂ : ∀ s ∈ t₂.sections, s.awaits = [] := same ▸ done
  refine ⟨?_, ⟨r, finished, ?_⟩, Tracer.attuned_of_silent rfl done₂, done₂⟩
  · show { t₂.toSetting with transaction? := none } = _
    rw [heeded.setting, setting]
  · show t₂.sections.toList = _
    rw [same, sections₁]

end ExecutionTrace
