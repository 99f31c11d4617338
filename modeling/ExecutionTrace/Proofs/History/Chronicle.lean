import ExecutionTrace.Proofs.History.Recorded
import ExecutionTrace.Proofs.Run.Stages

/-!
# The chronicle of a transaction

The ledger of a transaction that is over: every account row that its sections show, in order, with
what each of them should lead to.

## Main Definitions

* `Opening.recorded` — the record of a transaction that has just been started
* `Opening.preserved` — every step keeps the record
* `Chronicle` — the ledger of a transaction that is over
* `Episode.chronicle` — every transaction of a run has one

## Design Notes

The rows that undo a failed transaction itself are appended at its very end, long after the rollback
that they belong to.  They still come last in the history: they name the oldest section, and the
rollback that undoes the root context is the last thing that happens at its stamp.
-/

namespace ExecutionTrace

variable {chain : Chain} {o : Opening} {m m' : Machine}

/-! ## The record at the start -/

namespace Opening

theorem exists_of_mem_firstPostings {e : Posting} (he : e ∈ o.firstPostings) :
    e.IsHonest ∧ e.row ∈ o.launch.forwardRows o.tx ∧
      ∃ k, k < 3 ∧ e.row.stamp = .forward o.stamp k := by
  obtain ⟨r, hr, rfl⟩ := List.mem_map.1 he
  exact ⟨r.isHonest_posting, hr, stamp_of_mem_forwardRows hr⟩

/-- **Before the first call** the ledger consists of the rows of the transaction. -/
theorem kept_firstPostings {setting : Setting} {s : LaunchSection} {row : ContextRow}
    (opened : o.Opened setting s row) : Kept o o.stamp [] o.base o.firstPostings := by
  obtain ⟨left, left', sum, figures⟩ := opened.figures
  have rows : o.firstPostings.map (·.row) = o.rows [] :=
    (AccountRow.rows_postings _).trans (List.append_nil _).symm
  have moves : o.firstPostings.map Posting.move =
      (o.launch.forwardRows o.tx).map AccountRow.move :=
    AccountRow.moves_postings _
  -- Forward rows come before every rollback at their own stamp.
  have early : ∀ e ∈ o.firstPostings, ∀ stamp k,
      e.row.stamp.Precedes (.undoing stamp o.stamp k) := by
    intro e he stamp k
    obtain ⟨-, -, k', small, same⟩ := exists_of_mem_firstPostings he
    rw [same]
    exact RowStamp.forward_precedes_undoing (Nat.le_refl _) (by omega)
  refine ⟨Nat.le_refl _, .nil, List.forall_mem_nil _, List.forall_mem_nil _, ⟨?_, ?_, ?_⟩, ?_,
    List.forall_mem_nil _, fun e he => early e he _ _, ?_, List.forall_mem_nil _⟩
  · rw [rows]
  · exact List.pairwise_map.2 o.sorted_forwardRows
  · rw [moves]
    exact figures.leads_forward opened
  · intro e he k
    obtain ⟨-, -, k', small, same⟩ := exists_of_mem_firstPostings he
    rw [same]
    exact RowStamp.forward_precedes_later (Nat.lt_succ_self _) (by omega)
  · exact fun e he => .inl (exists_of_mem_firstPostings he).1

/-- **A transaction that has been started is on record.** -/
theorem recorded {run : Episode chain} (staged : run.Staged o) :
    Recorded o run.begun o.rootLevel [] o.firstPostings := by
  obtain ⟨s, row, opened⟩ := staged.opened
  have shown : o.shown run.begun = o.base := by
    rw [Opening.shown, staged.world]
    rfl
  refine ⟨⟨_, s, row, opened⟩, staged.running, ?_, staged.incarnations, ?_, ?_,
    ⟨[], (List.append_nil _).symm, List.forall_mem_nil _⟩, ?_⟩
  · intro c spawner
    cases spawner
  · rw [staged.stamp, shown]
    exact kept_firstPostings opened
  · intro a e last
    exact (exists_of_mem_firstPostings (mem_of_lastOn last).1).1
  · rw [shown]
    exact .root rfl (.nil _)

/-- **Every step keeps the record.** -/
theorem preserved (o : Opening) :
    Preserved o fun m l outer => ∃ postings, Recorded o m l outer postings where
  running := fun ⟨_, recorded⟩ => ⟨recorded.running, recorded.scripted⟩
  called := fun ⟨_, recorded⟩ called => recorded.called called
  returned := by
    rintro m l below outer outcome m' ⟨postings, recorded⟩ finished
    cases finished with
    | nested spawned stamped running world stamp incarnations =>
        obtain ⟨l', postings', recorded'⟩ :=
          recorded.returned spawned stamped running world stamp incarnations
        exact ⟨l', outer, postings', recorded'⟩

end Opening

/-! ## The ledger of a transaction that is over -/

/-- **The ledger of a transaction that is over.** -/
structure Chronicle (run : Episode chain) (o : Opening) (postings : List Posting) : Prop where
  tx : o.tx = run.tx
  balanced : ∀ c ∈ run.calls, c.Balanced
  /-- The snapshots that a call was announced with are about its parties. -/
  concerns : ∀ c ∈ run.calls, c.scenario ≠ .exception → ∀ p, c.before? = some p →
    c.Concerns o.incarnations p
  complete : (postings.map (·.row)).Perm (run.rows.filterMap Row.account?)
  sorted : postings.Pairwise fun e f => e.row.stamp.Precedes f.row.stamp
  leads : ∃ w, Leads o.start (postings.map Posting.move) w
  /-- Up to its code, the last row on every account ends where the root context left it. -/
  last : ∀ a e, lastOn a postings = some e → ∃ code, e.row.after.face =
    { run.left.world.view chain o.incarnations a with code }
  betrayals : ∀ e ∈ postings, e.IsHonest ∨ ∃ c ∈ run.calls, c.Betrays e
  current : run.tx.isDeployment = false → ∀ e ∈ postings, e.row.IsCurrent o.incarnations

/-- The end of the transaction does not change what is said of a row that ends elsewhere. -/
theorem CallSection.Betrays.shut {c : CallSection} {e : Posting} (betrays : c.Betrays e) :
    c.shut.Betrays e := by
  have rows := c.accountRows_shut
  obtain ⟨body, closing, eq, -⟩ := c.shut_cases
  rw [eq] at rows ⊢
  exact ⟨betrays.scenario, rows ▸ betrays.row, betrays.stamp, betrays.address, betrays.after,
    betrays.target⟩

theorem CallSection.Accounted.concerns_shut {c : CallSection} {incarnations : Incarnations}
    (accounted : c.Accounted incarnations) (unexceptional : c.shut.scenario ≠ .exception)
    {p : Parties} (latched : c.shut.before? = some p) : c.shut.Concerns incarnations p := by
  obtain ⟨body, closing, eq, -⟩ := c.shut_cases
  rw [eq] at unexceptional latched ⊢
  exact (accounted.concerns unexceptional p (.inl latched)).congr rfl rfl

/-! ## The end of a transaction that failed -/

/-- The rows that undo a failed transaction are its last postings. -/
def Opening.lastPostings (o : Opening) (later : Incarnations) (revertStamp : Nat) : List Posting :=
  (o.launch.undoingRows later o.tx revertStamp).map AccountRow.posting

namespace Kept

variable {now : Nat} {calls : List CallSection} {postings : List Posting} {later : Incarnations}

/-- **The rows that undo a failed transaction come last.** -/
theorem ledger_undone (kept : Kept o now calls o.base postings) {setting : Setting}
    {s : LaunchSection} {row : ContextRow} (opened : o.Opened setting s row)
    (later : Incarnations) :
    Ledger o.start o.undone (o.rows calls ++ o.launch.undoingRows later o.tx now)
      (postings ++ o.lastPostings later now) := by
  obtain ⟨left, left', sum, figures⟩ := opened.figures
  have rows : (o.lastPostings later now).map (·.row) = o.launch.undoingRows later o.tx now :=
    AccountRow.rows_postings _
  have moves : (o.lastPostings later now).map Posting.move =
      (o.launch.undoingRows later o.tx now).map AccountRow.move :=
    AccountRow.moves_postings _
  refine kept.ledger.append ?_ ?_ ?_ ?_
  · rw [rows]
  · have sorted := o.sorted_undoingRows later now
    rw [← rows, List.pairwise_map] at sorted
    exact sorted
  · intro e he f hf
    have room := kept.launchRoom e he
    have found : f.row ∈ o.launch.undoingRows later o.tx now := by
      rw [← rows]
      exact List.mem_map_of_mem hf
    rcases Opening.stamp_of_mem_undoingRows found with first | second
    · rw [first]
      exact room
    · rw [second]
      exact room.trans (RowStamp.undoing_precedes_offset (by omega) (by omega))
  · rw [moves]
    exact figures.leads_undoing opened later now

end Kept

/-! ## Every transaction has a chronicle -/

/-- **What the postings of a transaction amount to**: they lead to a view, and the last row on every
account ends there or at what is left behind.  Neither differs from the world that is left behind in
more than code. -/
structure Concluded (o : Opening) (world : WorldState) (rows : List AccountRow)
    (postings : List Posting) (w : View) : Prop where
  ledger : Ledger o.start w rows postings
  agrees : w.SameButCode (world.view o.chain o.incarnations)
  shows : ∀ a e, lastOn a postings = some e → e.IsHonest ∨
    ∃ code, e.row.after.face = { world.view o.chain o.incarnations a with code }

theorem Concluded.last {world : WorldState} {rows : List AccountRow} {postings : List Posting}
    {w : View} (h : Concluded o world rows postings w) {a : Address} {e : Posting}
    (last : lastOn a postings = some e) :
    ∃ code, e.row.after.face = { world.view o.chain o.incarnations a with code } := by
  rcases h.shows a e last with honest | shown
  · obtain ⟨code, same⟩ := h.agrees a
    exact ⟨code, honest.trans ((h.ledger.target_eq last).trans same)⟩
  · exact shown

/-- **A transaction that succeeded** is concluded by the return of its root context. -/
theorem Kept.concluded_of_success {now : Nat} {calls : List CallSection} {postings : List Posting}
    {later : Incarnations} {before world : WorldState}
    (kept : Kept o now calls (before.view o.chain o.incarnations) postings)
    (shows : LastShows (before.view o.chain later) postings)
    (left : world = before ∨ ∃ a code, world = before.setCode a code) :
    Concluded o world (o.rows calls) postings (before.view o.chain o.incarnations) := by
  have agrees : ∀ i, (before.view o.chain i).SameButCode (world.view o.chain o.incarnations) := by
    intro i
    refine (before.view_sameButCode o.chain i o.incarnations).trans ?_
    rcases left with rfl | ⟨a, code, rfl⟩
    · exact world.view_sameButCode o.chain o.incarnations o.incarnations
    · exact before.view_setCode_sameButCode o.chain o.incarnations a code
  refine ⟨kept.ledger, agrees _, fun a e last => ?_⟩
  refine (shows a e last).imp_right fun shown => ?_
  obtain ⟨code, same⟩ := agrees later a
  exact ⟨code, shown.trans same⟩

/-- **A transaction that failed** is concluded by the rows that undo it. -/
theorem Kept.concluded_of_failure {now : Nat} {calls : List CallSection} {postings : List Posting}
    {later : Incarnations} {setting : Setting} {s : LaunchSection} {row : ContextRow}
    (kept : Kept o now calls o.base postings) (opened : o.Opened setting s row)
    (shows : LastShows (o.charged.view o.chain later) postings) (latest : Incarnations) :
    Concluded o o.charged (o.rows calls ++ o.launch.undoingRows latest o.tx now)
      (postings ++ o.lastPostings latest now) o.undone := by
  refine ⟨kept.ledger_undone opened latest, o.undone_eq, fun a e last => ?_⟩
  rcases lastOn_append_cases last with ⟨own, -⟩ | last
  · obtain ⟨r, -, rfl⟩ := List.mem_map.1 own
    exact .inl r.isHonest_posting
  · refine (shows a e last).imp_right fun shown => ?_
    obtain ⟨code, same⟩ := o.charged.view_sameButCode o.chain later o.incarnations a
    exact ⟨code, shown.trans same⟩

namespace Episode

/-- The postings of the rollback of the root context. -/
def rootPostings (run : Episode chain) (l : Level) : List Posting :=
  l.endPostings chain run.left.tracer.incarnations run.leaving.tracer.stamp run.outcome.success

/-- The postings that undo a transaction if it failed. -/
def lastPostings (run : Episode chain) (o : Opening) (revertStamp : Nat) : List Posting :=
  if run.outcome.success then [] else o.lastPostings run.left.tracer.incarnations revertStamp

theorem isHonest_of_mem_lastPostings (run : Episode chain) {revertStamp : Nat} {e : Posting}
    (he : e ∈ run.lastPostings o revertStamp) : e.IsHonest := by
  unfold lastPostings at he
  split at he
  · cases he
  · obtain ⟨r, -, rfl⟩ := List.mem_map.1 he
    exact r.isHonest_posting

end Episode

/-- The level of a root context was spawned by nobody. -/
theorem Stacked.root_eq {t : ContextTree} {tx : Transaction} {stop : Nat} {l : Level}
    (stacked : Stacked t tx stop [l]) :
    l.spawner? = none ∧ l.entry.isDeployment = tx.isDeployment := by
  cases stacked with
  | root _ spawner _ deployment => exact ⟨spawner, deployment⟩

namespace Recorded

variable {run : Episode chain} {l : Level} {revertStamp : Nat} {postings : List Posting}

/-- A message call leaves the incarnations alone. -/
theorem incarnations_left (recorded : Recorded o run.leaving l [] postings)
    (departs : run.Departs o l revertStamp) (message : o.tx.isDeployment = false) :
    run.left.tracer.incarnations = o.incarnations := by
  have plain : l.entry.isDeployment = false :=
    recorded.running.stacked.root_eq.2.trans message
  rw [departs.incarnations, Level.incarnationsAfter, plain, recorded.incarnations]
  rfl

/-- **The postings of a transaction whose root context has been left**: those on record, those of
the rollback of the root context, and those that undo the transaction itself. -/
theorem concluded (recorded : Recorded o run.leaving l [] postings)
    (departs : run.Departs o l revertStamp) (here : o.chain = chain) :
    ∃ now w w', Kept o now (run.remainder l) w (postings ++ run.rootPostings l) ∧
      Concluded o run.left.world (o.rows (run.remainder l) ++ if run.outcome.success then []
        else o.launch.undoingRows run.left.tracer.incarnations o.tx revertStamp)
        (postings ++ run.rootPostings l ++ run.lastPostings o revertStamp) w' := by
  subst here
  obtain ⟨setting, s, row, opened⟩ := recorded.opened
  have split : callsOf [l] = [] ++ l.settled := by
    simp [callsOf, Level.calls, recorded.running.stacked.root_eq.1]
  cases recorded.unwinds with
  | root checkpoint back =>
  have world := departs.world
  obtain ⟨kept, shows⟩ := recorded.remainder split back run.left.tracer.incarnations
    run.outcome.success
  rw [List.nil_append] at kept
  have remainder : l.remainder o.chain run.left.tracer.incarnations run.leaving.tracer.stamp
      run.outcome.success = run.remainder l := by
    rw [Episode.remainder, departs.incarnations]
  rw [remainder] at kept
  change Kept o _ (run.remainder l) _ (postings ++ run.rootPostings l) at kept
  change LastShows _ (postings ++ run.rootPostings l) at shows
  unfold Episode.lastPostings
  by_cases success : run.outcome.success = true
  · rw [success] at kept shows
    rw [if_pos success, if_pos success]
    have left : run.left.world = run.leaving.world ∨
        ∃ a code, run.left.world = run.leaving.world.setCode a code := by
      rw [world, success]
      split
      · exact .inr ⟨_, _, rfl⟩
      · exact .inl rfl
    refine ⟨_, _, o.shown run.leaving, kept, ?_⟩
    rw [List.append_nil, List.append_nil]
    exact kept.concluded_of_success shows left
  · have failed : run.outcome.success = false := Bool.eq_false_iff.2 success
    rw [failed] at kept shows
    rw [failed, Bool.false_and, if_neg Bool.false_ne_true, Level.worldAfter,
      if_neg Bool.false_ne_true, checkpoint] at world
    have stamped : revertStamp = run.leaving.tracer.stamp :=
      (departs.closed.stamped failed).trans departs.stamp
    rw [if_neg success, if_neg success, world, stamped]
    rw [Level.worldAfter, if_neg Bool.false_ne_true, checkpoint] at shows
    exact ⟨_, _, _, kept, kept.concluded_of_failure opened shows _⟩

/-- **All postings of a message call are current**, since it leaves the incarnations alone. -/
theorem isCurrent_of_message (recorded : Recorded o run.leaving l [] postings)
    (departs : run.Departs o l revertStamp) (here : o.chain = chain)
    (message : o.tx.isDeployment = false) {e : Posting}
    (he : e ∈ postings ++ run.rootPostings l ++ run.lastPostings o revertStamp) :
    e.row.IsCurrent o.incarnations := by
  subst here
  obtain ⟨setting, s, row, opened⟩ := recorded.opened
  have incarnations := recorded.incarnations_left departs message
  have split : callsOf [l] = [] ++ l.settled := by
    simp [callsOf, Level.calls, recorded.running.stacked.root_eq.1]
  rcases List.mem_append.1 he with before | last
  · rcases List.mem_append.1 before with before | root
    · obtain ⟨made, rfl, current⟩ := recorded.current
      rcases List.mem_append.1 before with first | made
      · exact opened.current_forwardRows message _ (Opening.exists_of_mem_firstPostings first).2.1
      · exact current e made
    · rw [Episode.rootPostings, incarnations] at root
      exact recorded.current_endPostings split _ root
  · unfold Episode.lastPostings at last
    split at last
    · cases last
    · obtain ⟨r, hr, rfl⟩ := List.mem_map.1 last
      rw [incarnations] at hr
      exact opened.current_undoingRows message _ r hr

/-- **The record of a transaction becomes its chronicle.** -/
theorem chronicle (recorded : Recorded o run.leaving l [] postings) (staged : run.Staged o)
    (departs : run.Departs o l revertStamp) :
    Chronicle run o (postings ++ run.rootPostings l ++ run.lastPostings o revertStamp) := by
  obtain ⟨now, w, w', kept, concluded⟩ := recorded.concluded departs staged.chain
  have calls := departs.calls_eq staged
  have shut : ∀ c' ∈ run.calls, ∃ c ∈ run.remainder l, c.shut = c' := by
    intro c' hc'
    rw [calls] at hc'
    exact List.mem_map.1 hc'
  refine ⟨staged.tx, ?_, ?_, ?_, concluded.ledger.sorted, ⟨w', concluded.ledger.leads⟩, ?_, ?_, ?_⟩
  · intro c' hc'
    obtain ⟨c, hc, rfl⟩ := shut c' hc'
    exact (kept.accounted c hc).toBalanced.shut
  · intro c' hc' unexceptional p latched
    obtain ⟨c, hc, rfl⟩ := shut c' hc'
    exact (kept.accounted c hc).concerns_shut unexceptional latched
  · refine concluded.ledger.complete.trans ?_
    have same : run.calls.flatMap (·.accountRows) =
        (run.remainder l).flatMap (·.accountRows) := by
      rw [calls, List.flatMap_map]
      exact List.flatMap_congr fun c _ => c.accountRows_shut
    rw [departs.accountRows_eq staged, same, Opening.rows, List.append_assoc, List.append_assoc]
    exact List.Perm.append_left _ List.perm_append_comm
  · obtain rfl := staged.chain
    exact fun a e last => concluded.last last
  · intro e he
    rcases List.mem_append.1 he with before | after
    · rcases kept.betrayals e before with honest | ⟨c, hc, betrays⟩
      · exact .inl honest
      · refine .inr ⟨c.shut, ?_, betrays.shut⟩
        rw [calls]
        exact List.mem_map_of_mem hc
    · exact .inl (run.isHonest_of_mem_lastPostings after)
  · intro message e he
    rw [← staged.tx] at message
    exact recorded.isCurrent_of_message departs staged.chain message he

end Recorded

/-- **Every transaction of a run has a chronicle.** -/
theorem Episode.chronicle (run : Episode chain) : ∃ o postings, Chronicle run o postings := by
  obtain ⟨o, staged⟩ := run.staged
  obtain ⟨l, revertStamp, ⟨postings, recorded⟩, departs⟩ :=
    staged.departs o.preserved ⟨_, o.recorded staged⟩
  exact ⟨o, _, recorded.chronicle staged departs⟩

end ExecutionTrace
