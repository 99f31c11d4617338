import ExecutionTrace.Proofs.History.Record

/-!
# A running transaction and its ledger

While a transaction executes, its ledger leads from the view that it started from to what the
machine shows, and every active context can still be undone.  Every step keeps both.

## Main Definitions

* `Unwinds` — undoing the calls of the active contexts leads back to where each was entered
* `Recorded` — a running transaction with its ledger
* `Recorded.called` — a call keeps the record
* `Recorded.returned` — so does the return from a context that has been finished

## Design Notes

A ledger alone does not say that a failed context can be undone: what its rollback undoes
has to lead from what the machine shows to the view that the context was entered with, and that
view belongs to no step that the machine has ahead of it.  So it is kept for every active context,
beside the call that spawned it.
-/

namespace ExecutionTrace

/-- **What a machine shows of its accounts** while the transaction executes. -/
def Opening.shown (o : Opening) (m : Machine) : View :=
  m.world.view o.chain o.incarnations

/-- **The active contexts can be undone**, the innermost first: undoing the calls of a context leads
to the view that it was entered with, and undoing the call that spawned it leads to the view
that this call was made in. -/
inductive Unwinds (o : Opening) : View → List Level → Prop
  | root {w : View} {l : Level} (checkpoint : l.checkpoint = o.charged)
      (back : Leads w (rollbackMoves l.settled) o.base) : Unwinds o w [l]
  | above {u v w : View} {l below : Level} {outer : List Level} {spawner : CallSection}
      {p q : Parties} (spawned : l.spawner? = some spawner)
      (made : spawner.Spawned o.incarnations u v p q)
      (checkpoint : l.checkpoint.view o.chain o.incarnations =
        Function.update u spawner.callee (u spawner.callee).warmed)
      (back : Leads w (rollbackMoves l.settled) v) (rest : Unwinds o u (below :: outer)) :
      Unwinds o w (l :: below :: outer)

/-- Calls that can be undone may join the innermost context. -/
theorem Unwinds.add {o : Opening} {w x : View} {l : Level} {outer : List Level}
    (h : Unwinds o w (l :: outer)) {more : List CallSection}
    (back : Leads x (rollbackMoves more) w) : Unwinds o x (l.add more :: outer) := by
  have further : ∀ {v}, Leads w (rollbackMoves l.settled) v →
      Leads x (rollbackMoves (l.add more).settled) v := by
    intro v old
    show Leads x (rollbackMoves (l.settled ++ more)) v
    rw [rollbackMoves_append]
    exact back.append old
  cases h with
  | root checkpoint old => exact .root checkpoint (further old)
  | above spawned made checkpoint old rest =>
      exact .above spawned made checkpoint (further old) rest

/-- **A running transaction with its ledger.** -/
structure Recorded (o : Opening) (m : Machine) (l : Level) (outer : List Level)
    (postings : List Posting) : Prop where
  opened : ∃ setting s row, o.Opened setting s row
  running : Running m o.tx o.older o.launch l outer
  scripted : l.Scripted
  incarnations : m.tracer.incarnations = o.incarnations
  kept : Kept o m.tracer.stamp (callsOf (l :: outer)) (o.shown m) postings
  honest : LastHonest postings
  /-- The rows of calls come later, and carry the deployment information of now. -/
  current : ∃ made, postings = o.firstPostings ++ made ∧ ∀ e ∈ made, e.row.IsCurrent o.incarnations
  unwinds : Unwinds o (o.shown m) (l :: outer)

/-- **What the end of a context adds to the ledger**: its rollback, if it failed. -/
def Level.endPostings (l : Level) (chain : Chain) (later : Incarnations) (now : Nat)
    (success : Bool) : List Posting :=
  if success then [] else rollbackPostings chain l.checkpoint later now l.settled

namespace Recorded

variable {o : Opening} {m m' : Machine} {l below : Level} {outer : List Level}
  {postings added : List Posting} {c : CallSection}

/-- Rows that are current may join the ledger. -/
theorem current_append (recorded : Recorded o m l outer postings)
    (new : ∀ e ∈ added, e.row.IsCurrent o.incarnations) :
    ∃ made, postings ++ added = o.firstPostings ++ made ∧
      ∀ e ∈ made, e.row.IsCurrent o.incarnations := by
  obtain ⟨made, rfl, current⟩ := recorded.current
  refine ⟨made ++ added, List.append_assoc .., fun e he => ?_⟩
  exact (List.mem_append.1 he).elim (current e) (new e)

/-! ## Calls -/

/-- The ledger after a call has been made. -/
theorem kept_made (recorded : Recorded o m l outer postings)
    (stamp : m'.tracer.stamp = m.tracer.stamp + 1)
    (made : c.Made o.incarnations (m.tracer.stamp + 1) (o.shown m) (o.shown m')) :
    Kept o m'.tracer.stamp (callsOf (l :: outer) ++ [c]) (o.shown m')
        (postings ++ c.accountRows.map AccountRow.posting) ∧
      LastHonest (postings ++ c.accountRows.map AccountRow.posting) ∧
      ∃ later, postings ++ c.accountRows.map AccountRow.posting = o.firstPostings ++ later ∧
        ∀ e ∈ later, e.row.IsCurrent o.incarnations := by
  refine ⟨?_, recorded.honest.append fun e he => ?_, recorded.current_append fun e he => ?_⟩
  · rw [stamp]
    exact recorded.kept.made made
  · obtain ⟨r, -, rfl⟩ := List.mem_map.1 he
    exact r.isHonest_posting
  · exact made.current e.row (Kept.of_mem_posting_made made he).2.1

/-- **A call that is over already** joins the calls of its context. -/
theorem joined (recorded : Recorded o m l outer postings)
    (running : Running m' o.tx o.older o.launch (l.add [c]) outer)
    (stamp : m'.tracer.stamp = m.tracer.stamp + 1)
    (incarnations : m'.tracer.incarnations = m.tracer.incarnations)
    (made : c.Made o.incarnations (m.tracer.stamp + 1) (o.shown m) (o.shown m'))
    (back : Leads (o.shown m') (c.reversal.map Transition.move) (o.shown m)) :
    Recorded o m' (l.add [c]) outer (postings ++ c.accountRows.map AccountRow.posting) := by
  obtain ⟨kept, honest, current⟩ := recorded.kept_made stamp made
  refine ⟨recorded.opened, running, recorded.scripted, incarnations.trans recorded.incarnations, ?_,
    honest, current, recorded.unwinds.add ?_⟩
  · rw [callsOf_add]
    exact kept
  · rw [rollbackMoves_singleton]
    exact back

/-- **A call whose child context executes code** adds a level. -/
theorem spawned (recorded : Recorded o m l outer postings) {child : Nat} {entry : ContextEntry}
    {checkpoint : WorldState} {p q : Parties} (warmed : checkpoint = m.world.warmUp c.callee)
    (running : Running m' o.tx o.older o.launch ⟨child, entry, checkpoint, some c, []⟩ (l :: outer))
    (stamp : m'.tracer.stamp = m.tracer.stamp + 1)
    (incarnations : m'.tracer.incarnations = m.tracer.incarnations)
    (made : c.Made o.incarnations (m.tracer.stamp + 1) (o.shown m) (o.shown m'))
    (spawned : c.Spawned o.incarnations (o.shown m) (o.shown m') p q) :
    Recorded o m' ⟨child, entry, checkpoint, some c, []⟩ (l :: outer)
      (postings ++ c.accountRows.map AccountRow.posting) := by
  obtain ⟨kept, honest, current⟩ := recorded.kept_made stamp made
  refine ⟨recorded.opened, running, ?_, incarnations.trans recorded.incarnations, kept, honest,
    current, .above rfl spawned ?_ (.nil _) recorded.unwinds⟩
  swap
  · rw [warmed]
    exact WorldState.view_warmUp ..
  intro c' same
  obtain rfl := Option.some.inj same
  exact spawned.scenario

/-- **A call keeps the record**, whatever becomes of it. -/
theorem called (recorded : Recorded o m l outer postings) {frame : Frame} {i : Invocation}
    (called : Running.Called o.chain m o.tx o.older o.launch l outer frame i c m') :
    ∃ l' outer' postings', Recorded o m' l' outer' postings' := by
  obtain ⟨entry, -, announced, effect, stamp, incarnations⟩ := called
  have now : (Running.callSetting m).incarnations = o.incarnations := recorded.incarnations
  have warm :
      (m.world.view o.chain (Running.callSetting m).incarnations c.caller).isWarm = true := by
    show (c.caller.isPrecompile o.chain || m.world.isWarm c.caller) = true
    rw [announced.caller, entry, recorded.running.warm l (.head _), Bool.or_true]
  -- Each effect of a call comes with the rows made up to then and with what is still to be made.
  cases effect with
  | dismissed raised running world =>
      have made := announced.made_exceptional raised
      rw [now, ← world] at made
      have same : o.shown m' = o.shown m := by rw [Opening.shown, world, Opening.shown]
      refine ⟨_, _, _, recorded.joined running stamp incarnations ?_ ?_⟩
      · exact same ▸ made.1
      · rw [same, made.2]
        exact .nil _
  | aborted quiet aborts running world =>
      have made := announced.made_aborted quiet aborts warm
      rw [now, ← world] at made
      exact ⟨_, _, _, recorded.joined running stamp incarnations made.1 made.2⟩
  | @immediate _ child outcome quiet proceeds other enters succeeds running world =>
      rcases enters with ⟨scenario, rfl⟩ | ⟨scenario | scenario, q, accepted, rfl⟩
      · rw [if_pos (succeeds scenario)] at world
        have made := announced.made_external child outcome quiet proceeds scenario warm
        rw [now, ← world] at made
        rw [recorded.incarnations] at running
        exact ⟨_, _, _, recorded.joined running stamp incarnations made.1 made.2⟩
      · have transferred := c.transfer_grants
          (.canonical o.chain m.world m.tracer.incarnations c.caller c.callee)
        rw [accepted] at transferred
        have entered :
            c.entered (.canonical o.chain m.world m.tracer.incarnations c.caller c.callee) q =
              { c with after? := some q } := by
          unfold CallSection.entered CallSection.entryRows
          simp only [scenario, List.map_nil, CallSection.append_nil]
        have made := announced.made_precompile child quiet proceeds scenario transferred warm world
        rw [now] at made
        rw [entered, recorded.incarnations] at running
        exact ⟨_, _, _, recorded.joined running stamp incarnations made.1 made.2⟩
      · exact absurd scenario other
  | spawned quiet proceeds scenario enters running world =>
      obtain ⟨q, accepted, rfl⟩ := enters.exists_entered (by simp [scenario])
      have transferred := c.transfer_grants
        (.canonical o.chain m.world m.tracer.incarnations c.caller c.callee)
      rw [accepted] at transferred
      have made := announced.made_spawned quiet proceeds scenario transferred warm
      rw [now, ← world] at made
      rw [recorded.incarnations] at running
      have callee : (c.entered (.canonical o.chain m.world o.incarnations c.caller c.callee)
          q).callee = c.callee := rfl
      exact ⟨_, _, _, recorded.spawned (congrArg m.world.warmUp callee.symm) running stamp
        incarnations made.1 made.2⟩

/-! ## Returns -/

/-- **What a context that has been finished leaves behind.** If it failed, everything that was done
in it is undone. -/
theorem remainder (recorded : Recorded o m l outer postings) {old : List CallSection} {v : View}
    (split : callsOf (l :: outer) = old ++ l.settled)
    (back : Leads (o.shown m) (rollbackMoves l.settled) v) (later : Incarnations)
    (success : Bool) :
    Kept o m.tracer.stamp (old ++ l.remainder o.chain later m.tracer.stamp success)
        (if success then o.shown m else v)
        (postings ++ l.endPostings o.chain later m.tracer.stamp success) ∧
      LastShows ((l.worldAfter m.world success).view o.chain later)
        (postings ++ l.endPostings o.chain later m.tracer.stamp success) := by
  have kept := recorded.kept
  rw [split] at kept
  have resolved : ∀ c ∈ l.settled, c.Resolved :=
    fun c hc => (recorded.running.stacked.sound.settled c hc).1
  unfold Level.remainder Level.worldAfter Level.endPostings
  cases success with
  | true =>
      simp only [if_true, List.append_nil]
      exact ⟨kept, recorded.honest.lastShows _⟩
  | false =>
      exact ⟨kept.fallBack resolved back, kept.lastShows_fallBack resolved recorded.honest⟩

/-- Ending a context that spawned from a call does not change what rows are current. -/
theorem current_endPostings (recorded : Recorded o m l outer postings) {old : List CallSection}
    (split : callsOf (l :: outer) = old ++ l.settled) (success : Bool) {e : Posting}
    (he : e ∈ l.endPostings o.chain o.incarnations m.tracer.stamp success) :
    e.row.IsCurrent o.incarnations := by
  have kept := recorded.kept
  rw [split] at kept
  unfold Level.endPostings at he
  split at he
  · cases he
  · exact kept.isCurrent_of_mem_rollbackPostings
      (fun c hc => (recorded.running.stacked.sound.settled c hc).1) he

/-- Nothing that a failed context leaves behind can be undone once more, and only the failure of
a context adds rows to the call that spawned it. -/
theorem not_revertible_of_remainder (recorded : Recorded o m l outer postings)
    {later : Incarnations} {spawner : CallSection} {child : Frame} {success : Bool}
    {p q : Parties} (adds : spawner.answerRows later child success p q ≠ []) :
    ∀ c ∈ l.remainder o.chain later m.tracer.stamp success, ¬c.Revertible := by
  cases success with
  | true => simp [CallSection.answerRows] at adds
  | false =>
  intro _ hc
  obtain ⟨c, own, rfl⟩ := List.mem_map.1 hc
  obtain ⟨resolved, -⟩ := recorded.running.stacked.sound.settled c own
  obtain ⟨isOver, fallen⟩ := resolved.fallBack o.chain l.checkpoint later m.tracer.stamp
  exact fun revertible => fallen (isOver.standing_of_revertible revertible)

/-- A failed context leaves nothing behind that could be undone, a successful one all of it. -/
theorem leads_remainder (recorded : Recorded o m l outer postings) {v w : View}
    {later : Incarnations} (back : Leads (o.shown m) (rollbackMoves l.settled) v) {success : Bool}
    (left : success = true → w = o.shown m) :
    Leads w (rollbackMoves (l.remainder o.chain later m.tracer.stamp success))
      (if success then v else w) := by
  have resolved : ∀ c ∈ l.settled, c.Resolved :=
    fun c hc => (recorded.running.stacked.sound.settled c hc).1
  cases success with
  | true =>
      rw [left rfl]
      exact back
  | false =>
      show Leads w (rollbackMoves (l.settled.map _)) w
      rw [rollbackMoves_fallBack resolved]
      exact .nil w

/-- **The call that spawned a context moves on** when control returns to it. -/
theorem movesOn {spawner : CallSection} {now : Nat} {u v : View} {p q : Parties}
    {world' : WorldState} (world : WorldState) (id : Nat) {child : Frame} {outcome : ContextOutcome}
    (made : spawner.Spawned o.incarnations u v p q) (accounted : spawner.Accounted o.incarnations)
    (recent : spawner.shared.stamp ≤ now)
    (stamped : outcome.success = false → child.revertStamp = now)
    (failed : outcome.success = false → world'.view o.chain o.incarnations =
      Function.update u spawner.callee (u spawner.callee).warmed) :
    Kept.MovesOn o now spawner
      ((spawner.parting o.chain world o.incarnations id).answered o.chain world' o.incarnations
        child outcome)
      (spawner.answerRows o.incarnations child outcome.success p q) := by
  have parting := made.parting o.chain world o.incarnations id
  have late : outcome.success = false → spawner.shared.stamp ≤ child.revertStamp :=
    fun failure => (stamped failure).symm ▸ recent
  have account := accounted.parting o.chain world o.incarnations id
  obtain ⟨exit, eq⟩ := spawner.parting_eq o.chain world o.incarnations id
  rw [eq] at parting account ⊢
  have scenario : (CallSection.answered o.chain world' o.incarnations child outcome
      { spawner with childExit? := exit }).scenario =
      if outcome.success then .contractSuccessWontRevert else .contractFailureWontRevert :=
    parting.scenario_answered
  have undoOffset : spawner.undoOffset = 2 := if_neg (by simp [made.scenario])
  refine ⟨?_, parting.accountRows_answered, parting.answered account failed late,
    .inr made.scenario, by simp [made.scenario], ?_, CallSection.sorted_answerRows .., ?_, ?_,
    CallSection.current_answerRows made.exchange.before made.exchange.after⟩
  · exact congrArg SharedValues.stamp (CallSection.shared_answered ..)
  · rw [scenario]
    split <;> exact nofun
  · intro r hr
    obtain ⟨failure, k, stamp, least, small⟩ := CallSection.stamp_of_mem_answerRows hr
    refine ⟨k, stamped failure ▸ stamp, undoOffset ▸ least, ?_⟩
    rw [CallSection.undoOffset, scenario]
    simpa [failure] using small
  · rw [undoOffset, CallSection.undoOffset]
    split <;> omega

/-- **A return keeps the record.** -/
theorem returned (recorded : Recorded o m l (below :: outer) postings) {spawner : CallSection}
    {child : Frame} {outcome : ContextOutcome} (found : l.spawner? = some spawner)
    (stamped : outcome.success = false → child.revertStamp = m.tracer.stamp)
    (running : Running m' o.tx o.older o.launch
      (below.add ((spawner.parting o.chain m.world m.tracer.incarnations l.context).answered o.chain
        m'.world m.tracer.incarnations child outcome ::
        l.remainder o.chain m.tracer.incarnations m.tracer.stamp outcome.success)) outer)
    (world : m'.world = l.worldAfter m.world outcome.success)
    (stamp : m'.tracer.stamp = m.tracer.stamp)
    (incarnations : m'.tracer.incarnations = m.tracer.incarnations) :
    ∃ l' postings', Recorded o m' l' outer postings' := by
  rw [recorded.incarnations] at running incarnations
  have scripted := recorded.running.scripted below (.head _)
  cases recorded.unwinds with
  | @above u v _ _ _ _ _ p q spawned made checkpoint back rest =>
  obtain rfl := Option.some.inj (found.symm.trans spawned)
  -- The calls of the level that ends stand after the call that spawned it.
  have split : callsOf (l :: below :: outer) =
      (callsOf (below :: outer) ++ [spawner]) ++ l.settled := by
    simp [callsOf, Level.calls, found]
  have own : spawner ∈ callsOf (l :: below :: outer) := by
    rw [split]
    simp
  obtain ⟨kept, shows⟩ := recorded.remainder split back o.incarnations outcome.success
  rw [List.append_assoc, List.singleton_append] at kept
  have shown : (l.worldAfter m.world outcome.success).view o.chain o.incarnations = o.shown m' := by
    rw [← world]
    rfl
  have succeeded : outcome.success = true → o.shown m' = o.shown m := by
    intro success
    rw [← shown, Level.worldAfter, if_pos success]
    rfl
  have failed : outcome.success = false → o.shown m' =
      Function.update u spawner.callee (u spawner.callee).warmed := by
    intro failure
    rw [← shown, Level.worldAfter, if_neg (by simp [failure])]
    exact checkpoint
  -- The answer leads from what the parting shows to the world after the return: onwards after a
  -- success, back to before the entry after a failure.
  have moves := movesOn m.world l.context made (recorded.kept.accounted _ own)
    (recorded.kept.recent _ own).2 stamped failed
  have leads : Leads (if outcome.success then o.shown m else v)
      ((spawner.answerRows o.incarnations child outcome.success p q).map AccountRow.move)
      (o.shown m') := by
    refine made.leads_answerRows ?_ ?_
    · exact fun success => (if_pos success).trans (succeeded success).symm
    · exact fun failure => ⟨if_neg (by simp [failure]), failed failure⟩
  have after := kept.replace moves recorded.not_revertible_of_remainder leads
  have honest := after.ledger.lastHonest (shown ▸ shows.append ?_)
  swap
  · intro e he
    obtain ⟨r, -, rfl⟩ := List.mem_map.1 he
    exact .inl r.isHonest_posting
  -- Undone later, the answered call leads back to where it was announced.
  have undo : Leads (if outcome.success then v else o.shown m')
      (rollbackMoves [(spawner.parting o.chain m.world o.incarnations l.context).answered o.chain
        m'.world o.incarnations child outcome]) u := by
    rw [rollbackMoves_singleton]
    refine (made.parting ..).reversal_answered fun failure => ?_
    rw [CallSection.callee_parting]
    exact failed failure
  refine ⟨_, _, ⟨recorded.opened, running, scripted, incarnations, ?_, honest, ?_,
    rest.add ?_⟩⟩
  · rw [stamp, callsOf_add]
    exact after
  · rw [List.append_assoc]
    refine recorded.current_append fun e he => ?_
    rcases List.mem_append.1 he with ended | after
    · exact recorded.current_endPostings split outcome.success ended
    · exact moves.current e.row (moves.of_mem_posting after).2.1
  · rw [← List.singleton_append, rollbackMoves_append]
    exact (recorded.leads_remainder back succeeded).append undo

end Recorded

end ExecutionTrace
