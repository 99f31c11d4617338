import ExecutionTrace.Proofs.History.Calls
import ExecutionTrace.Proofs.History.Ledger
import ExecutionTrace.Proofs.History.Opening

/-!
# The record of a transaction

What is known of the calls of a transaction and of its ledger, at every moment while it executes,
and how a new call, the return of one and a rollback carry it on.

## Main Definitions

* `Kept` — calls whose rows a ledger covers, with room for the rows of every later rollback
* `Kept.made`, `Kept.replace`, `Kept.fallBack` — the three ways in which a ledger grows

## Design Notes

A rollback at the present stamp puts its rows at the very end of a history, the most recent call
first.  Several contexts may fail at one stamp, each around the one that failed before it, so what
leaves room for the next rollback is that all rows there are already belong to more recent
calls.  That is what `Kept.room` says, for every call that can still be undone.
-/

namespace ExecutionTrace

namespace Opening

variable (o : Opening)

/-- The account rows of a transaction that has not been undone, with those of its calls. -/
def rows (calls : List CallSection) : List AccountRow :=
  o.launch.forwardRows o.tx ++ calls.flatMap (·.accountRows)

/-- The rows of a transaction before any code runs are its first postings. -/
def firstPostings : List Posting :=
  (o.launch.forwardRows o.tx).map AccountRow.posting

theorem rows_append (calls calls' : List CallSection) :
    o.rows (calls ++ calls') = o.rows calls ++ calls'.flatMap (·.accountRows) := by
  rw [rows, rows, List.flatMap_append, List.append_assoc]

theorem mem_rows {calls : List CallSection} {c : CallSection} (hc : c ∈ calls) {r : AccountRow}
    (hr : r ∈ c.accountRows) : r ∈ o.rows calls :=
  List.mem_append_right _ (List.mem_flatMap.2 ⟨c, hc, hr⟩)

end Opening

/-- A rollback may still undo the call. -/
def CallSection.Revertible (c : CallSection) : Prop :=
  c.Standing ∨ c.scenario = .contractUndefined

theorem CallSection.Resolved.standing_of_revertible {c : CallSection} (resolved : c.Resolved)
    (revertible : c.Revertible) : c.Standing :=
  revertible.resolve_right resolved.scenario_ne

theorem CallSection.undoOffset_lt (c : CallSection) : c.undoOffset < 8 := by
  unfold CallSection.undoOffset
  split <;> omega

/-- **Calls whose rows a ledger covers**, up to the present stamp. -/
structure Kept (o : Opening) (now : Nat) (calls : List CallSection) (w : View)
    (postings : List Posting) : Prop where
  opened : o.stamp ≤ now
  increasing : calls.Pairwise fun c d => c.shared.stamp < d.shared.stamp
  recent : ∀ c ∈ calls, o.stamp < c.shared.stamp ∧ c.shared.stamp ≤ now
  accounted : ∀ c ∈ calls, c.Accounted o.incarnations
  ledger : Ledger o.start w (o.rows calls) postings
  /-- What is announced next comes after all that is there. -/
  past : ∀ e ∈ postings, ∀ k, e.row.stamp.Precedes (.forward (now + 1) k)
  /-- So does the rollback of a call. -/
  room : ∀ c ∈ calls, c.Revertible → ∀ e ∈ postings,
    e.row.stamp.Precedes (.undoing c.shared.stamp now c.undoOffset)
  /-- So does the rollback of the transaction itself. -/
  launchRoom : ∀ e ∈ postings, e.row.stamp.Precedes (.undoing o.stamp now 3)
  betrayals : ∀ e ∈ postings, e.IsHonest ∨ ∃ c ∈ calls, c.Betrays e
  betrayed : ∀ c ∈ calls, c.scenario = .contractFailureWillRevert → ∃ e ∈ postings, c.Betrays e

namespace Kept

variable {o : Opening} {now : Nat} {calls old rest settled : List CallSection} {w x : View}
  {postings : List Posting} {c c' : CallSection}

/-- The rows of the calls are in the ledger. -/
theorem exists_posting (h : Kept o now calls w postings) (hc : c ∈ calls) {r : AccountRow}
    (hr : r ∈ c.accountRows) : ∃ e ∈ postings, e.row = r := by
  have covered := h.ledger.complete.mem_iff.2 (o.mem_rows hc hr)
  exact List.mem_map.1 covered

/-! ## New calls -/

/-- Where the rows of a call that has just been made stand. -/
theorem of_mem_posting_made (made : c.Made o.incarnations (now + 1) w x) {e : Posting}
    (he : e ∈ c.accountRows.map AccountRow.posting) :
    e.IsHonest ∧ e.row ∈ c.accountRows ∧ ∃ k, k < 2 ∧ e.row.stamp = .forward (now + 1) k := by
  obtain ⟨r, hr, rfl⟩ := List.mem_map.1 he
  exact ⟨r.isHonest_posting, hr, made.placed r hr⟩

/-- What holds of all calls and of a new one. -/
theorem forall_concat {P : CallSection → Prop} (before : ∀ d ∈ calls, P d) (new : P c) :
    ∀ d ∈ calls ++ [c], P d := by
  intro d hd
  rcases List.mem_append.1 hd with old | added
  · exact before d old
  · exact List.mem_singleton.1 added ▸ new

/-- The rows so far, those of a new call included, come before every later rollback. -/
theorem early_made (h : Kept o now calls w postings)
    (made : c.Made o.incarnations (now + 1) w x) {e : Posting}
    (he : e ∈ postings ++ c.accountRows.map AccountRow.posting) (stamp k : Nat) :
    e.row.stamp.Precedes (.undoing stamp (now + 1) k) := by
  rcases List.mem_append.1 he with before | after
  · exact (h.past e before 0).trans
      (RowStamp.forward_precedes_undoing (Nat.le_refl _) (by omega))
  · obtain ⟨-, -, k', small, same⟩ := of_mem_posting_made made after
    rw [same]
    exact RowStamp.forward_precedes_undoing (Nat.le_refl _) (by omega)

theorem ledger_made (h : Kept o now calls w postings)
    (made : c.Made o.incarnations (now + 1) w x) :
    Ledger o.start x (o.rows (calls ++ [c]))
      (postings ++ c.accountRows.map AccountRow.posting) := by
  have rows := AccountRow.rows_postings c.accountRows
  have moves := AccountRow.moves_postings c.accountRows
  refine h.ledger.append ?_ ?_ ?_ ?_
  · rw [rows, o.rows_append, List.flatMap_singleton]
  · exact List.pairwise_map.2 made.accounted.ordered
  · intro e he f hf
    obtain ⟨-, -, k, -, same⟩ := of_mem_posting_made made hf
    rw [same]
    exact h.past e he k
  · rw [moves]
    exact made.leads

/-- **A call that has just been made** continues the ledger. -/
theorem made (h : Kept o now calls w postings) (made : c.Made o.incarnations (now + 1) w x) :
    Kept o (now + 1) (calls ++ [c]) x (postings ++ c.accountRows.map AccountRow.posting) where
  opened := Nat.le_succ_of_le h.opened
  increasing := by
    refine List.pairwise_append.2 ⟨h.increasing, List.pairwise_singleton .., fun d hd d' hd' => ?_⟩
    obtain rfl := List.mem_singleton.1 hd'
    have before := (h.recent d hd).2
    have stamp := made.stamp
    omega
  recent := by
    have opened := h.opened
    have stamp := made.stamp
    exact forall_concat (fun d hd => ⟨(h.recent d hd).1, Nat.le_succ_of_le (h.recent d hd).2⟩)
      ⟨by omega, by omega⟩
  accounted := forall_concat h.accounted made.accounted
  ledger := h.ledger_made made
  past e he k := by
    rcases List.mem_append.1 he with before | after
    · exact (h.past e before 0).trans
        (RowStamp.forward_precedes_later (Nat.lt_succ_self _) (by omega))
    · obtain ⟨-, -, k', small, same⟩ := of_mem_posting_made made after
      rw [same]
      exact RowStamp.forward_precedes_later (Nat.lt_succ_self _) (by omega)
  room _ _ _ _ he := h.early_made made he _ _
  launchRoom _ he := h.early_made made he _ _
  betrayals e he := by
    rcases List.mem_append.1 he with before | after
    · exact (h.betrayals e before).imp_right fun ⟨d, hd, betrays⟩ =>
        ⟨d, List.mem_append_left _ hd, betrays⟩
    · exact .inl (of_mem_posting_made made after).1
  betrayed := by
    refine forall_concat (fun d hd scenario => ?_) fun scenario => ?_
    · obtain ⟨e, he, betrays⟩ := h.betrayed d hd scenario
      exact ⟨e, List.mem_append_left _ he, betrays⟩
    · have unreverted := made.unreverted
      rw [scenario] at unreverted
      cases unreverted

/-! ## Calls that move on -/

/-- **What a call turns into when it moves on** without being rolled back: further rows at the
present stamp, after which less can still be undone. -/
structure MovesOn (o : Opening) (now : Nat) (c c' : CallSection) (added : List AccountRow) :
    Prop where
  stamp : c'.shared.stamp = c.shared.stamp
  rows : c'.accountRows = c.accountRows ++ added
  accounted : c'.Accounted o.incarnations
  revertible : c.Revertible
  calm : c.scenario ≠ .contractFailureWillRevert
  calm' : c'.scenario ≠ .contractFailureWillRevert
  sorted : added.Pairwise fun r s => r.stamp.Precedes s.stamp
  placed : ∀ r ∈ added, ∃ k, r.stamp = .undoing c.shared.stamp now k ∧ c.undoOffset ≤ k ∧
    k < c'.undoOffset
  offset : c.undoOffset ≤ c'.undoOffset
  current : ∀ r ∈ added, r.IsCurrent o.incarnations

namespace MovesOn

variable {added : List AccountRow}

/-- Where the rows of a call that moves on stand. -/
theorem of_mem_posting (moves : MovesOn o now c c' added) {e : Posting}
    (he : e ∈ added.map AccountRow.posting) : e.IsHonest ∧ e.row ∈ added ∧
      ∃ k, e.row.stamp = .undoing c.shared.stamp now k ∧ c.undoOffset ≤ k ∧ k < c'.undoOffset := by
  obtain ⟨r, hr, rfl⟩ := List.mem_map.1 he
  exact ⟨r.isHonest_posting, hr, moves.placed r hr⟩

theorem increasing (moves : MovesOn o now c c' added)
    (order : (old ++ c :: rest).Pairwise fun c d => c.shared.stamp < d.shared.stamp) :
    (old ++ c' :: rest).Pairwise fun c d => c.shared.stamp < d.shared.stamp := by
  obtain ⟨before, after, between⟩ := List.pairwise_append.1 order
  obtain ⟨first, later⟩ := List.pairwise_cons.1 after
  refine List.pairwise_append.2 ⟨before, List.pairwise_cons.2 ⟨fun d hd => ?_, later⟩, ?_⟩
  · rw [moves.stamp]
    exact first d hd
  · intro d hd d' hd'
    rcases List.mem_cons.1 hd' with rfl | younger
    · rw [moves.stamp]
      exact between d hd c (.head _)
    · exact between d hd d' (.tail _ younger)

end MovesOn

/-- Everybody but the call that has changed is who it was. -/
theorem forall_replace {P : CallSection → Prop} (before : ∀ d ∈ old ++ c :: rest, P d)
    (changed : P c') : ∀ d ∈ old ++ c' :: rest, P d := by
  intro d hd
  rcases List.mem_append.1 hd with older | own
  · exact before d (List.mem_append_left _ older)
  · rcases List.mem_cons.1 own with rfl | younger
    · exact changed
    · exact before d (List.mem_append_right _ (.tail _ younger))

theorem ledger_replace (h : Kept o now (old ++ c :: rest) w postings) {added : List AccountRow}
    (moves : MovesOn o now c c' added) (leads : Leads w (added.map AccountRow.move) x) :
    Ledger o.start x (o.rows (old ++ c' :: rest)) (postings ++ added.map AccountRow.posting) := by
  have rows := AccountRow.rows_postings added
  have posted := AccountRow.moves_postings added
  have offset_lt := c'.undoOffset_lt
  refine h.ledger.append ?_ ?_ ?_ ?_
  · rw [rows]
    simp only [o.rows_append, List.flatMap_cons, moves.rows, List.append_assoc]
    refine List.Perm.append_left _ (List.Perm.append_left _ ?_)
    exact List.perm_append_comm
  · exact List.pairwise_map.2 moves.sorted
  · intro e he f hf
    obtain ⟨-, -, k, same, least, small⟩ := moves.of_mem_posting hf
    have room := h.room c (by simp) moves.revertible e he
    rw [same]
    rcases Nat.eq_or_lt_of_le least with first | further
    · exact first ▸ room
    · exact room.trans (RowStamp.undoing_precedes_offset further (by omega))
  · rw [posted]
    exact leads

/-- The rollback of an older call comes after the rows that a call adds, and so does that of the
call itself, which has less to undo. -/
theorem room_replace (h : Kept o now (old ++ c :: rest) w postings) {added : List AccountRow}
    (moves : MovesOn o now c c' added) (isOver : added ≠ [] → ∀ d ∈ rest, ¬d.Revertible) :
    ∀ d ∈ old ++ c' :: rest, d.Revertible → ∀ e ∈ postings ++ added.map AccountRow.posting,
      e.row.stamp.Precedes (.undoing d.shared.stamp now d.undoOffset) := by
  have offset_lt := c'.undoOffset_lt
  have between := (List.pairwise_append.1 h.increasing).2.2
  intro d hd revertible e he
  rcases List.mem_append.1 he with before | after
  · rcases List.mem_append.1 hd with older | hd
    · exact h.room d (List.mem_append_left _ older) revertible e before
    rcases List.mem_cons.1 hd with rfl | younger
    · have room := h.room c (by simp) moves.revertible e before
      rw [moves.stamp]
      rcases Nat.eq_or_lt_of_le moves.offset with same | further
      · exact same ▸ room
      · exact room.trans (RowStamp.undoing_precedes_offset further offset_lt)
    · exact h.room d (List.mem_append_right _ (.tail _ younger)) revertible e before
  · obtain ⟨-, found, k, same, -, small⟩ := moves.of_mem_posting after
    rw [same]
    rcases List.mem_append.1 hd with older | hd
    · exact RowStamp.undoing_precedes_older (between d older c (.head _)) (by omega)
        d.undoOffset_lt
    rcases List.mem_cons.1 hd with rfl | younger
    · rw [moves.stamp]
      exact RowStamp.undoing_precedes_offset small offset_lt
    · exact absurd revertible (isOver (List.ne_nil_of_mem found) d younger)

theorem betrayals_replace (h : Kept o now (old ++ c :: rest) w postings)
    {added : List AccountRow} (moves : MovesOn o now c c' added) :
    ∀ e ∈ postings ++ added.map AccountRow.posting, e.IsHonest ∨
      ∃ d ∈ old ++ c' :: rest, d.Betrays e := by
  intro e he
  rcases List.mem_append.1 he with before | after
  · refine (h.betrayals e before).imp_right fun ⟨d, hd, betrays⟩ => ⟨d, ?_, betrays⟩
    rcases List.mem_append.1 hd with older | hd
    · exact List.mem_append_left _ older
    rcases List.mem_cons.1 hd with rfl | younger
    · exact absurd betrays.scenario moves.calm
    · exact List.mem_append_right _ (.tail _ younger)
  · exact .inl (moves.of_mem_posting after).1

/-- **One call moves on.** If it adds rows, none of the more recent calls can be undone any
more. -/
theorem replace (h : Kept o now (old ++ c :: rest) w postings) {added : List AccountRow}
    (moves : MovesOn o now c c' added) (isOver : added ≠ [] → ∀ d ∈ rest, ¬d.Revertible)
    (leads : Leads w (added.map AccountRow.move) x) :
    Kept o now (old ++ c' :: rest) x (postings ++ added.map AccountRow.posting) where
  opened := h.opened
  increasing := moves.increasing h.increasing
  recent := forall_replace h.recent <| by
    rw [moves.stamp]
    exact h.recent c (by simp)
  accounted := forall_replace h.accounted moves.accounted
  ledger := h.ledger_replace moves leads
  past e he k := by
    rcases List.mem_append.1 he with before | after
    · exact h.past e before k
    · obtain ⟨-, -, k', same, -⟩ := moves.of_mem_posting after
      rw [same]
      exact RowStamp.undoing_precedes_forward (Nat.lt_succ_self _)
  room := h.room_replace moves isOver
  launchRoom e he := by
    rcases List.mem_append.1 he with before | after
    · exact h.launchRoom e before
    · have offset_lt := c'.undoOffset_lt
      obtain ⟨-, -, k, same, -, small⟩ := moves.of_mem_posting after
      rw [same]
      exact RowStamp.undoing_precedes_older (h.recent c (by simp)).1 (by omega) (by omega)
  betrayals := h.betrayals_replace moves
  betrayed := forall_replace (c := c)
    (fun d hd scenario =>
      (h.betrayed d hd scenario).imp fun _ found => ⟨List.mem_append_left _ found.1, found.2⟩)
    fun scenario => absurd scenario moves.calm'

end Kept

/-! ## Rollbacks -/

namespace CallSection

variable {c : CallSection} {chain : Chain} {world : WorldState} {later : Incarnations}
  {revertStamp : Nat}

/-- A rollback of a call that can be undone leaves the scenario that goes with it. -/
theorem Standing.scenario_reverted (standing : c.Standing) (rolledBack : Parties) :
    (c.reverted rolledBack later revertStamp).scenario = .contractFailureWillRevert ↔
      c.scenario = .contractFailureWontRevert := by
  have canRevert := standing.canRevert
  unfold CanRevert at canRevert
  show c.scenario.willRevert?.getD c.scenario = _ ↔ _
  cases scenario : c.scenario <;> simp [scenario, Scenario.willRevert?] at canRevert ⊢

/-- **Who is to blame for a row of a rollback** that ends elsewhere. -/
theorem Resolved.honest_or_betrays {incarnations : Incarnations} (resolved : c.Resolved)
    (accounted : c.Accounted incarnations) {e : Posting}
    (he : e ∈ c.undoPostings (.canonical chain world later c.caller c.callee) later revertStamp) :
    e.IsHonest ∨ (c.fallBack chain world later revertStamp).Betrays e ∧
      e.row.after.face = world.view chain later e.row.address := by
  have standing := resolved.standing_of_mem_undoPostings he
  have eq := standing.fallBack_eq chain world later revertStamp
  have form := c.compensates (.canonical chain world later c.caller c.callee) later revertStamp
  rcases form.honest_or_callee e he with
    honest | ⟨before, reEntry, scenario, latched, captured, address, after, target, stamp⟩
  · exact .inl honest
  · have concerns := accounted.concerns standing.not_exception reEntry (.inr (.inr captured))
    refine .inr ⟨?_, ?_⟩
    · rw [eq]
      refine ⟨(standing.scenario_reverted _).2 scenario, ?_, ⟨_, stamp⟩,
        address.trans concerns.callee, ?_, ?_⟩
      · rw [accountRows_reverted, ← form.map_row_pairUp]
        exact List.mem_append_right _ (List.mem_map_of_mem he)
      · exact congrArg some after.symm
      · show c.before?.map _ = _
        rw [latched, target]
        rfl
    · rw [after, address, concerns.callee]
      exact (c.shows_canonical chain world later).callee

/-- **Which rows of a rollback start with other deployment information** than that of now. -/
theorem Resolved.isCurrent_or_coolsDown {incarnations : Incarnations} (resolved : c.Resolved)
    (accounted : c.Accounted incarnations) {e : Posting}
    (he : e ∈ c.undoPostings (.canonical chain world later c.caller c.callee) later revertStamp) :
    e.row.IsCurrent later ∨ (c.fallBack chain world later revertStamp).CoolsDown e.row ∧
      e.row.Crosses incarnations later := by
  have standing := resolved.standing_of_mem_undoPostings he
  have eq := standing.fallBack_eq chain world later revertStamp
  have form := c.compensates (.canonical chain world later c.caller c.callee) later revertStamp
  have row : e.row ∈ c.compensation (.canonical chain world later c.caller c.callee) later
      revertStamp := by
    rw [← form.map_row_pairUp]
    exact List.mem_map_of_mem he
  refine (form.isCurrent_or_crosses (accounted.concerns standing.not_exception)
    (c.concerns_canonical ..) e.row row).imp_right ?_
  rintro ⟨scenario, stamp, crosses⟩
  refine ⟨eq ▸ ⟨(standing.scenario_reverted _).2 scenario, ?_, revertStamp, stamp⟩, crosses⟩
  rw [accountRows_reverted]
  exact List.mem_append_right _ row

/-- A failed call that is rolled back has a row that may end elsewhere. -/
theorem Standing.exists_betrays {incarnations : Incarnations} (standing : c.Standing)
    (accounted : c.Accounted incarnations) (scenario : c.scenario = .contractFailureWontRevert) :
    ∃ e ∈ c.undoPostings (.canonical chain world later c.caller c.callee) later revertStamp,
      (c.reverted (.canonical chain world later c.caller c.callee) later revertStamp).Betrays
        e := by
  obtain ⟨before, latched⟩ := Option.isSome_iff_exists.1 standing.latched
  have canRevert := standing.canRevert
  rw [CanRevert, scenario] at canRevert
  obtain ⟨reEntry, captured⟩ := Option.isSome_iff_exists.1 canRevert
  have concerns := accounted.concerns standing.not_exception reEntry (.inr (.inr captured))
  let cooling : Posting :=
    ⟨Transition.row
      ⟨reEntry.callee, (Parties.canonical chain world later c.caller c.callee).callee⟩
      (.undoing c.shared.stamp revertStamp 4), before.callee.face⟩
  have added : cooling ∈
      c.undoPostings (.canonical chain world later c.caller c.callee) later revertStamp := by
    unfold undoPostings compensation reversal
    rw [scenario, latched, captured]
    cases c.after? <;> exact .head _
  have form := c.compensates (.canonical chain world later c.caller c.callee) later revertStamp
  refine ⟨cooling, added, (standing.scenario_reverted _).2 scenario, ?_, ⟨revertStamp, rfl⟩,
    concerns.callee, rfl, ?_⟩
  · rw [accountRows_reverted, ← form.map_row_pairUp]
    exact List.mem_append_right _ (List.mem_map_of_mem added)
  · show c.before?.map _ = _
    rw [latched]
    rfl

end CallSection

namespace Kept

variable {o : Opening} {now : Nat} {old settled : List CallSection} {w x : View}
  {postings : List Posting} {chain : Chain} {world : WorldState} {later : Incarnations}

/-- Which call a row of a rollback is of, and where it stands. -/
theorem exists_of_mem_rollbackPostings {e : Posting}
    (he : e ∈ rollbackPostings chain world later now settled) : ∃ c ∈ settled,
      e ∈ c.undoPostings (.canonical chain world later c.caller c.callee) later now ∧
        ∃ k, e.row.stamp = .undoing c.shared.stamp now k ∧ c.undoOffset ≤ k ∧ k < 8 := by
  obtain ⟨c, hc, found⟩ := mem_rollbackPostings he
  exact ⟨c, hc, found, CallSection.stamp_of_mem_undoPostings found⟩

/-- What holds of all calls and survives a rollback holds of all calls afterwards. -/
theorem forall_fallBack {P : CallSection → Prop} (before : ∀ c ∈ old ++ settled, P c)
    (survives : ∀ c ∈ settled, P c → P (c.fallBack chain world later now)) :
    ∀ c ∈ old ++ settled.map (·.fallBack chain world later now), P c := by
  intro c hc
  rcases List.mem_append.1 hc with older | fallen
  · exact before c (List.mem_append_left _ older)
  · obtain ⟨d, hd, rfl⟩ := List.mem_map.1 fallen
    exact survives d hd (before d (List.mem_append_right _ hd))

theorem increasing_fallBack (h : Kept o now (old ++ settled) w postings) :
    (old ++ settled.map (·.fallBack chain world later now)).Pairwise
      fun c d => c.shared.stamp < d.shared.stamp := by
  have order := List.pairwise_append.1 h.increasing
  refine List.pairwise_append.2 ⟨order.1, List.pairwise_map.2 ?_, ?_⟩
  · simpa only [CallSection.shared_fallBack] using order.2.1
  · intro c hc _ hd
    obtain ⟨d, own, rfl⟩ := List.mem_map.1 hd
    rw [CallSection.shared_fallBack]
    exact order.2.2 c hc d own

theorem ledger_fallBack (h : Kept o now (old ++ settled) w postings)
    (resolved : ∀ c ∈ settled, c.Resolved) (leads : Leads w (rollbackMoves settled) x) :
    Ledger o.start x (o.rows (old ++ settled.map (·.fallBack chain world later now)))
      (postings ++ rollbackPostings chain world later now settled) := by
  have order := List.pairwise_append.1 h.increasing
  refine h.ledger.append ?_ (sorted_rollbackPostings order.2.1) ?_ ?_
  · rw [o.rows_append, o.rows_append, List.append_assoc]
    exact List.Perm.append_left _ (accountRows_fallBack_perm resolved)
  · intro e he f hf
    obtain ⟨c, hc, found, k, stamp, least, small⟩ := exists_of_mem_rollbackPostings hf
    have standing := (resolved c hc).standing_of_mem_undoPostings found
    have room := h.room c (List.mem_append_right _ hc) (.inl standing) e he
    rw [stamp]
    rcases Nat.eq_or_lt_of_le least with first | further
    · exact first ▸ room
    · exact room.trans (RowStamp.undoing_precedes_offset further small)
  · rw [map_move_rollbackPostings]
    exact leads

/-- Only older calls can still be undone, and their rollback comes after that of younger ones. -/
theorem room_fallBack (h : Kept o now (old ++ settled) w postings)
    (resolved : ∀ c ∈ settled, c.Resolved) :
    ∀ d ∈ old ++ settled.map (·.fallBack chain world later now), d.Revertible →
      ∀ e ∈ postings ++ rollbackPostings chain world later now settled,
        e.row.stamp.Precedes (.undoing d.shared.stamp now d.undoOffset) := by
  intro d hd revertible e he
  rcases List.mem_append.1 hd with older | fallen
  · rcases List.mem_append.1 he with before | after
    · exact h.room d (List.mem_append_left _ older) revertible e before
    · obtain ⟨c, hc, -, k, stamp, -, small⟩ := exists_of_mem_rollbackPostings after
      have order := (List.pairwise_append.1 h.increasing).2.2 d older c hc
      rw [stamp]
      exact RowStamp.undoing_precedes_older order small d.undoOffset_lt
  · obtain ⟨c, hc, rfl⟩ := List.mem_map.1 fallen
    obtain ⟨isOver, notStanding⟩ := (resolved c hc).fallBack chain world later now
    exact absurd (isOver.standing_of_revertible revertible) notStanding

theorem betrayals_fallBack (h : Kept o now (old ++ settled) w postings)
    (resolved : ∀ c ∈ settled, c.Resolved) :
    ∀ e ∈ postings ++ rollbackPostings chain world later now settled, e.IsHonest ∨
      ∃ c ∈ old ++ settled.map (·.fallBack chain world later now), c.Betrays e := by
  intro e he
  rcases List.mem_append.1 he with before | after
  · rcases h.betrayals e before with honest | ⟨c, hc, betrays⟩
    · exact .inl honest
    · rcases List.mem_append.1 hc with older | own
      · exact .inr ⟨c, List.mem_append_left _ older, betrays⟩
      · -- A call that has been rolled back already stays as it is.
        have undone : ¬c.Standing := by
          intro standing
          have canRevert := standing.canRevert
          rw [CallSection.CanRevert, betrays.scenario] at canRevert
          exact canRevert
        rcases (resolved c own).fallBack_cases chain world later now with
          ⟨standing, -⟩ | ⟨-, -, eq⟩
        · exact absurd standing undone
        · exact .inr ⟨c, List.mem_append_right _ (List.mem_map.2 ⟨c, own, eq⟩), betrays⟩
  · obtain ⟨c, hc, found, -⟩ := exists_of_mem_rollbackPostings after
    have accounted := h.accounted c (List.mem_append_right _ hc)
    exact ((resolved c hc).honest_or_betrays accounted found).imp_right fun blame =>
      ⟨_, List.mem_append_right _ (List.mem_map_of_mem hc), blame.1⟩

theorem betrayed_fallBack (h : Kept o now (old ++ settled) w postings)
    (resolved : ∀ c ∈ settled, c.Resolved) :
    ∀ c ∈ old ++ settled.map (·.fallBack chain world later now),
      c.scenario = .contractFailureWillRevert →
        ∃ e ∈ postings ++ rollbackPostings chain world later now settled, c.Betrays e := by
  intro d hd scenario
  rcases List.mem_append.1 hd with older | fallen
  · obtain ⟨e, he, betrays⟩ := h.betrayed d (List.mem_append_left _ older) scenario
    exact ⟨e, List.mem_append_left _ he, betrays⟩
  · obtain ⟨c, hc, rfl⟩ := List.mem_map.1 fallen
    have own : c ∈ old ++ settled := List.mem_append_right _ hc
    rcases (resolved c hc).fallBack_cases chain world later now with ⟨standing, eq⟩ | ⟨-, -, eq⟩
    · rw [eq] at scenario ⊢
      have failed := (standing.scenario_reverted _).1 scenario
      obtain ⟨e, he, betrays⟩ := standing.exists_betrays (h.accounted c own) failed
      refine ⟨e, List.mem_append_right _ ?_, betrays⟩
      exact List.mem_flatMap.2 ⟨c, List.mem_reverse.2 hc, he⟩
    · rw [eq] at scenario ⊢
      obtain ⟨e, he, betrays⟩ := h.betrayed c own scenario
      exact ⟨e, List.mem_append_left _ he, betrays⟩

/-- A rollback that leaves the incarnations alone adds rows that are current. -/
theorem isCurrent_of_mem_rollbackPostings (h : Kept o now (old ++ settled) w postings)
    (resolved : ∀ c ∈ settled, c.Resolved) {e : Posting}
    (he : e ∈ rollbackPostings chain world o.incarnations now settled) :
    e.row.IsCurrent o.incarnations := by
  obtain ⟨c, hc, found, -⟩ := exists_of_mem_rollbackPostings he
  have accounted := h.accounted c (List.mem_append_right _ hc)
  rcases (resolved c hc).isCurrent_or_coolsDown accounted found with current | ⟨-, crosses⟩
  · exact current
  · exact crosses.isCurrent

/-- **The most recent calls are rolled back.** -/
theorem fallBack (h : Kept o now (old ++ settled) w postings)
    (resolved : ∀ c ∈ settled, c.Resolved) (leads : Leads w (rollbackMoves settled) x) :
    Kept o now (old ++ settled.map (·.fallBack chain world later now)) x
      (postings ++ rollbackPostings chain world later now settled) where
  opened := h.opened
  increasing := h.increasing_fallBack
  recent := forall_fallBack h.recent fun c _ recent => by
    rw [CallSection.shared_fallBack]
    exact recent
  accounted := forall_fallBack h.accounted fun c hc accounted => by
    refine accounted.fallBack (resolved c hc) fun standing r hr => ?_
    have own : c ∈ old ++ settled := List.mem_append_right _ hc
    obtain ⟨e, he, rfl⟩ := h.exists_posting own hr
    exact h.room c own (.inl standing) e he
  ledger := h.ledger_fallBack resolved leads
  past e he k := by
    rcases List.mem_append.1 he with before | after
    · exact h.past e before k
    · obtain ⟨c, hc, -, k', stamp, -⟩ := exists_of_mem_rollbackPostings after
      rw [stamp]
      exact RowStamp.undoing_precedes_forward (Nat.lt_succ_self _)
  room := h.room_fallBack resolved
  launchRoom e he := by
    rcases List.mem_append.1 he with before | after
    · exact h.launchRoom e before
    · obtain ⟨c, hc, -, k, stamp, -, small⟩ := exists_of_mem_rollbackPostings after
      rw [stamp]
      exact RowStamp.undoing_precedes_older (h.recent c (List.mem_append_right _ hc)).1 small
        (by omega)
  betrayals := h.betrayals_fallBack resolved
  betrayed := h.betrayed_fallBack resolved

/-- The last row on every account after a rollback. -/
theorem lastShows_fallBack (h : Kept o now (old ++ settled) w postings)
    (resolved : ∀ c ∈ settled, c.Resolved) (honest : LastHonest postings) :
    LastShows (world.view chain later)
      (postings ++ rollbackPostings chain world later now settled) := by
  refine (honest.lastShows _).append fun e he => ?_
  obtain ⟨c, hc, found⟩ := mem_rollbackPostings he
  have accounted := h.accounted c (List.mem_append_right _ hc)
  exact ((resolved c hc).honest_or_betrays accounted found).imp_right fun blame => blame.2

end Kept

end ExecutionTrace
