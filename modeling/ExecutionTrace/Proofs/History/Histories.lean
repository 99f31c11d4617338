import ExecutionTrace.Proofs.History.Chronicle
import ExecutionTrace.Proofs.Run.Rehearsal

/-!
# What histories say

The history of an account consists of the rows on it in the order of their stamps.  Over a whole
transaction it ends at what the root context left behind, and its rows follow from one another but
for one kind of row.  Over a single call that has been undone it leads back to where it started.

## Main Definitions

* `Episode.history`, `CallSection.history` — the rows on one account
* `CallSection.Cools` — the row that cools down the callee of a failed call
* `Episode.last_row_shows_world` — how the history of an account ends
* `Episode.history_follows` — how its rows follow from one another
* `Episode.undone_call_leads_back` — a call that has been undone

## Design Notes

A failed call to a contract whose caller is rolled back is undone in two parts: its transfer when
the call returns, and the warmth of its callee at the rollback.  The row of the second part ends at
the callee as the rollback leaves it.  Whatever else the rollback takes from the callee is missing
there already, although the rows that show it come later.
-/

namespace ExecutionTrace

variable {chain : Chain}

/-- The rows of a transaction on one account, in the order of their stamps. -/
def Episode.history (run : Episode chain) (a : Address) : List AccountRow :=
  (History.ofRows run.rows a).map Prod.fst

/-- The rows of a call on one account, in the order of their stamps. -/
def CallSection.history (c : CallSection) (a : Address) : List AccountRow :=
  (History.ofRows c.rows a).map Prod.fst

/-! ## Histories of a transaction -/

namespace Chronicle

variable {run : Episode chain} {o : Opening} {postings : List Posting}

/-- **A history is read off the chronicle.** -/
theorem history_eq (chronicle : Chronicle run o postings) (a : Address) :
    run.history a = (postings.filter (·.row.address = a)).map (·.row) := by
  have sorted : (postings.map (·.row)).Pairwise fun r s => r.stamp.Precedes s.stamp :=
    List.pairwise_map.2 chronicle.sorted
  rw [Episode.history, History.rows_ofRows chronicle.complete sorted, List.filter_map]
  rfl

/-- The last row of a history is that of the last posting. -/
theorem exists_lastOn (chronicle : Chronicle run o postings) {a : Address} {r : AccountRow}
    (last : (run.history a).getLast? = some r) : ∃ e, lastOn a postings = some e ∧ e.row = r := by
  rw [chronicle.history_eq, List.getLast?_map] at last
  exact Option.map_eq_some_iff.1 last

end Chronicle

/-- **How the history of an account ends**: its last row shows the balance, the nonce and the warmth
that the account had when the root context had been left. -/
theorem Episode.last_row_shows_world (run : Episode chain) {a : Address} {r : AccountRow}
    (last : (run.history a).getLast? = some r) :
    r.after.balance = run.left.world.balance a ∧
      r.after.nonce = (run.left.world.account a).nonce ∧
      r.after.isWarm = (a.isPrecompile chain || run.left.world.isWarm a) := by
  obtain ⟨o, postings, chronicle⟩ := run.chronicle
  obtain ⟨e, lastOn, rfl⟩ := chronicle.exists_lastOn last
  obtain ⟨code, face⟩ := chronicle.last a e lastOn
  have balance : e.row.after.face.balance = run.left.world.balance a := by
    rw [face]
    rfl
  have nonce : e.row.after.face.nonce = (run.left.world.account a).nonce := by
    rw [face]
    rfl
  have warmth : e.row.after.face.isWarm = (a.isPrecompile chain || run.left.world.isWarm a) := by
    rw [face]
    rfl
  exact ⟨balance, nonce, warmth⟩

/-! ### Following rows -/

/-- Two ways of saying that a history chains. -/
theorem History.chained_iff_isChain (rows : List AccountRow) :
    Chained rows ↔ rows.IsChain fun r s => r.after = s.before := by
  induction rows with
  | nil => simp [Chained]
  | cons r rows ih =>
      cases rows with
      | nil => simp [Chained]
      | cons s rows =>
          rw [List.isChain_cons_cons, ← ih]
          rfl

/-- **The row that cools down the callee of a failed call**, and a row that starts from the callee
as it was before the call. -/
structure CallSection.Cools (c : CallSection) (r s : AccountRow) : Prop where
  scenario : c.scenario = .contractFailureWillRevert
  row : r ∈ c.accountRows
  stamp : ∃ revertStamp, r.stamp = .undoing c.shared.stamp revertStamp 4
  after : c.rolledBack?.map (·.callee) = some r.after
  before : c.before?.map (·.callee) = some s.before

namespace Chronicle

variable {run : Episode chain} {o : Opening} {postings : List Posting}

/-- Every posting on an account should end where the next one starts. -/
theorem isChain (chronicle : Chronicle run o postings) (a : Address) :
    (postings.filter (·.row.address = a)).IsChain fun e f => e.target = f.row.before.face := by
  obtain ⟨w, leads⟩ := chronicle.leads
  have passes := leads.passes a
  rw [List.filter_map] at passes
  exact (List.isChain_map Posting.move).1 passes.isChain

/-- **A row of a message call is followed by one that starts where it ended**, unless it cools down
the callee of a failed call. -/
theorem follows (chronicle : Chronicle run o postings) (message : run.tx.isDeployment = false)
    {e f : Posting} (he : e ∈ postings) (hf : f ∈ postings)
    (same : e.row.address = f.row.address) (target : e.target = f.row.before.face) :
    e.row.after = f.row.before ∨ ∃ c ∈ run.calls, c.Cools e.row f.row := by
  have first := chronicle.current message e he
  have second := chronicle.current message f hf
  rcases chronicle.betrayals e he with honest | ⟨c, hc, betrays⟩
  · have address : e.row.after.address = f.row.before.address := first.address.trans same
    exact .inl (Snapshot.eq_of_face address first.after second.before (honest.trans target))
  · refine .inr ⟨c, hc, betrays.scenario, betrays.row, betrays.stamp, betrays.after, ?_⟩
    obtain ⟨before, latched, face⟩ := Option.map_eq_some_iff.1 betrays.target
    have unexceptional : c.scenario ≠ .exception := by simp [betrays.scenario]
    have concerns := chronicle.concerns c hc unexceptional before latched
    have address : before.callee.address = f.row.before.address :=
      concerns.callee.trans (betrays.address.symm.trans same)
    rw [latched, Option.map_some]
    exact congrArg some
      (Snapshot.eq_of_face address concerns.calleeCurrent second.before (face.trans target))

end Chronicle

/-- **How the rows of a history follow from one another**: in a message call each row starts from
the very snapshot that the row before it ends with.  The only row after which this may fail is the
one that cools down the callee of a call that failed and whose caller was rolled back: it ends at
the callee as the rollback left it, and the next row starts from the callee as it was before that
call. -/
theorem Episode.history_follows (run : Episode chain) (message : run.tx.isDeployment = false)
    (a : Address) : (run.history a).IsChain fun r s =>
      r.after = s.before ∨ ∃ c ∈ run.calls, c.Cools r s := by
  obtain ⟨o, postings, chronicle⟩ := run.chronicle
  rw [chronicle.history_eq, List.isChain_map]
  refine (chronicle.isChain a).imp_of_mem_imp fun e f he hf target => ?_
  obtain ⟨he, first⟩ := List.mem_filter.1 he
  obtain ⟨hf, second⟩ := List.mem_filter.1 hf
  refine chronicle.follows message he hf ?_ target
  rw [of_decide_eq_true first, of_decide_eq_true second]

/-! ## Histories of a call -/

namespace CallSection

variable {c : CallSection} {v w : View}

/-- The history of a call whose rows are produced in order. -/
theorem Balanced.history_eq (balanced : c.Balanced) (a : Address) :
    c.history a = c.accountRows.filter (·.address = a) := by
  have all : c.accountRows.Perm (c.rows.filterMap Row.account?) :=
    .of_eq c.trace_accountRows.symm
  exact History.rows_ofRows all balanced.ordered a

/-- All but exceptional calls have a history on both parties. -/
theorem Balanced.history_ne_nil (balanced : c.Balanced) (unexceptional : c.scenario ≠ .exception)
    {a : Address} (party : a = c.caller ∨ a = c.callee) : c.history a ≠ [] := by
  obtain ⟨⟨r, hr, caller⟩, ⟨s, hs, callee⟩⟩ := balanced.touches unexceptional
  rw [balanced.history_eq]
  rcases party with rfl | rfl
  · exact List.ne_nil_of_mem (List.mem_filter.2 ⟨hr, decide_eq_true caller⟩)
  · exact List.ne_nil_of_mem (List.mem_filter.2 ⟨hs, decide_eq_true callee⟩)

/-- **A history leads from its first row to its last.** -/
theorem Balanced.history_leads (balanced : c.Balanced)
    (leads : Leads v (c.accountRows.map AccountRow.move) w)
    (unexceptional : c.scenario ≠ .exception) {a : Address} (party : a = c.caller ∨ a = c.callee) :
    ((c.history a).IsChain fun r s => r.after.face = s.before.face) ∧
      ∃ first last, (c.history a).head? = some first ∧ (c.history a).getLast? = some last ∧
        first.before.face = v a ∧ last.after.face = w a := by
  have passes := leads.passes_rows a
  rw [← balanced.history_eq] at passes
  exact passes.exists_ends (balanced.history_ne_nil unexceptional party)

end CallSection

/-- **A call that has been undone leads back to where it started**, for both of its parties: its
rows on the account chain, and the last one ends with the balance, the nonce, the code and the
warmth that the first one starts with.  Only the callee of a failed call to a contract stays
warm. -/
theorem Episode.undone_call_leads_back (run : Episode chain) {c : CallSection} (hc : c ∈ run.calls)
    (undone : c.scenario ∈ [.abortWillRevert, .externalSuccessWillRevert,
      .precompileSuccessWillRevert, .contractSuccessWillRevert, .contractFailureWontRevert])
    {a : Address} (party : a = c.caller ∨ a = c.callee) :
    ((c.history a).IsChain fun r s => r.after.face = s.before.face) ∧
      ∃ first last, (c.history a).head? = some first ∧ (c.history a).getLast? = some last ∧
        last.after.face =
          if c.scenario = .contractFailureWontRevert ∧ a = c.callee then
            { first.before.face with isWarm := true }
          else first.before.face := by
  obtain ⟨o, postings, chronicle⟩ := run.chronicle
  have balanced := chronicle.balanced c hc
  have unexceptional : c.scenario ≠ .exception := by
    intro exceptional
    simp [exceptional] at undone
  by_cases failed : c.scenario = .contractFailureWontRevert
  · obtain ⟨v, -, leads⟩ := balanced.failed failed
    obtain ⟨chains, first, last, head, last', source, target⟩ :=
      balanced.history_leads leads unexceptional party
    refine ⟨chains, first, last, head, last', ?_⟩
    by_cases callee : a = c.callee
    · rw [if_pos ⟨failed, callee⟩, target, source, callee, Function.update_self]
      rfl
    · rw [if_neg fun both => callee both.2, target, source, Function.update_of_ne callee]
  · have reverted : c.scenario.isWillRevert = true ∧ c.scenario ≠ .contractFailureWillRevert := by
      simp only [List.mem_cons, List.not_mem_nil, or_false] at undone
      rcases undone with same | same | same | same | same
      all_goals first
        | exact absurd same failed
        | rw [same]; exact ⟨rfl, nofun⟩
    obtain ⟨v, leads⟩ := balanced.undone reverted.1 reverted.2
    obtain ⟨chains, first, last, head, last', source, target⟩ :=
      balanced.history_leads leads unexceptional party
    refine ⟨chains, first, last, head, last', ?_⟩
    rw [if_neg fun both => failed both.1, target, source]

/-! ## Sample histories -/

/-- The account rows of a transaction, sorted in a way that computes. -/
def Machine.sortedRows (idle closed : Machine) : List AccountRow :=
  (((closed.tracer.sections.toList.drop idle.tracer.sections.size).flatMap
    Section.rows).filterMap Row.account?).insertionSort fun r s => r.stamp.le s.stamp

theorem Episode.history_eq_sortedRows (run : Episode chain)
    (sorted : (Machine.sortedRows run.idle run.closed).Pairwise
      fun r s => r.stamp.Precedes s.stamp) (a : Address) :
    run.history a = (Machine.sortedRows run.idle run.closed).filter (·.address = a) :=
  History.rows_ofRows_insertionSort sorted a

/-- After two payments to a contract have been undone, the second of which had failed, the history
of the contract ends at what the rollback has left it. -/
theorem last_row_shows_world_after_rollback : ∃ run : Episode .ethereum, ∃ r : AccountRow,
    (run.history 0xbeef).getLast? = some r ∧ r.after.balance = run.left.world.balance 0xbeef ∧
      r.after.nonce = (run.left.world.account 0xbeef).nonce ∧
      r.after.isWarm = (Address.isPrecompile .ethereum 0xbeef || run.left.world.isWarm 0xbeef) := by
  have evaluated : Script.stage.rehearse .ethereum (Script.messageCall Script.sender 0xc0de 1)
      Script.calledTwice .failed 30000 (fun idle _ closed =>
        decide ((Machine.sortedRows idle closed).Pairwise fun r s => r.stamp.Precedes s.stamp) &&
          ((Machine.sortedRows idle closed).filter (·.address = 0xbeef)).getLast?.isSome) =
        true := by
    decide +kernel
  obtain ⟨run, -, seen⟩ := Machine.exists_episode Script.reachable_stage evaluated
  obtain ⟨sorted, last⟩ := Bool.and_eq_true_iff.1 seen
  rw [← run.history_eq_sortedRows (of_decide_eq_true sorted)] at last
  obtain ⟨r, last⟩ := Option.isSome_iff_exists.1 last
  exact ⟨run, r, last, run.last_row_shows_world last⟩

/-- In the same transaction the history of the contract does not chain: the row that cools it down
ends without the first payment, which the next row still takes from it. -/
theorem history_not_chained_after_rollback : ∃ run : Episode .ethereum,
    run.tx.isDeployment = false ∧ ¬History.Chained (run.history 0xbeef) := by
  have evaluated : Script.stage.rehearse .ethereum (Script.messageCall Script.sender 0xc0de 1)
      Script.calledTwice .failed 30000 (fun idle _ closed =>
        decide ((Machine.sortedRows idle closed).Pairwise fun r s => r.stamp.Precedes s.stamp) &&
          decide (¬History.Chained
            ((Machine.sortedRows idle closed).filter (·.address = 0xbeef)))) =
        true := by
    decide +kernel
  obtain ⟨run, tx, seen⟩ := Machine.exists_episode Script.reachable_stage evaluated
  obtain ⟨sorted, breaks⟩ := Bool.and_eq_true_iff.1 seen
  rw [← run.history_eq_sortedRows (of_decide_eq_true sorted)] at breaks
  exact ⟨run, by rw [tx]; rfl, of_decide_eq_true breaks⟩

/-- What the break of that history looks like in general. -/
theorem history_follows_after_rollback : ∃ run : Episode .ethereum,
    run.tx.isDeployment = false ∧ (run.history 0xbeef).IsChain fun r s =>
      r.after = s.before ∨ ∃ c ∈ run.calls, c.Cools r s := by
  have evaluated : Script.stage.rehearse .ethereum (Script.messageCall Script.sender 0xc0de 1)
      Script.calledTwice .failed 30000 (fun _ _ _ => true) = true := by
    decide +kernel
  obtain ⟨run, tx, -⟩ := Machine.exists_episode Script.reachable_stage evaluated
  have message : run.tx.isDeployment = false := by
    rw [tx]
    rfl
  exact ⟨run, message, run.history_follows message 0xbeef⟩

/-- Where the second payment has failed and nothing else is undone, its rows on the contract lead
back to where they started, but for warmth. -/
theorem failed_call_leads_back : ∃ run : Episode .ethereum, ∃ c ∈ run.calls,
    c.scenario = .contractFailureWontRevert ∧
      ((c.history c.callee).IsChain fun r s => r.after.face = s.before.face) ∧
      ∃ first last, (c.history c.callee).head? = some first ∧
        (c.history c.callee).getLast? = some last ∧
        last.after.face = { first.before.face with isWarm := true } := by
  obtain ⟨run, c, hc, failed⟩ :=
    Script.exists_call (.succeeded []) .contractFailureWontRevert (by decide +kernel)
  obtain ⟨chains, first, last, head, last', back⟩ :=
    run.undone_call_leads_back hc (by simp [failed]) (.inr rfl)
  rw [if_pos ⟨failed, rfl⟩] at back
  exact ⟨run, c, hc, failed, chains, first, last, head, last', back⟩

end ExecutionTrace
