import ExecutionTrace.Proofs.Rows.Growth
import ExecutionTrace.Proofs.Run.Rehearsal

/-!
# Rollbacks as a stack

The rows that undo effects are sorted as the effects would be popped off a stack: all rows of a
rollback come between what had been announced by then and what is announced later, the effects of
the most recent call are undone first, and a later rollback comes after an earlier one.

## Main Definitions

* `Tracer.Launching` — the section of the transaction that is being traced
* `Rollback` — a context that is rolled back in a run
* `Rollback.Causes` — the rows that a rollback adds, at once or at the end of the transaction
* `Rollback.Causes.stamp_eq` — that they are shown, and their stamps
* `Rollback.Ordered` — where these rows are in the history
* `Reachable.exists_causes` — there are no other rows that undo effects
* `undoing_rows_sort_as_stack` — every rollback of a run is in order, and so are transactions

## Design Notes

All rows of a rollback carry the stamp at which it happens, though the stamp is looked up in frames,
where the first rollback of a context wins: a call that has been undone waits for no other rollback,
so the stamp that it finds is always the one of now.  Rollbacks of nested contexts may share a
stamp, and the order of their rows does not depend on which of them has added which.

Which rows a rollback causes does not depend on their stamps: they are those that its step adds to
the sections that are there, and the undoing rows of the transaction whose root context it is.  That
they are the rows with an undoing stamp is proved of them.
-/

namespace ExecutionTrace

variable {chain : Chain} {last m m' : Machine} {tx : Transaction} {older : List Section}
  {launch : LaunchSection} {l : Level} {outer : List Level} {calls : List CallSection}
  {outcome : ContextOutcome}

/-! ## Contexts that have been rolled back -/

/-- The root context of a transaction that executes code has not been rolled back. -/
theorem Running.not_reverted (running : Running m tx older launch l outer) :
    ¬m.tracer.contexts.hasReverted LaunchSection.rootContext = true := by
  rw [running.stacked.root_unreverted]
  exact nofun

theorem Running.Called.not_reverted (scripted : l.Scripted) {frame : Frame} {i : Invocation}
    {c : CallSection} (called : Running.Called chain m tx older launch l outer frame i c m') :
    ¬m'.tracer.contexts.hasReverted LaunchSection.rootContext = true := by
  obtain ⟨_, _, running, -⟩ := called.running scripted
  exact running.not_reverted

/-- **A root context that has ended** has been rolled back exactly if it has failed. -/
theorem Ended.hasReverted_iff (ended : Ended m tx older launch calls outcome) :
    m.tracer.contexts.hasReverted LaunchSection.rootContext = true ↔ outcome.success = false := by
  obtain ⟨f, found, left, -⟩ := ended.root
  have own : m.tracer.contexts.hasFailed LaunchSection.rootContext = !outcome.success := by
    rw [ContextTree.hasFailed, found, Option.any_some, Frame.hasFailed, left]
    rfl
  constructor
  · intro reverted
    rcases ended.truthful.blamed _ reverted with failed | ⟨p, parent, -⟩
    · rwa [own, Bool.not_eq_true'] at failed
    · obtain ⟨positive, below⟩ := ended.wellFormed.parent_lt parent
      exact absurd (Nat.lt_of_lt_of_le positive (Nat.le_of_lt_succ below)) (Nat.lt_irrefl 0)
  · intro failure
    exact ended.truthful.failed _ (by rw [own, failure]; rfl)

/-- **A context that has failed** is rolled back when it is finished. -/
theorem Running.Finished.hasReverted (running : Running m tx older launch l outer)
    (finished : Running.Finished chain m tx older launch outcome l outer m')
    (failure : outcome.success = false) : m'.tracer.contexts.hasReverted l.context = true := by
  cases finished with
  | nested _ _ _ _ _ _ swept => exact swept failure
  | root ended =>
      cases running.stacked with
      | root _ _ number => exact number ▸ ended.hasReverted_iff.2 failure

/-- **The stamp of a row that undoes an effect** is that of its section, at the one of the
rollback, wherever the trace is looked at later. -/
theorem Reachable.stamp_eq_of_undoneAt (reachable : Reachable chain m) (later : Later chain m last)
    {n stamp : Nat} {row : AccountRow} (there : row ∈ m.tracer.rowsAt n)
    (undone : row.UndoneAt stamp) :
    ∃ s offset, last.tracer.sections[n]? = some s ∧ row ∈ s.accountRows ∧ offset < 7 ∧
      row.stamp = .undoing s.stamp stamp offset := by
  obtain ⟨undoes, rfl⟩ := undone
  obtain ⟨s, found, listed⟩ := Tracer.mem_rowsAt.1 ((later.gains reachable).keeps there)
  obtain ⟨offset, small, placed⟩ := (reachable.later later).seated.placed found listed
  exact ⟨s, offset, found, listed, small, placed.eq_undoing small undoes⟩

/-! ## The section of a transaction -/

/-- **The section of the transaction that is being traced**, which executes code: among all
sections, it is the one that waits for the end of the transaction. -/
structure Tracer.Launching (t : Tracer) (n : Nat) (launch : LaunchSection) (tx : Transaction) :
    Prop where
  waits : n ∈ t.agenda.waiting .transactionEnd
  found : t.sections[n]? = some (.launch launch)
  traced : t.transaction? = some tx

namespace Ended

variable (ended : Ended m tx older launch calls outcome)
include ended

theorem launching : m.tracer.Launching older.length launch tx := by
  have found : m.tracer.sections[older.length]? = some (.launch launch) := by
    rw [← Array.getElem?_toList, ended.tracing.sections]
    simp
  refine ⟨?_, found, ended.traced⟩
  rw [ended.tracing.attuned]
  refine Tracer.mem_waiters.2 ⟨_, found, ?_⟩
  show .transactionEnd ∈ launch.awaits
  rw [ended.tracing.launched]
  exact List.mem_singleton_self _

/-- Nothing but the section of the transaction waits for its end. -/
theorem launching_unique {n : Nat} {launch' : LaunchSection} {tx' : Transaction}
    (launching : m.tracer.Launching n launch' tx') :
    n = older.length ∧ launch' = launch ∧ tx' = tx := by
  obtain ⟨waits, found, traced⟩ := launching
  rw [ended.tracing.attuned] at waits
  obtain ⟨s, there, waits⟩ := Tracer.mem_waiters.1 waits
  obtain rfl := Option.some.inj (there.symm.trans found)
  rw [← Array.getElem?_toList, ended.tracing.sections] at found
  have place : n = older.length := by
    rcases Nat.lt_trichotomy n older.length with before | same | behind
    · rw [List.getElem?_append_left before] at found
      rw [ended.tracing.silent _ (List.mem_of_getElem? found)] at waits
      cases waits
    · exact same
    · rw [List.getElem?_append_right (Nat.le_of_lt behind),
        List.getElem?_cons, if_neg (Nat.sub_ne_zero_of_lt behind)] at found
      obtain ⟨_, -, other⟩ := List.mem_map.1 (List.mem_of_getElem? found)
      cases other
  subst place
  rw [List.getElem?_append_right (Nat.le_refl _), Nat.sub_self] at found
  exact ⟨rfl, (Section.launch.inj (Option.some.inj found)).symm,
    Option.some.inj (traced.symm.trans ended.traced)⟩

variable {gasUsed : UInt64} {revertStamp : Nat}
  (closed : Ended.Closed m tx older launch calls outcome gasUsed revertStamp m')
include closed

/-- **The rows of the section of a transaction that is over**: what the transaction did, and what
undoes it if it has failed. -/
theorem rowsAt_closed : m'.tracer.rowsAt older.length = launch.forwardRows tx ++
    if outcome.success then [] else launch.undoingRows m.tracer.incarnations tx revertStamp := by
  have found : m'.tracer.sections[older.length]? = some (.launch (launch.finished tx
      { success := outcome.success, gasUsed } m.tracer.incarnations revertStamp)) := by
    rw [← Array.getElem?_toList, closed.sections]
    simp
  have empty := (LaunchSection.root_of_awaits ended.tracing.launched).2
  rw [Tracer.rowsAt, found, Option.map_some, Option.getD_some]
  show (launch.finished ..).trace.accountRows = _
  rw [LaunchSection.accountRows_finished, Trace.accountRows_of_isEmpty empty, List.nil_append]

/-- **No other section gains an account row** at the end of a transaction. -/
theorem eq_of_mem_added {n : Nat} {row : AccountRow} (added : row ∈ m.tracer.added m'.tracer n) :
    n = older.length := by
  by_contra other
  have looked : ∀ t : Tracer,
      t.rowsAt n = ((t.sections.toList.map Section.accountRows)[n]?).getD [] := fun t => by
    rw [List.getElem?_map, Array.getElem?_toList]
    rfl
  have shut : ((calls.map CallSection.shut).map Section.call).map Section.accountRows =
      (calls.map Section.call).map Section.accountRows := by
    rw [List.map_map, List.map_map, List.map_map]
    refine List.map_congr_left fun c _ => ?_
    simp [CallSection.accountRows_shut]
  have same : m'.tracer.rowsAt n = m.tracer.rowsAt n := by
    rw [looked, looked, closed.sections, ended.tracing.sections, List.map_append, List.map_append,
      List.map_cons, List.map_cons, shut, List.getElem?_append, List.getElem?_append,
      List.length_map]
    split
    · rfl
    · rename_i behind
      rw [List.getElem?_cons, List.getElem?_cons, if_neg (by omega), if_neg (by omega)]
  rw [Tracer.added, same, List.drop_length] at added
  cases added

end Ended

/-! ## The rows that a rollback causes -/

/-- **A context that is rolled back in a run**, the trace being looked at later, or immediately. -/
structure Rollback (chain : Chain) (last : Machine) where
  /-- Before the step in which the context is rolled back. -/
  before : Machine
  action : Action
  /-- After it. -/
  after : Machine
  context : Nat
  reachable : Reachable chain before
  allowed : before.Allows action
  inner : action.isInner = true
  succeeds : action.carryOut chain before = .ok () after
  standing : before.tracer.contexts.hasReverted context = false
  reverted : after.tracer.contexts.hasReverted context = true
  later : Later chain after last

namespace Rollback

/-- **The stamp at which the rollback happens.** -/
def stamp (rb : Rollback chain last) : Nat :=
  rb.after.tracer.stamp

/-- **The rows that a rollback causes** in the section with a given number, whatever their stamps
may be. -/
inductive Causes (rb : Rollback chain last) (n : Nat) (row : AccountRow) : Prop
  /-- The rows that sections from before the step show when it has been taken: their context has
  been rolled back, or control is back in it. -/
  | atOnce (old : n < rb.before.tracer.sections.size)
      (added : row ∈ rb.before.tracer.added rb.after.tracer n)
  /-- The rows by which the section of the transaction undoes its transfer, if it is the root
  context that is rolled back. -/
  | atEnd {closing closed : Machine} {gasUsed : UInt64} {launch : LaunchSection} {tx : Transaction}
      {frame : Frame} (root : rb.context = LaunchSection.rootContext)
      (lingers : Executes chain rb.after closing)
      (ends : (Action.settle gasUsed).carryOut chain closing = .ok () closed)
      (later : Later chain closed last) (launching : closing.tracer.Launching n launch tx)
      (found : closing.tracer.contexts.get LaunchSection.rootContext = .ok frame)
      (listed : row ∈ launch.undoingRows closing.tracer.incarnations tx frame.revertStamp)

variable (rb : Rollback chain last)

theorem reachable_after : Reachable chain rb.after :=
  .step rb.reachable rb.allowed rb.succeeds

/-- **Contexts are rolled back by calls and when they are finished.** -/
theorem called_or_finished :
    (∃ tx older launch l outer frame i c, Running rb.before tx older launch l outer ∧ l.Scripted ∧
      Running.Called chain rb.before tx older launch l outer frame i c rb.after) ∨
    ∃ tx older launch l outer outcome, Running rb.before tx older launch l outer ∧ l.Scripted ∧
      Running.Finished chain rb.before tx older launch outcome l outer rb.after := by
  have inner := rb.inner
  cases rb.reachable.taken rb.allowed rb.succeeds with
  | starts _ action =>
      rw [action] at inner
      cases inner
  | settles _ action =>
      rw [action] at inner
      cases inner
  | calls running scripted _ called =>
      exact .inl ⟨_, _, _, _, _, _, _, _, running, scripted, called⟩
  | finishes running scripted _ finished =>
      exact .inr ⟨_, _, _, _, _, _, running, scripted, finished⟩
  | ends _ action =>
      rw [action] at inner
      cases inner

/-- **Once the root context has been rolled back** nothing is left to execute, and its transaction
has failed. -/
theorem exists_ended (root : rb.context = LaunchSection.rootContext) :
    ∃ tx older launch calls outcome,
      Ended rb.after tx older launch calls outcome ∧ outcome.success = false := by
  have reverted := rb.reverted
  rw [root] at reverted
  rcases rb.called_or_finished with ⟨_, _, _, _, _, _, _, _, -, scripted, called⟩ |
    ⟨_, _, _, _, _, _, -, -, finished⟩
  · exact absurd reverted (called.not_reverted scripted)
  · cases finished with
    | nested _ _ running => exact absurd reverted running.not_reverted
    | root ended => exact ⟨_, _, _, _, _, ended, ended.hasReverted_iff.1 reverted⟩

/-- **What the end of the transaction adds** after its root context has been rolled back. -/
theorem exists_closed (root : rb.context = LaunchSection.rootContext) {closing closed : Machine}
    {gasUsed : UInt64} (lingers : Executes chain rb.after closing)
    (ends : (Action.settle gasUsed).carryOut chain closing = .ok () closed) :
    closing = rb.after ∧ rb.after.Allows (.settle gasUsed) ∧
      ∃ tx older launch calls outcome, outcome.success = false ∧
        Ended rb.after tx older launch calls outcome ∧
        Ended.Closed rb.after tx older launch calls outcome gasUsed rb.stamp closed := by
  obtain ⟨tx, older, launch, calls, outcome, ended, failure⟩ := rb.exists_ended root
  obtain rfl : closing = rb.after := lingers.eq_of_inactive ended.current
    (Option.isSome_iff_exists.2 ⟨_, ended.traced⟩)
  have allowed : rb.after.Allows (.settle gasUsed) :=
    Option.isSome_iff_exists.2 ⟨_, ended.transaction⟩
  have yields : Yields ((Action.settle gasUsed).carryOut chain rb.after) _ _ :=
    ended.carryOut_yields allowed
  obtain ⟨_, revertStamp, same, closes⟩ := yields.value ends
  obtain rfl := Action.settle.inj same
  obtain rfl : revertStamp = rb.stamp := closes.stamped failure
  exact ⟨rfl, allowed, tx, older, launch, calls, outcome, failure, ended, closes⟩

variable {rb}

/-- **A row that a rollback causes** is shown, and its stamp is that of the section that shows it,
at that of the rollback. -/
theorem Causes.stamp_eq {n : Nat} {row : AccountRow} (causes : rb.Causes n row) :
    ∃ s offset, last.tracer.sections[n]? = some s ∧ row ∈ s.accountRows ∧ offset < 7 ∧
      row.stamp = .undoing s.stamp rb.stamp offset := by
  cases causes with
  | atOnce old added =>
      have undone : row.UndoneAt rb.stamp := by
        rcases rb.called_or_finished with ⟨_, _, _, _, _, _, _, _, running, scripted, called⟩ |
          ⟨_, _, _, _, _, _, running, scripted, finished⟩
        · -- A call concerns no section but its own.
          obtain ⟨c', sections, -⟩ := called.sections_eq running scripted
          have same : rb.after.tracer.rowsAt n = rb.before.tracer.rowsAt n := by
            rw [Tracer.rowsAt, Tracer.rowsAt, ← Array.getElem?_toList, sections,
              List.getElem?_append_left old, Array.getElem?_toList]
          rw [Tracer.added, same, List.drop_length] at added
          cases added
        · exact ((finished.gains running scripted).of_mem_added added).2
      exact rb.reachable_after.stamp_eq_of_undoneAt rb.later
        (Tracer.mem_rowsAt_of_mem_added added) undone
  | @atEnd closing closed gasUsed launch tx frame root lingers ends later launching found listed =>
      obtain ⟨rfl, allowed, _, older, _, _, outcome, failure, ended, closes⟩ :=
        rb.exists_closed root lingers ends
      obtain ⟨rfl, rfl, rfl⟩ := ended.launching_unique launching
      obtain ⟨f, there, -, stamped⟩ := ended.root
      obtain rfl : f = frame := Except.ok.inj ((ContextTree.get_eq_ok there).symm.trans found)
      rw [stamped failure] at listed
      have shown : row ∈ closed.tracer.rowsAt older.length := by
        rw [ended.rowsAt_closed closes, failure, if_neg Bool.false_ne_true]
        exact List.mem_append_right _ listed
      exact (Reachable.step rb.reachable_after allowed ends).stamp_eq_of_undoneAt later shown
        (LaunchSection.undoneAt_of_mem_undoingRows listed)

/-! ## Their order -/

/-- **The rows of a rollback are in order.** -/
structure Ordered (rb : Rollback chain last) : Prop where
  /-- They are in the trace. -/
  shown : ∀ {n : Nat} {row : AccountRow}, rb.Causes n row → row ∈ last.tracer.rowsAt n
  /-- At the end of the transaction nothing else is added but the rows that show what it did. -/
  complete : ∀ {closing closed : Machine} {gasUsed : UInt64} {n : Nat} {row : AccountRow},
    rb.context = LaunchSection.rootContext → Executes chain rb.after closing →
      (Action.settle gasUsed).carryOut chain closing = .ok () closed → Later chain closed last →
        row ∈ closing.tracer.added closed.tracer n → rb.Causes n row ∨
          ∃ launch tx, closing.tracer.Launching n launch tx ∧ row ∈ launch.forwardRows tx
  /-- They come after what is shown by sections up to the one announced last. -/
  after_shown : ∀ {n k : Nat} {row shown : AccountRow} {s : Section}, rb.Causes n row →
    last.tracer.sections[k]? = some s → s.stamp ≤ rb.stamp → shown ∈ s.accountRows →
      shown.stamp.isUndoing = false → shown.stamp.Precedes row.stamp
  /-- They come after what rollbacks at earlier stamps undo. -/
  after_earlier : ∀ {rb' : Rollback chain last} {n n' : Nat} {row row' : AccountRow},
    rb.Causes n row → rb'.Causes n' row' → rb'.stamp < rb.stamp →
      row'.stamp.Precedes row.stamp
  /-- They come before everything that is announced later. -/
  before_later : ∀ {n k : Nat} {row row' : AccountRow} {s : Section}, rb.Causes n row →
    rb.after.tracer.sections.size ≤ k → last.tracer.sections[k]? = some s →
      row' ∈ s.accountRows → row.stamp.Precedes row'.stamp
  /-- Among the rows undone at the same stamp those of the most recent section come first. -/
  latest_first : ∀ {rb' : Rollback chain last} {n n' : Nat} {row row' : AccountRow}
    {s s' : Section}, rb.Causes n row → rb'.Causes n' row' → rb'.stamp = rb.stamp →
      last.tracer.sections[n]? = some s → last.tracer.sections[n']? = some s' →
        s'.stamp < s.stamp → row.stamp.Precedes row'.stamp
  /-- Those of one section keep the order of their offsets. -/
  by_offset : ∀ {rb' : Rollback chain last} {n : Nat} {row row' : AccountRow},
    rb.Causes n row → rb'.Causes n row' → rb'.stamp = rb.stamp →
      row.stamp.offset < row'.stamp.offset → row.stamp.Precedes row'.stamp

variable {rb' : Rollback chain last} {n n' k : Nat} {row row' : AccountRow} {s s' : Section}

theorem Causes.moment_eq (causes : rb.Causes n row) : row.stamp.moment = rb.stamp := by
  obtain ⟨s, offset, -, -, -, stamp⟩ := causes.stamp_eq
  rw [stamp, RowStamp.moment_undoing]

theorem reachable_last (rb : Rollback chain last) : Reachable chain last :=
  rb.reachable_after.later rb.later

/-- **What the end of a failed transaction adds** shows what the transaction did, or is caused by
the rollback of its root context. -/
theorem complete_of_root (rb : Rollback chain last) {closing closed : Machine} {gasUsed : UInt64}
    (root : rb.context = LaunchSection.rootContext) (lingers : Executes chain rb.after closing)
    (ends : (Action.settle gasUsed).carryOut chain closing = .ok () closed)
    (later : Later chain closed last) (added : row ∈ closing.tracer.added closed.tracer n) :
    rb.Causes n row ∨
      ∃ launch tx, closing.tracer.Launching n launch tx ∧ row ∈ launch.forwardRows tx := by
  obtain ⟨rfl, -, tx, older, launch, _, _, failure, ended, closes⟩ :=
    rb.exists_closed root lingers ends
  obtain rfl := ended.eq_of_mem_added closes added
  obtain ⟨f, there, -, stamped⟩ := ended.root
  have listed := Tracer.mem_rowsAt_of_mem_added added
  rw [ended.rowsAt_closed closes, failure, if_neg Bool.false_ne_true] at listed
  rcases List.mem_append.1 listed with shows | undoes
  · exact .inr ⟨launch, tx, ended.launching, shows⟩
  · refine .inl (.atEnd root lingers ends later ended.launching (ContextTree.get_eq_ok there) ?_)
    rw [stamped failure]
    exact undoes

/-- **The rows of every rollback are in order.** -/
theorem ordered (rb : Rollback chain last) : rb.Ordered where
  shown causes := by
    obtain ⟨s, _, found, listed, -⟩ := causes.stamp_eq
    exact Tracer.mem_rowsAt.2 ⟨s, found, listed⟩
  complete := rb.complete_of_root
  after_shown := by
    intro n k row shown s causes found early listed shows
    obtain ⟨offset, small, placed⟩ := rb.reachable_last.seated.placed found listed
    obtain ⟨_, _, -, -, -, stamp⟩ := causes.stamp_eq
    refine RowStamp.precedes_of_isUndoing ?_ shows ?_
    · rw [placed.moment_eq small shows, causes.moment_eq]
      exact early
    · rw [stamp, RowStamp.isUndoing_undoing]
  after_earlier := by
    intro rb' n n' row row' causes causes' earlier
    refine RowStamp.precedes_of_moment_lt ?_
    rw [causes.moment_eq, causes'.moment_eq]
    exact earlier
  before_later := by
    intro n k row row' s causes late found listed
    refine RowStamp.precedes_of_moment_lt ?_
    have announced := (rb.later.onward rb.reachable_after.seated).stamp_lt late found
    have dated := (rb.reachable_last.dated found listed).1
    rw [causes.moment_eq]
    exact Nat.lt_of_lt_of_le announced dated
  latest_first := by
    intro rb' n n' row row' s s' causes causes' same found found' older
    obtain ⟨_, offset, there, -, small, stamp⟩ := causes.stamp_eq
    obtain ⟨_, offset', there', -, small', stamp'⟩ := causes'.stamp_eq
    obtain rfl := Option.some.inj (there.symm.trans found)
    obtain rfl := Option.some.inj (there'.symm.trans found')
    rw [stamp, stamp', same]
    exact RowStamp.undoing_precedes_older older (by omega) (by omega)
  by_offset := by
    intro rb' n row row' causes causes' same order
    obtain ⟨s, offset, found, -, small, stamp⟩ := causes.stamp_eq
    obtain ⟨s', offset', found', -, small', stamp'⟩ := causes'.stamp_eq
    obtain rfl := Option.some.inj (found'.symm.trans found)
    rw [stamp, stamp', RowStamp.offset_undoing (by omega), RowStamp.offset_undoing (by omega)]
      at order
    rw [stamp, stamp', same]
    exact RowStamp.undoing_precedes_offset order (by omega)

/-! ## All rollbacks of a run -/

/-- The trace is looked at later. -/
def extend (rb : Rollback chain last) {last' : Machine} (later : Later chain last last') :
    Rollback chain last' :=
  { rb with later := rb.later.trans later }

theorem Causes.extend (causes : rb.Causes n row) {last' : Machine}
    (later : Later chain last last') : (rb.extend later).Causes n row := by
  cases causes with
  | atOnce old added => exact .atOnce old added
  | atEnd root lingers ends closes launching found listed =>
      exact .atEnd root lingers ends (closes.trans later) launching found listed

end Rollback

/-- **A root context that has failed** has been rolled back by the step before. -/
theorem Ended.exists_rollback (ended : Ended m tx older launch calls outcome)
    (reachable : Reachable chain m) (failure : outcome.success = false) :
    ∃ rb : Rollback chain m, rb.context = LaunchSection.rootContext ∧ rb.after = m := by
  obtain ⟨leaving, _, _, _, l, _, before, running, allowed, leaves⟩ :=
    reachable.exists_leaving ended
  exact ⟨⟨leaving, _, m, LaunchSection.rootContext, before, allowed, rfl, leaves,
    running.stacked.root_unreverted, ended.hasReverted_iff.2 failure, .refl m⟩, rfl, rfl⟩

/-- **Every row of a run that undoes an effect** has been caused by a rollback. -/
theorem Reachable.exists_causes (reachable : Reachable chain last) {n : Nat} {row : AccountRow}
    (found : row ∈ last.tracer.rowsAt n) (undoes : row.stamp.isUndoing = true) :
    ∃ rb : Rollback chain last, rb.Causes n row := by
  induction reachable with
  | initial accounts outcomes =>
      rw [Machine.tracer_initial] at found
      cases found
  | @step m m' a before allowed succeeds ih =>
      have later := (Later.refl m).step allowed succeeds
      -- Old rows keep their rollback. Undoing rows are added where a context fails, and where a
      -- failed transaction ends.
      rcases (before.gains allowed succeeds).mem_rowsAt found with old | added
      · obtain ⟨rb, causes⟩ := ih old
        exact ⟨rb.extend later, causes.extend later⟩
      cases before.taken allowed succeeds with
      | starts _ _ begun => exact (begun.gains.of_mem_added added).elim
      | settles skipping _ closed =>
          have seated := (Action.onward before.seated succeeds).seated
          have shows := (skipping.gains closed seated).of_mem_added added
          rw [undoes] at shows
          cases shows
      | calls running scripted _ called =>
          have shows := (called.gains running scripted).of_mem_added added
          rw [undoes] at shows
          cases shows
      | @finishes _ _ _ l _ _ running scripted action finished =>
          subst action
          obtain ⟨failure, -⟩ := (finished.gains running scripted).of_mem_added added
          let rb : Rollback chain m' :=
            ⟨m, _, m', l.context, before, allowed, rfl, succeeds,
              running.stacked.sound.unreverted.hasReverted_eq, finished.hasReverted running failure,
              .refl m'⟩
          refine ⟨rb, .atOnce ?_ added⟩
          obtain ⟨s, there, -⟩ := Tracer.mem_rowsAt.1 found
          rw [← finished.size_eq running scripted]
          exact (Array.getElem?_eq_some_iff.1 there).1
      | ends ended action closed =>
          subst action
          have failure := ((closed.gains ended).of_mem_added added).2 undoes
          obtain ⟨rb, root, same⟩ := ended.exists_rollback before failure
          have lingers : Executes chain rb.after m := by
            rw [same]
            exact .refl m
          refine ⟨rb.extend later, ?_⟩
          rcases (rb.extend later).complete_of_root root lingers succeeds (.refl m') added with
            causes | ⟨launch, tx, -, shown⟩
          · exact causes
          · rw [LaunchSection.isUndoing_of_mem_forwardRows shown] at undoes
            cases undoes

/-! ## Transactions -/

/-- **What happens between two transactions separates their rows**: those of all sections so far
come before those of all later ones. -/
theorem Reachable.rows_precede_later {idle : Machine} (reachable : Reachable chain idle)
    (free : idle.transaction? = none) (later : Later chain idle last) {n k : Nat}
    {s s' : Section} {row row' : AccountRow} (old : n < idle.tracer.sections.size)
    (late : idle.tracer.sections.size ≤ k) (found : last.tracer.sections[n]? = some s)
    (found' : last.tracer.sections[k]? = some s') (listed : row ∈ s.accountRows)
    (listed' : row' ∈ s'.accountRows) : row.stamp.Precedes row'.stamp := by
  have idles := reachable.poised.idle_of_free free
  have there : idle.tracer.sections[n]? = some idle.tracer.sections[n] :=
    Array.getElem?_eq_getElem old
  -- Nobody waits for anything between two transactions, so the old section is what it was.
  have kept := (later.gains reachable).silent n _ there (idles.silent _ (Array.getElem_mem old))
  obtain rfl := Option.some.inj (kept.symm.trans found)
  refine RowStamp.precedes_of_moment_lt ?_
  have before := (reachable.dated there listed).2
  have announced := (later.onward reachable.seated).stamp_lt late found'
  have after := ((reachable.later later).dated found' listed').1
  omega

/-- **Undoing rows sort as a stack.** Wherever the trace of a run is looked at, the rows of every
rollback so far are in order, and all rows of a transaction precede all rows of the next one.  No
other rows undo effects. -/
theorem undoing_rows_sort_as_stack (chain : Chain) (last : Machine) :
    (∀ rb : Rollback chain last, rb.Ordered) ∧
      (∀ idle : Machine, Reachable chain idle → idle.transaction? = none → Later chain idle last →
        ∀ {n k : Nat} {s s' : Section} {row row' : AccountRow}, n < idle.tracer.sections.size →
          idle.tracer.sections.size ≤ k → last.tracer.sections[n]? = some s →
            last.tracer.sections[k]? = some s' → row ∈ s.accountRows → row' ∈ s'.accountRows →
              row.stamp.Precedes row'.stamp) ∧
      ∀ {n : Nat} {row : AccountRow}, Reachable chain last → row ∈ last.tracer.rowsAt n →
        row.stamp.isUndoing = true → ∃ rb : Rollback chain last, rb.Causes n row :=
  ⟨fun rb => rb.ordered, fun _ reachable free later => reachable.rows_precede_later free later,
    fun reachable found undoes => reachable.exists_causes found undoes⟩

/-- Where the root contexts of two transactions fail, the second failure undoes the last call first,
then the one before and then the transfer of the transaction, and all of this comes after the first
transaction. -/
theorem undoing_rows_sort_as_stack_of_failed_roots :
    ∃ (last : Machine) (rb : Rollback .ethereum last) (old call₂ call₁ own : AccountRow),
      old ∈ last.tracer.rowsAt 0 ∧ rb.Causes 5 call₂ ∧ rb.Causes 4 call₁ ∧ rb.Causes 3 own ∧
        old.stamp.Precedes call₂.stamp ∧ call₂.stamp.Precedes call₁.stamp ∧
        call₁.stamp.Precedes own.stamp := by
  let opening := .start (Script.messageCall Script.sender 0xc0de 1) :: Script.calledTwice
  have evaluated : ((Script.stage.play .ethereum (opening ++ [.finish .failed, .settle 30000])).any
      fun idle => idle.transaction?.isNone && idle.tracer.sections.size == 3 &&
        (idle.play .ethereum opening).any fun leaving =>
          (leaving.play .ethereum [.finish .failed]).any fun left =>
            (left.play .ethereum [.settle 30000]).any fun closed =>
              !leaving.tracer.contexts.hasReverted 1 && left.tracer.contexts.hasReverted 1 &&
                (closed.tracer.rowsAt 0).any (fun _ => true) &&
                leaving.tracer.sections.size == 6 &&
                (leaving.tracer.added left.tracer 5).any (fun _ => true) &&
                (leaving.tracer.added left.tracer 4).any (fun _ => true) &&
                (left.tracer.added closed.tracer 3).any (·.stamp.isUndoing)) = true := by
    decide +kernel
  simp only [Option.any_eq_true, List.any_eq_true, Bool.and_eq_true, Bool.not_eq_true',
    beq_iff_eq] at evaluated
  obtain ⟨idle, first, ⟨free, size⟩, leaving, second, left, leaves, closed, ends,
    ⟨⟨⟨⟨⟨standing, reverted⟩, old, listed, -⟩, present⟩, call₂, added₂, -⟩, call₁, added₁, -⟩,
    own, added, undoes⟩ := evaluated
  obtain ⟨allowed, leaves⟩ := Machine.carryOut_of_play leaves
  obtain ⟨allowed', ends⟩ := Machine.carryOut_of_play ends
  have reachable : Reachable .ethereum idle := Script.reachable_stage.play first
  let rb : Rollback .ethereum closed :=
    ⟨leaving, .finish .failed, left, 1, reachable.play second, allowed, rfl, leaves, standing,
      reverted, (Later.refl left).step allowed' ends⟩
  obtain ⟨ordered, separate, -⟩ := undoing_rows_sort_as_stack .ethereum closed
  have lingers : Executes .ethereum rb.after left := .refl left
  have root : rb.Causes 3 own := by
    rcases (ordered rb).complete rfl lingers ends (.refl closed) added with
      causes | ⟨_, _, -, shown⟩
    · exact causes
    · rw [LaunchSection.isUndoing_of_mem_forwardRows shown] at undoes
      cases undoes
  have causes₁ : rb.Causes 4 call₁ := .atOnce (present ▸ by decide) added₁
  have causes₂ : rb.Causes 5 call₂ := .atOnce (present ▸ by decide) added₂
  obtain ⟨s, -, found, -⟩ := root.stamp_eq
  obtain ⟨s₁, -, found₁, -⟩ := causes₁.stamp_eq
  obtain ⟨s₂, -, found₂, listed₂, -⟩ := causes₂.stamp_eq
  obtain ⟨s₀, found₀, listed₀⟩ := Tracer.mem_rowsAt.1 listed
  have seated := rb.reachable_last.seated
  have onward : Later .ethereum idle closed :=
    (Later.play second).trans (((Later.refl leaving).step allowed leaves).trans rb.later)
  refine ⟨closed, rb, old, call₂, call₁, own, listed, causes₂, causes₁, root, ?_, ?_, ?_⟩
  · exact separate idle reachable (Option.isNone_iff_eq_none.1 free) onward (size ▸ by decide)
      (size ▸ by decide) found₀ found₂ listed₀ listed₂
  · exact (ordered rb).latest_first causes₂ causes₁ rfl found₂ found₁
      (seated.stamp_lt (by decide) found₁ found₂)
  · exact (ordered rb).latest_first causes₁ root rfl found₁ found
      (seated.stamp_lt (by decide) found found₁)

end ExecutionTrace
