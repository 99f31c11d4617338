import ExecutionTrace.Proofs.Run.Agreement
import ExecutionTrace.Proofs.Run.Development
import ExecutionTrace.Proofs.Run.Driving

/-!
# How sections grow

Account rows are only ever added to a section, and to none that waits for nothing.  A row that
undoes an effect is added at the stamp that it names, since that of a rollback is the one at which
the context was left and no call has been made since.

## Main Definitions

* `AccountRow.UndoneAt`, `AccountRow.AddedAt` — the rows that a rollback adds, and those that any
  step does
* `Section.Grows`, `Tracer.Gains` — rows of a kind are added to a section, or to those of a tracer
* `Reachable.gains`, `Running.Finished.gains` — the rows that a step of a run adds
* `Reachable.dated` — a row counts for no stamp before its section, nor for one that is to come

## Design Notes

Rows are looked up by the numbers of sections.  A section that does not exist yet has no rows, so a
new section is one that gains all of its rows.
-/

namespace ExecutionTrace

variable {chain : Chain} {m m' : Machine} {Q R : AccountRow → Prop}

namespace AccountRow

/-- The row undoes an effect, in a rollback at the stamp given. -/
def UndoneAt (stamp : Nat) (row : AccountRow) : Prop :=
  row.stamp.isUndoing = true ∧ row.stamp.moment = stamp

/-- The row shows an effect, or undoes one in a rollback at the stamp given. -/
def AddedAt (stamp : Nat) (row : AccountRow) : Prop :=
  row.stamp.isUndoing = true → row.stamp.moment = stamp

theorem addedAt_of_shows {stamp : Nat} {row : AccountRow} (shows : row.stamp.isUndoing = false) :
    row.AddedAt stamp := by
  intro undoes
  rw [shows] at undoes
  cases undoes

end AccountRow

/-! ## One section -/

namespace Section

/-- **Rows of a kind are added to a section**, unless it waits for nothing. -/
structure Grows (Q : AccountRow → Prop) (s s' : Section) : Prop where
  rows : ∃ more, s'.accountRows = s.accountRows ++ more ∧ ∀ row ∈ more, Q row
  silent : s.awaits = [] → s' = s

theorem Grows.refl (s : Section) : s.Grows Q s where
  rows := ⟨[], (List.append_nil _).symm, nofun⟩
  silent _ := rfl

end Section

namespace CallSection

variable {c c' : CallSection} {stamp : Nat}

theorem undoneAt_of_mem_undoingRows {caller callee : Transition} {row : AccountRow}
    (found : row ∈ c.undoingRows stamp caller callee) : row.UndoneAt stamp := by
  unfold undoingRows at found
  simp only [List.mem_cons, List.not_mem_nil, or_false] at found
  rcases found with rfl | rfl <;>
    exact ⟨RowStamp.isUndoing_undoing, RowStamp.moment_undoing⟩

/-- **A rollback adds rows that undo** effects, at its own stamp. -/
theorem undoneAt_of_mem_compensation {rolledBack : Parties} {incarnations : Incarnations}
    {row : AccountRow} (found : row ∈ c.compensation rolledBack incarnations stamp) :
    row.UndoneAt stamp := by
  unfold compensation at found
  split at found
  · rw [List.mem_singleton.1 found]
    exact ⟨RowStamp.isUndoing_undoing, RowStamp.moment_undoing⟩
  · exact undoneAt_of_mem_undoingRows found
  · rw [List.mem_singleton.1 found]
    exact ⟨RowStamp.isUndoing_undoing, RowStamp.moment_undoing⟩
  · exact undoneAt_of_mem_undoingRows found
  · exact undoneAt_of_mem_undoingRows found
  · cases found

theorem accountRows_parting (chain : Chain) (world : WorldState) (incarnations : Incarnations)
    (child : Nat) (c : CallSection) :
    (c.parting chain world incarnations child).accountRows = c.accountRows := by
  unfold parting heed
  split <;> rfl

/-- The rows of a call that has returned. -/
theorem accountRows_answered {before : Parties} (latched : c.before? = some before)
    (chain : Chain) (world : WorldState) (incarnations : Incarnations) (child : Frame)
    (outcome : ContextOutcome) :
    (c.answered chain world incarnations child outcome).accountRows = c.accountRows ++
      c.returnRows before (.canonical chain world incarnations c.caller c.callee) incarnations child
        outcome.success := by
  rw [answered_eq_of_before latched]
  exact accountRows_returned ..

/-- **The failure of a contract adds rows that undo** the call, and its success adds none. -/
theorem undoneAt_of_mem_returnRows (scenario : c.scenario = .contractUndefined)
    {before reEntry : Parties} {incarnations : Incarnations} {child : Frame} {success : Bool}
    (stamped : success = false → child.revertStamp = stamp) {row : AccountRow}
    (found : row ∈ c.returnRows before reEntry incarnations child success) :
    success = false ∧ row.UndoneAt stamp := by
  rw [returnRows, scenario] at found
  cases after : c.after? with
  | none =>
      rw [after] at found
      cases found
  | some after' =>
      rw [after] at found
      cases success with
      | true => cases found
      | false =>
          rw [← stamped rfl]
          exact ⟨rfl, undoneAt_of_mem_undoingRows found⟩

/-- **However a call develops**, rows are added if the context has failed, and undo effects at the
stamp of the rollback. -/
theorem Develops.grows {outcome : ContextOutcome} (develops : Develops chain stamp outcome c c') :
    (Section.call c).Grows (fun row => outcome.success = false ∧ row.UndoneAt stamp)
      (.call c') := by
  cases develops with
  | stays => exact .refl _
  | @returns id child world world' incarnations pending scenario stamped =>
      have parted := (pending.parting chain world incarnations).1
      obtain ⟨before, latched⟩ := Option.isSome_iff_exists.1 parted.latched
      have rows := accountRows_answered latched chain world' incarnations child outcome
      rw [accountRows_parting, ← Section.accountRows_call, ← Section.accountRows_call] at rows
      refine ⟨⟨_, rows, fun row found => ?_⟩, fun silent => ?_⟩
      · exact undoneAt_of_mem_returnRows ((scenario_parting ..).trans scenario) stamped found
      · have silent : c.awaits = [] := silent
        rw [pending.awaits_eq] at silent
        cases silent
  | falls world incarnations failure isOver =>
      unfold fallBack heed
      split
      · rename_i waits
        have rows := c.accountRows_reverted
          (.canonical chain world incarnations c.caller c.callee) incarnations stamp
        rw [← Section.accountRows_call, ← Section.accountRows_call] at rows
        refine ⟨⟨_, rows, fun row found =>
          ⟨failure, undoneAt_of_mem_compensation found⟩⟩, fun silent => ?_⟩
        have silent : c.awaits = [] := silent
        rw [silent] at waits
        cases waits
      · exact .refl _

/-! ## New calls -/

/-- Nothing has been undone in a section. -/
def OnlyShows (c : CallSection) : Prop :=
  ∀ row ∈ c.accountRows, row.stamp.isUndoing = false

variable {setting : Setting} {world : WorldState} {frame : Frame} {i : Invocation}

theorem isUndoing_of_mem_forwardRows {caller callee : Transition} {executes : Bool}
    {row : AccountRow} (found : row ∈ c.forwardRows caller callee executes) :
    row.stamp.isUndoing = false := by
  simp only [forwardRows, List.mem_cons, List.not_mem_nil, or_false] at found
  rcases found with rfl | rfl
  · exact RowStamp.isUndoing_forward (by decide)
  · exact RowStamp.isUndoing_forward (by decide)

theorem Announced.onlyShows (announced : c.Announced chain setting world frame i) :
    c.OnlyShows := by
  unfold OnlyShows
  cases announced.course with
  | exceptional _ _ _ rows =>
      rw [rows]
      split
      · exact fun row => isUndoing_of_mem_forwardRows
      · exact nofun
  | aborting _ _ _ _ _ rows =>
      rw [rows]
      exact fun row => isUndoing_of_mem_forwardRows
  | external _ _ _ _ _ _ rows => exact rows ▸ nofun
  | precompile _ _ _ _ _ _ _ rows => exact rows ▸ nofun
  | contract _ _ _ _ _ _ rows => exact rows ▸ nofun

theorem Enters.onlyShows {before : Parties} (enters : c.Enters before c') (shows : c.OnlyShows) :
    c'.OnlyShows := by
  rcases enters with ⟨-, rfl⟩ | ⟨-, after, -, rfl⟩
  · exact shows
  · intro row found
    rw [accountRows_entered] at found
    rcases List.mem_append.1 found with old | new
    · exact shows row old
    · unfold entryRows at new
      split at new
      · exact isUndoing_of_mem_forwardRows new
      · cases new

/-- What a precompile or an account without code has done is shown, even if it was undone. -/
theorem OnlyShows.answered (shows : c.OnlyShows) (other : c.scenario ≠ .contractUndefined)
    (world : WorldState) (incarnations : Incarnations) (child : Frame) (outcome : ContextOutcome) :
    (c.answered chain world incarnations child outcome).OnlyShows := by
  cases latched : c.before? with
  | none =>
      unfold CallSection.answered
      rw [latched]
      exact shows
  | some before =>
      intro row found
      rw [accountRows_answered latched chain] at found
      rcases List.mem_append.1 found with old | new
      · exact shows row old
      · unfold returnRows at new
        split at new
        · rename_i scenario _
          exact absurd scenario other
        · rename_i scenario _
          exact absurd scenario other
        · exact isUndoing_of_mem_forwardRows new

/-- **The step that makes a call undoes nothing of it**, not even if it spawns a context that
fails. -/
theorem Emerges.onlyShows {outcomes : Std.TreeMap Address ContextOutcome}
    (emerges : c.Emerges chain outcomes setting world frame i) : c.OnlyShows := by
  cases emerges with
  | dismissed announced => exact announced.onlyShows
  | aborted announced =>
      intro row found
      rw [accountRows_push] at found
      exact announced.onlyShows row found
  | immediate world' incarnations announced _ _ other enters =>
      refine (enters.onlyShows announced.onlyShows).answered ?_ _ _ _ _
      rw [enters.scenario_eq]
      exact other
  | spawned announced _ _ _ enters => exact enters.onlyShows announced.onlyShows

end CallSection

/-! ## All sections -/

namespace Tracer

variable {t t' t'' : Tracer}

/-- The account rows of the section with a given number, of which there are none yet if the section
does not exist. -/
def rowsAt (t : Tracer) (n : Nat) : List AccountRow :=
  (t.sections[n]?.map Section.accountRows).getD []

theorem mem_rowsAt {n : Nat} {row : AccountRow} :
    row ∈ t.rowsAt n ↔ ∃ s, t.sections[n]? = some s ∧ row ∈ s.accountRows := by
  unfold rowsAt
  cases t.sections[n]? with
  | none => simp
  | some s => simp

/-- The rows that the section with a given number has in a later tracer and not yet in this one. -/
def added (t t' : Tracer) (n : Nat) : List AccountRow :=
  (t'.rowsAt n).drop (t.rowsAt n).length

theorem mem_rowsAt_of_mem_added {n : Nat} {row : AccountRow} (found : row ∈ t.added t' n) :
    row ∈ t'.rowsAt n :=
  List.mem_of_mem_drop found

/-- **Rows of a kind are added to sections**, but to none that waits for nothing. -/
structure Gains (Q : AccountRow → Prop) (t t' : Tracer) : Prop where
  rows : ∀ n, ∃ more, t'.rowsAt n = t.rowsAt n ++ more ∧ ∀ row ∈ more, Q row
  silent : ∀ (n : Nat) (s : Section), t.sections[n]? = some s → s.awaits = [] →
    t'.sections[n]? = some s

namespace Gains

theorem refl (t : Tracer) : t.Gains Q t where
  rows _ := ⟨[], (List.append_nil _).symm, nofun⟩
  silent _ _ found _ := found

theorem mono (gains : t.Gains Q t') (weaker : ∀ row, Q row → R row) : t.Gains R t' where
  rows n := by
    obtain ⟨more, rows, kind⟩ := gains.rows n
    exact ⟨more, rows, fun row h => weaker row (kind row h)⟩
  silent := gains.silent

theorem trans (gains : t.Gains Q t') (gains' : t'.Gains Q t'') : t.Gains Q t'' where
  rows n := by
    obtain ⟨more, rows, kind⟩ := gains.rows n
    obtain ⟨more', rows', kind'⟩ := gains'.rows n
    refine ⟨more ++ more', by rw [rows', rows, List.append_assoc], fun row found => ?_⟩
    exact (List.mem_append.1 found).elim (kind row) (kind' row)
  silent n s found waits := gains'.silent n s (gains.silent n s found waits) waits

/-- A row of a section has been there before, or has been added. -/
theorem mem_rowsAt (gains : t.Gains Q t') {n : Nat} {row : AccountRow} (found : row ∈ t'.rowsAt n) :
    row ∈ t.rowsAt n ∨ row ∈ t.added t' n := by
  obtain ⟨more, rows, -⟩ := gains.rows n
  rw [added, rows, List.drop_left]
  rw [rows] at found
  exact List.mem_append.1 found

/-- The rows that have been added are of the kind. -/
theorem of_mem_added (gains : t.Gains Q t') {n : Nat} {row : AccountRow}
    (found : row ∈ t.added t' n) : Q row := by
  obtain ⟨more, rows, kind⟩ := gains.rows n
  rw [added, rows, List.drop_left] at found
  exact kind row found

/-- A row that a section has is kept. -/
theorem keeps (gains : t.Gains Q t') {n : Nat} {row : AccountRow} (found : row ∈ t.rowsAt n) :
    row ∈ t'.rowsAt n := by
  obtain ⟨more, rows, -⟩ := gains.rows n
  rw [rows]
  exact List.mem_append_left _ found

end Gains

/-- Sections that grow one by one, and new ones behind them. -/
theorem gains_of_grows_append {grown new : List Section}
    (sections : t'.sections.toList = grown ++ new)
    (grows : List.Forall₂ (Section.Grows Q) t.sections.toList grown)
    (fresh : ∀ s ∈ new, ∀ row ∈ s.accountRows, Q row) : t.Gains Q t' := by
  have size : t.sections.size = grown.length := by
    rw [← grows.length_eq, Array.length_toList]
  have old : ∀ (n : Nat) (s : Section), t.sections[n]? = some s →
      ∃ s', t'.sections[n]? = some s' ∧ s.Grows Q s' := by
    intro n s found
    obtain ⟨inside, rfl⟩ := Array.getElem?_eq_some_iff.1 found
    have inside' : n < grown.length := size ▸ inside
    refine ⟨grown[n], ?_, grows.get inside inside'⟩
    rw [← Array.getElem?_toList, sections, List.getElem?_append_left inside']
    exact List.getElem?_eq_getElem inside'
  constructor
  · intro n
    cases found : t.sections[n]? with
    | some s =>
        obtain ⟨s', found', grows⟩ := old n s found
        simp only [rowsAt, found, found']
        exact grows.rows
    | none =>
        refine ⟨t'.rowsAt n, by simp [rowsAt, found], fun row h => ?_⟩
        obtain ⟨s, there, listed⟩ := mem_rowsAt.1 h
        have outside := Array.getElem?_eq_none_iff.1 found
        rw [← Array.getElem?_toList, sections, List.getElem?_append_right (size ▸ outside)] at there
        exact fresh s (List.mem_of_getElem? there) row listed
  · intro n s found waits
    obtain ⟨s', found', grows⟩ := old n s found
    rw [found', grows.silent waits]

/-- **Sections that grow one by one.** -/
theorem gains_of_grows
    (grows : List.Forall₂ (Section.Grows Q) t.sections.toList t'.sections.toList) :
    t.Gains Q t' :=
  gains_of_grows_append (List.append_nil _).symm grows fun _ new => absurd new List.not_mem_nil

end Tracer

/-! ## The steps of a run -/

/-- Calls that develop while nothing else in the trace changes. -/
theorem Tracing.gains_of_develops {t t' : Tracer} {older : List Section} {launch : LaunchSection}
    {calls calls' : List CallSection} (tracing : Tracing t older launch calls)
    (tracing' : Tracing t' older launch calls') {stamp : Nat} {outcome : ContextOutcome}
    (develops : List.Forall₂ (CallSection.Develops chain stamp outcome) calls calls') :
    t.Gains (fun row => outcome.success = false ∧ row.UndoneAt stamp) t' := by
  refine Tracer.gains_of_grows ?_
  rw [tracing.sections, tracing'.sections]
  refine List.rel_append (List.forall₂_same.2 fun s _ => .refl s) (.cons (.refl _) ?_)
  refine List.forall₂_map_left_iff.2 (List.forall₂_map_right_iff.2 (develops.imp ?_))
  exact fun _ _ develops => develops.grows

namespace Running

variable {tx : Transaction} {older : List Section} {launch : LaunchSection} {l : Level}
  {outer : List Level}

/-- **A call instruction adds a section** whose rows show effects, and changes no other. -/
theorem Called.sections_eq (running : Running m tx older launch l outer) (scripted : l.Scripted)
    {frame : Frame} {i : Invocation} {c : CallSection}
    (called : Called chain m tx older launch l outer frame i c m') :
    ∃ c' : CallSection, m'.tracer.sections.toList = m.tracer.sections.toList ++ [.call c'] ∧
      c'.OnlyShows := by
  obtain ⟨l', outer', c', running', -, calls, emerges⟩ := called.emerges scripted
  have sections := running'.tracing.sections
  rw [calls, List.map_append, ← List.cons_append, ← List.append_assoc, ← running.tracing.sections]
    at sections
  exact ⟨c', sections, emerges.onlyShows⟩

theorem Called.gains (running : Running m tx older launch l outer) (scripted : l.Scripted)
    {frame : Frame} {i : Invocation} {c : CallSection}
    (called : Called chain m tx older launch l outer frame i c m') :
    m.tracer.Gains (fun row => row.stamp.isUndoing = false) m'.tracer := by
  obtain ⟨c', sections, shows⟩ := called.sections_eq running scripted
  refine Tracer.gains_of_grows_append sections (List.forall₂_same.2 fun s _ => .refl s)
    fun s new => ?_
  obtain rfl := List.mem_singleton.1 new
  rw [Section.accountRows_call]
  exact shows

/-- **A context that has failed adds rows that undo effects**, at the present stamp, and one that
has succeeded adds none. -/
theorem Finished.gains (running : Running m tx older launch l outer) (scripted : l.Scripted)
    {outcome : ContextOutcome} (finished : Finished chain m tx older launch outcome l outer m') :
    m.tracer.Gains (fun row => outcome.success = false ∧ row.UndoneAt m'.tracer.stamp)
      m'.tracer := by
  have stamp : m'.tracer.stamp = m.tracer.stamp := by
    cases finished with
    | nested _ _ _ _ stamp => exact stamp
    | root _ _ stamp => exact stamp
  rw [stamp]
  cases outer with
  | nil =>
      cases finished with
      | root ended =>
          have tracing := running.tracing
          rw [running.callsOf_root] at tracing
          exact tracing.gains_of_develops ended.tracing
            (Level.develops_remainder running.stacked.sound.settled ..)
  | cons below outer =>
      obtain ⟨l', running', -, develops⟩ := finished.develops running scripted
      exact running.tracing.gains_of_develops running'.tracing develops

end Running

theorem Trace.accountRows_of_isEmpty {t : Trace} (empty : t.isEmpty = true) :
    t.accountRows = [] := by
  rw [accountRows, List.isEmpty_iff.1 empty]
  rfl

/-- **The start of a transaction adds a section**, but no row. -/
theorem Idle.Begun.gains {tx : Transaction} (begun : Idle.Begun chain m tx m') :
    m.tracer.Gains (fun _ => False) m'.tracer := by
  have added : ∀ s : Section, m'.tracer.sections.toList = m.tracer.sections.toList ++ [s] →
      s.accountRows = [] → m.tracer.Gains (fun _ => False) m'.tracer := by
    intro s sections none
    refine Tracer.gains_of_grows_append sections (List.forall₂_same.2 fun s _ => .refl s) ?_
    intro s' new row found
    rw [List.mem_singleton.1 new, none] at found
    cases found
  cases begun with
  | skipping _ skipping =>
      exact added _ skipping.sections (Trace.accountRows_of_isEmpty skipping.waits)
  | running _ _ running =>
      have blank := (LaunchSection.root_of_awaits running.tracing.launched).2
      exact added _ running.tracing.sections (Trace.accountRows_of_isEmpty blank)

namespace LaunchSection

variable {s : LaunchSection} {tx : Transaction} {row : AccountRow}

theorem isUndoing_of_mem_forwardRows (found : row ∈ s.forwardRows tx) :
    row.stamp.isUndoing = false := by
  simp only [forwardRows, List.mem_cons, List.not_mem_nil, or_false] at found
  rcases found with rfl | rfl | rfl
  · exact RowStamp.isUndoing_forward (by decide)
  · exact RowStamp.isUndoing_forward (by decide)
  · exact RowStamp.isUndoing_forward (by decide)

/-- **The rows that take a transfer back** undo it, at the stamp of the rollback. -/
theorem undoneAt_of_mem_undoingRows {incarnations : Incarnations} {revertStamp : Nat}
    (found : row ∈ s.undoingRows incarnations tx revertStamp) : row.UndoneAt revertStamp := by
  simp only [undoingRows, List.mem_cons, List.not_mem_nil, or_false] at found
  rcases found with rfl | rfl
  · exact ⟨RowStamp.isUndoing_undoing, RowStamp.moment_undoing⟩
  · exact ⟨RowStamp.isUndoing_undoing, RowStamp.moment_undoing⟩

/-- **The end of a transaction adds rows** to its first section, which undo its transfer if its
root context has failed. -/
theorem grows_finished (waits : s.awaits = [.transactionEnd]) (tx : Transaction)
    (outcome : TransactionOutcome) (incarnations : Incarnations) {revertStamp stamp : Nat}
    (stamped : outcome.success = false → revertStamp = stamp) :
    (Section.launch s).Grows
      (fun row => row.AddedAt stamp ∧ (row.stamp.isUndoing = true → outcome.success = false))
      (.launch (s.finished tx outcome incarnations revertStamp)) := by
  refine ⟨⟨_, accountRows_finished .., fun row found => ?_⟩, fun silent => ?_⟩
  · rcases List.mem_append.1 found with shown | undone
    · have shows := isUndoing_of_mem_forwardRows shown
      exact ⟨AccountRow.addedAt_of_shows shows, fun undoes => by rw [shows] at undoes; cases undoes⟩
    · split at undone
      · cases undone
      · rename_i unsuccessful
        have failure := Bool.eq_false_iff.2 unsuccessful
        obtain rfl := stamped failure
        exact ⟨fun _ => (undoneAt_of_mem_undoingRows undone).2, fun _ => failure⟩
  · have silent : s.awaits = [] := silent
    rw [waits] at silent
    cases silent

end LaunchSection

/-- The last rows of a call are about no account. -/
theorem CallSection.grows_shut (c : CallSection) : (Section.call c).Grows Q (.call c.shut) where
  rows := ⟨[], by simp [accountRows_shut], nofun⟩
  silent silent := by
    have silent : c.awaits = [] := silent
    rw [shut, heed, silent, if_neg List.not_mem_nil]

theorem Ended.Closed.gains {tx : Transaction} {older : List Section} {launch : LaunchSection}
    {calls : List CallSection} {outcome : ContextOutcome} {gasUsed : UInt64} {revertStamp : Nat}
    (ended : Ended m tx older launch calls outcome)
    (closed : Ended.Closed m tx older launch calls outcome gasUsed revertStamp m') :
    m.tracer.Gains (fun row => row.AddedAt m'.tracer.stamp ∧
      (row.stamp.isUndoing = true → outcome.success = false)) m'.tracer := by
  refine Tracer.gains_of_grows ?_
  rw [ended.tracing.sections, closed.sections, closed.stamp]
  refine List.rel_append (List.forall₂_same.2 fun s _ => .refl s) (.cons ?_ ?_)
  · exact LaunchSection.grows_finished ended.tracing.launched tx
      { success := outcome.success, gasUsed } m.tracer.incarnations closed.stamped
  · rw [List.map_map]
    refine List.forall₂_map_left_iff.2 (List.forall₂_map_right_iff.2 ?_)
    exact List.forall₂_same.2 fun c _ => c.grows_shut

/-- **The settlement of a transaction that ran no code** adds rows that show effects. -/
theorem Skipping.gains {tx : Transaction} {older : List Section}
    {settlement : SettlementSection} {gasUsed : UInt64} (skipping : Skipping m tx older settlement)
    (closed : Skipping.Closed chain m tx older settlement gasUsed m') (seated : m'.tracer.Seated) :
    m.tracer.Gains (fun row => row.stamp.isUndoing = false) m'.tracer := by
  obtain ⟨_, settlement', -, -, -, sections⟩ := closed.settled
  have found : m'.tracer.sections[older.length]? = some (.settlement settlement') := by
    rw [← Array.getElem?_toList, sections]
    exact List.getElem?_concat_length ..
  have shows : settlement'.Seated _ := seated.seated _ _ found
  refine Tracer.gains_of_grows ?_
  rw [skipping.sections, sections]
  refine List.rel_append (List.forall₂_same.2 fun s _ => .refl s) (.cons ⟨?_, ?_⟩ .nil)
  · have blank : (Section.settlement settlement).accountRows = [] :=
      Trace.accountRows_of_isEmpty skipping.waits
    refine ⟨settlement'.trace.accountRows, ?_, shows.shows⟩
    rw [blank]
    rfl
  · intro silent
    have silent : settlement.awaits = [] := silent
    rw [SettlementSection.awaits, if_pos skipping.waits] at silent
    cases silent

/-- **Every row that a step of a run adds** shows an effect, or undoes one at the stamp that the
step leaves behind. -/
theorem Reachable.gains {a : Action} (reachable : Reachable chain m) (allowed : m.Allows a)
    (succeeds : a.carryOut chain m = .ok () m') :
    m.tracer.Gains (AccountRow.AddedAt m'.tracer.stamp) m'.tracer := by
  cases reachable.taken allowed succeeds with
  | starts _ _ begun => exact begun.gains.mono fun _ => False.elim
  | settles skipping _ closed =>
      have seated := (Action.onward reachable.seated succeeds).seated
      exact (skipping.gains closed seated).mono fun _ => AccountRow.addedAt_of_shows
  | calls running scripted _ called =>
      exact (called.gains running scripted).mono fun _ => AccountRow.addedAt_of_shows
  | finishes running scripted _ finished =>
      exact (finished.gains running scripted).mono fun _ undone _ => undone.2.2
  | ends ended _ closed => exact (closed.gains ended).mono fun _ added => added.1

/-! ## Whole runs -/

/-- Rows that have been added stay where they are for the rest of the run. -/
theorem Later.gains (later : Later chain m m') (reachable : Reachable chain m) :
    m.tracer.Gains (fun _ => True) m'.tracer := by
  induction later with
  | refl => exact .refl _
  | step first allowed succeeds ih =>
      refine ih.trans ?_
      exact ((reachable.later first).gains allowed succeeds).mono fun _ _ => trivial

/-- **The stamp that a row counts for** is not before that of its section, nor is it still to
come. -/
theorem Reachable.dated (reachable : Reachable chain m) {n : Nat} {s : Section} {row : AccountRow}
    (found : m.tracer.sections[n]? = some s) (listed : row ∈ s.accountRows) :
    s.stamp ≤ row.stamp.moment ∧ row.stamp.moment ≤ m.tracer.stamp := by
  induction reachable generalizing s with
  | initial accounts outcomes =>
      rw [Machine.tracer_initial] at found
      cases found
  | @step m m' a before allowed succeeds ih =>
      have onward := Action.onward before.seated succeeds
      have early := onward.seated.stamp_le found
      obtain ⟨offset, small, placed⟩ := onward.seated.placed found listed
      cases kind : row.stamp.isUndoing with
      | false =>
          have shown := placed.moment_eq small kind
          omega
      | true =>
          have there : row ∈ m'.tracer.rowsAt n := Tracer.mem_rowsAt.2 ⟨s, found, listed⟩
          have gains := before.gains allowed succeeds
          rcases gains.mem_rowsAt there with old | new
          · obtain ⟨s₀, found₀, listed₀⟩ := Tracer.mem_rowsAt.1 old
            have same := onward.stamp_eq found₀ found
            have later := onward.stamp
            have dated := ih found₀ listed₀
            omega
          · have now := gains.of_mem_added new kind
            omega

end ExecutionTrace
