import ExecutionTrace.Proofs.History.Order
import ExecutionTrace.Proofs.Tracer.Keeping

/-!
# Rows under any driver

What a driver has traced may make no sense, if it announces what it likes.  But every account row
still has a place of its own in the history of its account.

## Main Definitions

* `Tracer.Seated` — stamps ascend, nobody waits twice for an event, and all sections are seated
* `Tracer.Onward` — a tracer further on, in which sections have kept their stamps
* `Tracer.drive_rows_placed` — no two account rows have the same place
-/

namespace ExecutionTrace

/-- A section that has just been added is seated, whatever it waits for. -/
theorem Section.Created.seated {stamp : Nat} {s : Section} {awaited : List Event}
    (created : s.Created stamp awaited) (waits : Event → Prop) : s.Seated waits := by
  cases created with
  | launch trace =>
      change Trace.Seated _ _
      rw [trace]
      exact Trace.start_seated stamp 0 _
  | settlement trace =>
      refine ⟨trace ▸ Trace.start_seated stamp 0 _, fun row found => ?_⟩
      rw [trace] at found
      cases found
  | call _ announced => exact announced.seated _

namespace Tracer

/-- The account rows of a trace, in the order in which they stand there. -/
def accountRows (t : Tracer) : List AccountRow :=
  t.rows.filterMap Row.account?

/-- The stamps of all sections. -/
def stamps (t : Tracer) : List Nat :=
  t.sections.toList.map Section.stamp

/-! ## The invariant -/

/-- **A tracer whose sections are all seated**, and one after the other. -/
structure Seated (t : Tracer) : Prop where
  ascending : t.stamps.Pairwise (· < ·)
  bounded : ∀ stamp ∈ t.stamps, stamp ≤ t.stamp
  /-- Nobody waits for an event who is not there. -/
  inside : ∀ e, ∀ id ∈ t.agenda.waiting e, id < t.sections.size
  /-- Nobody waits twice for an event. -/
  nodup : ∀ e, (t.agenda.waiting e).Nodup
  seated : ∀ (id : Nat) (s : Section), t.sections[id]? = some s →
    s.Seated fun e => id ∈ t.agenda.waiting e

theorem seated_empty : Seated {} where
  ascending := .nil
  bounded _ h := absurd h List.not_mem_nil
  inside e id h := by simp at h
  nodup e := by simp
  seated id s h := absurd h (by simp [Array.empty])

/-- **A tracer further on.** Its sections are seated, those that were there have kept their stamps,
and others have got stamps of their own. -/
structure Onward (start t : Tracer) : Prop where
  seated : t.Seated
  stamp : start.stamp ≤ t.stamp
  added : ∃ new, t.stamps = start.stamps ++ new ∧ ∀ stamp ∈ new, start.stamp < stamp

theorem Seated.onward {t : Tracer} (seated : t.Seated) : t.Onward t where
  seated := seated
  stamp := Nat.le_refl _
  added := ⟨[], (List.append_nil _).symm, nofun⟩

variable {start t t' : Tracer} {n : Nat} {s s' : Section} {row : AccountRow}

theorem getElem?_stamps (found : t.sections[n]? = some s) : t.stamps[n]? = some s.stamp := by
  rw [stamps, List.getElem?_map, Array.getElem?_toList, found]
  rfl

/-- No section has a stamp that is still to come. -/
theorem Seated.stamp_le (seated : t.Seated) (found : t.sections[n]? = some s) :
    s.stamp ≤ t.stamp :=
  seated.bounded _ (List.mem_of_getElem? (getElem?_stamps found))

/-- A later section has a larger stamp. -/
theorem Seated.stamp_lt {k : Nat} (seated : t.Seated) (order : n < k)
    (found : t.sections[n]? = some s) (found' : t.sections[k]? = some s') : s.stamp < s'.stamp := by
  obtain ⟨inside, same⟩ := List.getElem?_eq_some_iff.1 (getElem?_stamps found)
  obtain ⟨inside', same'⟩ := List.getElem?_eq_some_iff.1 (getElem?_stamps found')
  rw [← same, ← same']
  exact List.pairwise_iff_getElem.1 seated.ascending n k inside inside' order

/-- The rows of a section have been given offsets by it. -/
theorem Seated.placed (seated : t.Seated) (found : t.sections[n]? = some s)
    (listed : row ∈ s.accountRows) : ∃ offset < 7, row.stamp.Placed s.stamp offset := by
  obtain ⟨offset, -, small, placed⟩ := (seated.seated n s found).rows.placed row listed
  exact ⟨offset, small, placed⟩

namespace Onward

/-- A section keeps its stamp. -/
theorem stamp_eq (onward : start.Onward t) (found : start.sections[n]? = some s)
    (found' : t.sections[n]? = some s') : s'.stamp = s.stamp := by
  obtain ⟨new, kept, -⟩ := onward.added
  have before := getElem?_stamps found
  have after := getElem?_stamps found'
  rw [kept, List.getElem?_append_left (List.getElem?_eq_some_iff.1 before).1, before] at after
  exact (Option.some.inj after).symm

/-- A section that has been added has a stamp that was still to come. -/
theorem stamp_lt (onward : start.Onward t) (late : start.sections.size ≤ n)
    (found : t.sections[n]? = some s) : start.stamp < s.stamp := by
  obtain ⟨new, kept, later⟩ := onward.added
  have after := getElem?_stamps found
  have outside : start.stamps.length ≤ n := by simpa [stamps] using late
  rw [kept, List.getElem?_append_right outside] at after
  exact later _ (List.mem_of_getElem? after)

theorem trans (onward : start.Onward t) (onward' : t.Onward t') : start.Onward t' where
  seated := onward'.seated
  stamp := onward.stamp.trans onward'.stamp
  added := by
    obtain ⟨new, kept, later⟩ := onward.added
    obtain ⟨new', kept', later'⟩ := onward'.added
    refine ⟨new ++ new', by rw [kept', kept, List.append_assoc], fun n h => ?_⟩
    rcases List.mem_append.1 h with h | h
    · exact later n h
    · exact onward.stamp.trans_lt (later' n h)

/-- A change that concerns no section, after which nobody waits who did not wait before. -/
theorem relax (onward : start.Onward t)
    (waiting : ∀ e, (t'.agenda.waiting e).Sublist (t.agenda.waiting e))
    (sections : t'.sections = t.sections) (stamp : t.stamp ≤ t'.stamp) : start.Onward t' where
  seated := by
    constructor
    · rw [stamps, sections]
      exact onward.seated.ascending
    · rw [stamps, sections]
      exact fun n h => (onward.seated.bounded n h).trans stamp
    · rw [sections]
      exact fun e id h => onward.seated.inside e id ((waiting e).subset h)
    · exact fun e => (onward.seated.nodup e).sublist (waiting e)
    · rw [sections]
      refine fun id s found => (onward.seated.seated id s found).mono fun e h => ?_
      exact (waiting e).subset h
  stamp := onward.stamp.trans stamp
  added := by
    rw [stamps, sections]
    exact onward.added

end Onward

/-! ## What announcements do to seated sections -/

/-- **Sections stay seated** whatever reaches them, and keep their stamps. -/
theorem seated_regime (chain : Chain) :
    Regime chain (fun _ => True) (fun s waits => s.Seated waits)
      fun s s' => s'.stamp = s.stamp where
  fewer := fun seated fewer => Section.Seated.mono seated fewer
  refl _ := rfl
  reacts _ setting _ _ seated awaited := Section.react_leaves seated chain setting awaited

/-- The stamps are what they were if every section has kept its own. -/
theorem stamps_eq (size : t'.sections.size = t.sections.size)
    (each : ∀ (id : Nat) (s : Section), t.sections[id]? = some s →
      ∃ s', t'.sections[id]? = some s' ∧ s'.stamp = s.stamp) : t'.stamps = t.stamps := by
  refine List.ext_getElem? fun id => ?_
  cases found : t.sections[id]? with
  | some s =>
      obtain ⟨s', there, same⟩ := each id s found
      rw [getElem?_stamps found, getElem?_stamps there, same]
  | none =>
      have outside : t.sections.size ≤ id := Array.getElem?_eq_none_iff.1 found
      have missing : ∀ {t : Tracer}, t.sections.size ≤ id → t.stamps[id]? = none := fun h =>
        List.getElem?_eq_none (by simpa [stamps] using h)
      rw [missing outside, missing (size ▸ outside)]

/-- **An occurrence that has been handed to the sections** has unseated none of them. -/
theorem Onward.fired (onward : start.Onward t) {event : Event}
    (fired : Fired (fun s waits => s.Seated waits) (fun s s' => s'.stamp = s.stamp) event t t') :
    start.Onward t' := by
  have seated := onward.seated
  have same : t'.stamps = t.stamps := stamps_eq fired.size fun id s found => by
    obtain ⟨s', there, same, -⟩ := fired.each id s found
    exact ⟨s', there, same⟩
  have stamp : t'.stamp = t.stamp := congrArg Setting.stamp fired.setting
  refine ⟨⟨?_, ?_, ?_, ?_, ?_⟩, stamp ▸ onward.stamp, same ▸ onward.added⟩
  · rw [same]
    exact seated.ascending
  · rw [same, stamp]
    exact seated.bounded
  · intro e id h
    rw [fired.size]
    exact seated.inside e id (fired.waited h)
  · intro e
    rw [fired.agenda, Agenda.waiting_take]
    split
    · exact .nil
    · exact seated.nodup e
  · intro id s' found
    have inside : id < t.sections.size := fired.size ▸ (Array.getElem?_eq_some_iff.1 found).1
    obtain ⟨s'', there, -, seated', -⟩ := fired.each id _ (Array.getElem?_eq_getElem inside)
    obtain rfl := Option.some.inj (there.symm.trans found)
    exact seated'

/-- **Handing an occurrence to the sections** leaves them seated, whoever fails. -/
theorem Seated.fire_leaves (seated : t.Seated) (chain : Chain) (occurrence : Occurrence) :
    Leaves (fire chain occurrence t)
      (Fired (fun s waits => s.Seated waits) (fun s s' => s'.stamp = s.stamp) occurrence.event t) :=
  (seated_regime chain).fire_leaves trivial (seated.nodup _) seated.seated

/-- **A section that is added at a new stamp** waits for each of its events once. -/
theorem Onward.add {awaited : List Event} (onward : start.Onward t)
    (agenda : t'.agenda = t.agenda) (sections : t'.sections = t.sections)
    (stamp : t.stamp < t'.stamp) (created : s.Created t'.stamp awaited) :
    start.Onward { t' with
      sections := t'.sections.push s
      agenda := t'.agenda.scheduleAll awaited t'.sections.size } := by
  have seated := onward.seated
  -- The new section waits for `awaited`, and the others wait for what they did.
  have waiting : ∀ e, (t'.agenda.scheduleAll awaited t'.sections.size).waiting e =
      t.agenda.waiting e ++ if e ∈ awaited then [t.sections.size] else [] := by
    intro e
    rw [Agenda.waiting_scheduleAll created.nodup, agenda, sections]
  have pushed : (t'.sections.push s).toList.map Section.stamp = t.stamps ++ [t'.stamp] := by
    simp [stamps, created.stamp_eq, sections]
  have earlier : ∀ n ∈ t.stamps, n < t'.stamp := fun n h => (seated.bounded n h).trans_lt stamp
  refine ⟨⟨?_, ?_, ?_, ?_, ?_⟩, onward.stamp.trans stamp.le, ?_⟩
  · rw [stamps, pushed]
    refine List.pairwise_append.2 ⟨seated.ascending, List.pairwise_singleton .., ?_⟩
    intro n hn m hm
    rw [List.mem_singleton.1 hm]
    exact earlier n hn
  · rw [stamps, pushed]
    intro n hn
    rcases List.mem_append.1 hn with old | new
    · exact (earlier n old).le
    · exact (List.mem_singleton.1 new).le
  · intro e id h
    rw [waiting] at h
    rw [Array.size_push, sections]
    rcases List.mem_append.1 h with old | new
    · exact (seated.inside e id old).trans (Nat.lt_succ_self _)
    · split at new
      · rw [List.mem_singleton.1 new]
        exact Nat.lt_succ_self _
      · cases new
  · intro e
    rw [waiting]
    split
    · refine List.nodup_append.2 ⟨seated.nodup e, List.nodup_singleton _, ?_⟩
      intro id old other new same
      rw [same, List.mem_singleton.1 new] at old
      exact absurd (seated.inside e _ old) (Nat.lt_irrefl _)
    · rw [List.append_nil]
      exact seated.nodup e
  · intro id s' found
    rw [Array.getElem?_push, sections] at found
    split at found
    · obtain rfl := Option.some.inj found
      exact created.seated _
    · rename_i old
      refine (seated.seated id s' found).mono fun e h => ?_
      rw [waiting] at h
      rcases List.mem_append.1 h with waits | new
      · exact waits
      · split at new
        · exact absurd (List.mem_singleton.1 new) old
        · cases new
  · obtain ⟨new, kept, later⟩ := onward.added
    refine ⟨new ++ [t'.stamp], ?_, fun n h => ?_⟩
    · rw [stamps, pushed, kept, List.append_assoc]
    · rcases List.mem_append.1 h with h | h
      · exact later n h
      · rw [List.mem_singleton.1 h]
        exact onward.stamp.trans_lt stamp

/-- **No announcement unseats a section**, and the stamps of new ones are new. -/
theorem onward_keeps (chain : Chain) (raised : Occurrence → Prop) (start : Tracer) :
    Keeps chain raised start.Onward where
  inside onward := onward.seated.inside
  fire onward _ := (onward.seated.fire_leaves chain _).mono fun _ => onward.fired
  relax := Onward.relax
  add _ := Onward.add

/-! ## Drivers -/

/-- **No operation unseats a section**, be it accepted or refused. -/
theorem Seated.after (seated : t.Seated) (chain : Chain) (operation : Operation) :
    (t.after chain operation).Seated := by
  by_cases forgets : operation = .startConflation
  · subst forgets
    exact seated_empty
  · exact ((onward_keeps chain operation.Raises t).after forgets seated.onward).seated

theorem seated_drive (chain : Chain) (operations : List Operation) :
    (drive chain operations).Seated :=
  drive_of_after seated_empty (fun _ operation seated => seated.after chain operation) operations

/-! ## Places -/

theorem accountRows_eq (t : Tracer) :
    t.accountRows = t.sections.toList.flatMap Section.accountRows := by
  rw [accountRows, rows, List.filterMap_flatMap]
  rfl

/-- **No two account rows of seated sections have the same place.** -/
theorem Seated.pairwise_key_ne (seated : t.Seated) :
    t.accountRows.Pairwise fun r s => r.stamp.key ≠ s.stamp.key := by
  have each : ∀ s ∈ t.sections.toList, ExecutionTrace.Seated s.stamp 0 7 s.accountRows := by
    intro s found
    obtain ⟨id, found⟩ := List.getElem?_of_mem found
    exact (seated.seated id s (by simpa using found)).rows
  rw [accountRows_eq, List.pairwise_flatMap]
  constructor
  · exact fun s found => (each s found).pairwise_key_ne (Nat.le_refl _)
  · refine (List.pairwise_map.1 seated.ascending).imp_of_mem ?_
    intro s s' found found' before r hr r' hr' same
    obtain ⟨offset, -, small, placed⟩ := (each s found).placed r hr
    obtain ⟨offset', -, small', placed'⟩ := (each s' found').placed r' hr'
    exact absurd (placed.eq_of_key_eq placed' small small' same).1 before.ne

/-- **Every account row has its own place in history.** Whatever a driver announces, and whether it
is accepted or refused, stamps of sections ascend up to the present one, no two account rows have
the same stamp or the same ordering key, and so the history of an account does not depend on the
order in which its rows were appended. -/
theorem drive_rows_placed (chain : Chain) (operations : List Operation) :
    let t := drive chain operations
    (t.sections.toList.map Section.stamp).Pairwise (· < ·) ∧
      (∀ s ∈ t.sections, s.stamp ≤ t.stamp) ∧
      (t.accountRows.map (·.stamp)).Nodup ∧
      (t.accountRows.map (·.stamp.key)).Nodup ∧
      ∀ rows : List Row, rows.Perm t.rows → ∀ a,
        (History.ofRows rows a).map Prod.fst = (History.ofRows t.rows a).map Prod.fst := by
  intro t
  have seated : t.Seated := seated_drive chain operations
  have keys := seated.pairwise_key_ne
  refine ⟨seated.ascending, fun s found => ?_, ?_, ?_, fun rows perm a => ?_⟩
  · refine seated.bounded _ (List.mem_map_of_mem ?_)
    exact Array.mem_toList_iff.2 found
  · exact List.pairwise_map.2 (keys.imp fun ne same => ne (congrArg RowStamp.key same))
  · exact List.pairwise_map.2 keys
  · exact History.rows_ofRows_perm keys perm a

end Tracer

end ExecutionTrace
