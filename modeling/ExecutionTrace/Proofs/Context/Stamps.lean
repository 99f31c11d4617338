import ExecutionTrace.Proofs.Context.Subtree

/-!
# What stamps tell

A rollback stamps a context that has ended and everything below it, and the first stamp of a frame
counts.  So the stamp of a frame tells when it, or a context above it, was rolled back for the first
time.

## Main Definitions

* `ContextTree.Reversal` — a rollback: of which context, and when
* `ContextTree.firstStamp?` — the first rollback that concerns a context
* `ContextTree.Stamped` — a tree whose stamps tell just that
* `ContextTree.Stamped.inherited` — stamps are passed on downwards, and never get later
* `ContextTree.Stamped.ended_of_reverted` — only contexts that have ended carry one

## Design Notes

Rollbacks may hit a context before one above it or after it, at the same stamp or not, and again and
again.  What keeps stamps in order is that contexts are only entered below active ones, while those
that are rolled back have ended: nothing that is entered later is concerned by an earlier rollback.
-/

namespace ExecutionTrace.ContextTree

/-- **A rollback**: the context that was rolled back, and the stamp of the time. -/
structure Reversal where
  context : Nat
  stamp : Nat
  deriving DecidableEq

variable {t u : ContextTree} {log : List Reversal} {now id c : Nat} {f : Frame}

/-! ## The first rollback -/

open Classical in
/-- **The stamp of the first rollback in a log that concerns a context**: of the context itself or
of one above it. -/
noncomputable def firstStamp? (t : ContextTree) (log : List Reversal) (id : Nat) : Option Nat :=
  (log.find? fun reversal => t.Within reversal.context id).map (·.stamp)

/-- The first rollback is one of the log, and those before it do not concern the context. -/
theorem firstStamp?_eq_some_iff {stamp : Nat} : t.firstStamp? log id = some stamp ↔
    ∃ before context after, log = before ++ ⟨context, stamp⟩ :: after ∧ t.Within context id ∧
      ∀ reversal ∈ before, ¬t.Within reversal.context id := by
  unfold firstStamp?
  rw [Option.map_eq_some_iff]
  constructor
  · rintro ⟨⟨context, stamp⟩, first, rfl⟩
    obtain ⟨within, before, after, same, unconcerned⟩ := List.find?_eq_some_iff_append.1 first
    exact ⟨before, context, after, same, by simpa using within, by simpa using unconcerned⟩
  · rintro ⟨before, context, after, same, within, unconcerned⟩
    refine ⟨⟨context, stamp⟩, List.find?_eq_some_iff_append.2 ⟨?_, before, after, same, ?_⟩, rfl⟩
    · simpa using within
    · simpa using unconcerned

/-- A further rollback only matters if none has concerned the context before. -/
theorem firstStamp?_concat (t : ContextTree) (log : List Reversal) (reversal : Reversal) (id : Nat)
    [Decidable (t.Within reversal.context id)] : t.firstStamp? (log ++ [reversal]) id =
      (t.firstStamp? log id).or
        (if t.Within reversal.context id then some reversal.stamp else none) := by
  unfold firstStamp?
  rw [List.find?_append, Option.map_or]
  by_cases within : t.Within reversal.context id <;> simp [within]

/-- Trees in which the same contexts are above a context know of the same first rollback. -/
theorem firstStamp?_congr (same : ∀ c, u.Within c id ↔ t.Within c id) :
    u.firstStamp? log id = t.firstStamp? log id := by
  unfold firstStamp?
  refine congrArg (fun concerns => (log.find? concerns).map (·.stamp)) (funext fun reversal => ?_)
  exact decide_eq_decide.2 (same reversal.context)

/-- What concerns a context concerns everything below it, where something else may have come
first. -/
theorem firstStamp?_le {stamp d : Nat} (ascending : log.Pairwise (·.stamp ≤ ·.stamp))
    (within : t.Within id d) (first : t.firstStamp? log id = some stamp) :
    ∃ stamp' ≤ stamp, t.firstStamp? log d = some stamp' := by
  obtain ⟨before, context, after, rfl, above, -⟩ := firstStamp?_eq_some_iff.1 first
  classical
  rw [List.append_cons] at ascending ⊢
  have upTo : ∀ reversal ∈ before ++ [⟨context, stamp⟩], reversal.stamp ≤ stamp := by
    intro reversal listed
    rcases List.mem_append.1 listed with earlier | last
    · obtain ⟨ascending, -, -⟩ := List.pairwise_append.1 ascending
      exact (List.pairwise_append.1 ascending).2.2 reversal earlier _ (List.mem_singleton_self _)
    · rw [List.mem_singleton.1 last]
  have there : ∃ reversal ∈ before ++ [⟨context, stamp⟩], t.Within reversal.context d :=
    ⟨⟨context, stamp⟩, by simp, above.trans within⟩
  obtain ⟨first', found⟩ := Option.isSome_iff_exists.1
    (List.find?_isSome.2 (by simpa using there) : (List.find?
      (fun reversal => decide (t.Within reversal.context d))
      (before ++ [⟨context, stamp⟩])).isSome = true)
  refine ⟨first'.stamp, upTo first' (List.mem_of_find?_eq_some found), ?_⟩
  unfold firstStamp?
  rw [List.find?_append, found]
  rfl

/-! ## Contexts that have ended -/

/-- **Below a context that has ended**, all contexts have. -/
theorem Grown.ended_of_within {g : Frame} (grown : t.Grown) (within : t.Within c id)
    (found : t.frame? c = some g) (ended : g.outcome?.isSome = true)
    (there : t.frame? id = some f) : f.outcome?.isSome = true := by
  by_contra running
  have active := (grown.open_iff there).1 (Option.not_isSome_iff_eq_none.1 running)
  rw [(grown.open_iff found).2 (within.active active)] at ended
  cases ended

/-- A context that has ended is not the current one. -/
theorem Grown.not_current (grown : t.Grown) (found : t.frame? id = some f)
    (ended : f.outcome?.isSome = true) : t.current? ≠ some id := by
  intro current
  rw [(grown.open_iff found).2 (.current current)] at ended
  cases ended

/-- The frame of a context that has ended gets no further children. -/
theorem Grown.frame_enter (grown : t.Grown) (found : t.frame? id = some f)
    (ended : f.outcome?.isSome = true) (entry : ContextEntry) :
    (t.enter entry).frame? id = some f := by
  rw [frame?_enter, if_neg (Nat.ne_of_lt (lt_nextId found)),
    if_neg (grown.not_current found ended), found]

/-- A context that has ended does not end again. -/
theorem Grown.frame_left {g : Frame} (grown : t.Grown) (found : t.frame? id = some f)
    (ended : f.outcome?.isSome = true) (current : t.current? = some g.id)
    (outcome : ContextOutcome) : (t.left g outcome).frame? id = some f := by
  have other : g.id ≠ id := by
    rintro rfl
    exact grown.not_current found ended current
  rw [frame?_left, if_neg other, found]

/-- A context keeps its stamp when it is rolled back again. -/
theorem Reverts.frame_of_reverted {stamp : Nat} (reverts : t.Reverts u c stamp)
    (found : t.frame? id = some f) (reverted : f.revertStamp?.isSome = true) :
    u.frame? id = some f := by
  obtain ⟨first, stamped⟩ := Option.isSome_iff_exists.1 reverted
  have kept : f.stampReverted stamp = f := by
    rw [Frame.stampReverted, stamped, Option.getD_some, ← stamped]
  by_cases within : t.Within c id
  · rw [reverts.within within, found, Option.map_some, kept]
  · rw [reverts.outside within, found]

/-! ## The invariant -/

/-- **A tree whose stamps tell the first rollbacks.** The log lists all rollbacks so far, in order,
and `now` is the present stamp. -/
structure Stamped (t : ContextTree) (log : List Reversal) (now : Nat) : Prop where
  grown : t.Grown
  /-- Only contexts that have ended are rolled back. -/
  ended : ∀ reversal ∈ log, ∃ f, t.frame? reversal.context = some f ∧ f.outcome?.isSome = true
  past : ∀ reversal ∈ log, reversal.stamp ≤ now
  ascending : log.Pairwise (·.stamp ≤ ·.stamp)
  stamp_eq : ∀ {id f}, t.frame? id = some f → f.revertStamp? = t.firstStamp? log id

theorem stamped_empty (now : Nat) : ({} : ContextTree).Stamped [] now where
  grown := grown_empty
  ended := nofun
  past := nofun
  ascending := .nil
  stamp_eq found := by
    rw [frame?_empty] at found
    cases found

namespace Stamped

theorem later {later : Nat} (stamped : t.Stamped log now) (le : now ≤ later) :
    t.Stamped log later where
  grown := stamped.grown
  ended := stamped.ended
  past reversal listed := (stamped.past reversal listed).trans le
  ascending := stamped.ascending
  stamp_eq := stamped.stamp_eq

/-- **A context that is entered** is not concerned by any rollback so far. -/
theorem enter (stamped : t.Stamped log now) (entry : ContextEntry) :
    (t.enter entry).Stamped log now := by
  have grown := stamped.grown.enter entry
  have ended : ∀ reversal ∈ log, ∃ f, (t.enter entry).frame? reversal.context = some f ∧
      f.outcome?.isSome = true := by
    intro reversal listed
    obtain ⟨f, found, ended⟩ := stamped.ended reversal listed
    exact ⟨f, stamped.grown.frame_enter found ended entry, ended⟩
  refine ⟨grown, ended, stamped.past, stamped.ascending, fun {id f} found => ?_⟩
  by_cases new : id = t.nextId
  · subst new
    have found' := found
    rw [frame?_enter, if_pos rfl] at found'
    obtain rfl := Option.some.inj found'
    cases first : (t.enter entry).firstStamp? log t.nextId with
    | none => rfl
    | some stamp =>
        obtain ⟨before, context, after, rfl, within, -⟩ := firstStamp?_eq_some_iff.1 first
        obtain ⟨g, there, exited⟩ := ended ⟨context, stamp⟩ (by simp)
        cases grown.ended_of_within within there exited found
  · rw [firstStamp?_congr fun c => within_enter entry new stamped.grown.wellFormed]
    rw [frame?_enter, if_neg new] at found
    split at found
    · obtain ⟨g, before, rfl⟩ := Option.map_eq_some_iff.1 found
      have told := stamped.stamp_eq before
      exact told
    · exact stamped.stamp_eq found

/-- **A context that ends** has no part in rollbacks yet. -/
theorem left (stamped : t.Stamped log now) (current : t.current? = some f.id)
    (found : t.frame? f.id = some f) (outcome : ContextOutcome) :
    (t.left f outcome).Stamped log now where
  grown := stamped.grown.left current found outcome
  ended reversal listed := by
    obtain ⟨g, there, ended⟩ := stamped.ended reversal listed
    exact ⟨g, stamped.grown.frame_left there ended current outcome, ended⟩
  past := stamped.past
  ascending := stamped.ascending
  stamp_eq {id g} there := by
    rw [firstStamp?_congr fun c => (sameShape_left t f outcome).within_iff]
    rw [frame?_left] at there
    split at there
    · obtain ⟨k, before, rfl⟩ := Option.map_eq_some_iff.1 there
      have told := stamped.stamp_eq before
      exact told
    · exact stamped.stamp_eq there

/-- **A rollback** stamps whatever it is the first one to concern. -/
theorem reverts (stamped : t.Stamped log now) (reverts : t.Reverts u c now)
    (found : t.frame? c = some f) (exited : f.outcome?.isSome = true) :
    u.Stamped (log ++ [⟨c, now⟩]) now where
  grown := reverts.grown stamped.grown
  ended reversal listed := by
    have before : ∃ f, t.frame? reversal.context = some f ∧ f.outcome?.isSome = true := by
      rcases List.mem_append.1 listed with earlier | last
      · exact stamped.ended reversal earlier
      · rw [List.mem_singleton.1 last]
        exact ⟨f, found, exited⟩
    obtain ⟨g, there, ended⟩ := before
    obtain ⟨g', there', same⟩ := reverts.exists_frame there
    exact ⟨g', there', same ▸ ended⟩
  past reversal listed := by
    rcases List.mem_append.1 listed with earlier | last
    · exact stamped.past reversal earlier
    · rw [List.mem_singleton.1 last]
  ascending := by
    refine List.pairwise_append.2 ⟨stamped.ascending, List.pairwise_singleton .., ?_⟩
    intro reversal earlier last listed
    rw [List.mem_singleton.1 listed]
    exact stamped.past reversal earlier
  stamp_eq {id g} there := by
    classical
    rw [firstStamp?_concat, firstStamp?_congr fun c => reverts.shape.within_iff,
      reverts.shape.within_iff]
    obtain ⟨g', there', ⟨within, rfl⟩ | ⟨outside, rfl⟩⟩ := reverts.frame_cases there
    · rw [if_pos within, Option.or_some, ← stamped.stamp_eq there']
      rfl
    · rw [if_neg outside, Option.or_none, ← stamped.stamp_eq there']

/-! ### What follows -/

/-- **Stamps are passed on downwards**, where they never get later. -/
theorem inherited {stamp d : Nat} (stamped : t.Stamped log now) (found : t.frame? id = some f)
    (reverted : f.revertStamp? = some stamp) (within : t.Within id d) :
    ∃ g stamp', t.frame? d = some g ∧ g.revertStamp? = some stamp' ∧ stamp' ≤ stamp := by
  obtain ⟨g, there⟩ := within.known found
  rw [stamped.stamp_eq found] at reverted
  obtain ⟨stamp', le, first⟩ := firstStamp?_le stamped.ascending within reverted
  exact ⟨g, stamp', there, (stamped.stamp_eq there).trans first, le⟩

/-- **Only contexts that have ended** have been rolled back. -/
theorem ended_of_reverted (stamped : t.Stamped log now) (found : t.frame? id = some f)
    (reverted : f.revertStamp?.isSome = true) : f.outcome?.isSome = true := by
  obtain ⟨stamp, first⟩ := Option.isSome_iff_exists.1 reverted
  rw [stamped.stamp_eq found] at first
  obtain ⟨before, context, after, rfl, within, -⟩ := firstStamp?_eq_some_iff.1 first
  obtain ⟨g, there, ended⟩ := stamped.ended ⟨context, stamp⟩ (by simp)
  exact stamped.grown.ended_of_within within there ended found

end Stamped

/-! ## Rolling back again -/

/-- Trees with the same frames and the same current context are the same. -/
theorem ext_frames (frames : ∀ id, u.frame? id = t.frame? id) (current : u.current? = t.current?) :
    u = t := by
  have same : u.frames = t.frames := Array.ext_getElem? fun i => frames (i + 1)
  cases t
  cases u
  obtain rfl := same
  obtain rfl := current
  rfl

/-- **A tree in which a context has been rolled back** stays as it is when that is done again. -/
theorem Reverts.again {v : ContextTree} {stamp stamp' : Nat} (reverts : t.Reverts u c stamp)
    (again : u.Reverts v c stamp') : v = u := by
  refine ext_frames (fun id => ?_) again.current
  by_cases within : t.Within c id
  · rw [again.within (reverts.shape.within_iff.2 within)]
    cases there : u.frame? id with
    | none => rfl
    | some g =>
        rw [reverts.within within] at there
        obtain ⟨f, -, rfl⟩ := Option.map_eq_some_iff.1 there
        rfl
  · exact again.outside fun h => within (reverts.shape.within_iff.1 h)

end ExecutionTrace.ContextTree
