import ExecutionTrace.Proofs.Run.Rehearsal
import ExecutionTrace.Proofs.Run.Waiting

/-!
# Checkpoints

A context that fails leaves no mark on the world.  The machine keeps the world from just before the
value of a context moved, and puts it back if the context fails, whatever other contexts have done
and whatever has become of them in between.

## Main Definitions

* `ContextTree.openFrames` — the contexts that have been entered and have not ended
* `Reachable.length_checkpoints` — a world is kept for each of them
* `Visit`, `Visit.world_left` — a context that a call spawned and the script finished
* `BriefVisit`, `BriefVisit.world_called` — a context that ended within the call that spawned it
* `Episode.world_of_failure`, `Episode.world_of_success` — the root context of a transaction

## Design Notes

The world that a level keeps never changes as long as the level is there, but levels above it come
and go.  `Opening.keepsCheckpoint` names a level by the number of its context, which is enough since
no number is handed out twice during a transaction.
-/

namespace ExecutionTrace

variable {chain : Chain} {m m' : Machine}

/-! ## Open contexts -/

namespace ContextTree

variable {t u : ContextTree} {id : Nat}

/-- **The contexts that have been entered and have not ended.** -/
def openFrames (t : ContextTree) : List Frame :=
  t.frames.toList.filter (·.outcome?.isNone)

/-- **Every open context is active.** -/
def OpenOnlyActive (t : ContextTree) : Prop :=
  ∀ id f, t.frame? id = some f → f.outcome? = none → t.Active id

theorem mem_openFrames {f : Frame} :
    f ∈ t.openFrames ↔ (∃ id, t.frame? id = some f) ∧ f.outcome? = none := by
  have listed : f ∈ t.frames.toList ↔ ∃ id, t.frame? id = some f := by
    rw [Array.mem_toList_iff, Array.mem_iff_getElem?]
    constructor
    · rintro ⟨i, found⟩
      exact ⟨i + 1, found⟩
    · rintro ⟨id, found⟩
      cases id with
      | zero => cases found
      | succ i => exact ⟨i, found⟩
  rw [openFrames, List.mem_filter, listed, Option.isNone_iff_eq_none]

/-- Frames have different numbers. -/
theorem WellFormed.nodup_ids (wf : t.WellFormed) : (t.openFrames.map (·.id)).Nodup := by
  have nodup : (t.frames.toList.map (·.id)).Nodup := by
    rw [wf.ids_eq]
    exact List.nodup_range'
  exact nodup.sublist (List.filter_sublist.map _)

/-- Nothing is open where nothing is active. -/
theorem OpenOnlyActive.openFrames_eq_nil (h : t.OpenOnlyActive) (none : t.current? = none) :
    t.openFrames = [] := by
  refine List.eq_nil_iff_forall_not_mem.2 fun f listed => ?_
  obtain ⟨⟨id, found⟩, unended⟩ := mem_openFrames.1 listed
  exact not_active none (h id f found unended)

theorem openOnlyActive_empty : ({} : ContextTree).OpenOnlyActive := by
  intro id f found
  rw [frame?_empty] at found
  cases found

/-- Entering a context opens it, and nothing else. -/
theorem open_of_enter {entry : ContextEntry} {g : Frame}
    (found : (t.enter entry).frame? id = some g) (unended : g.outcome? = none) :
    id = t.nextId ∨ ∃ f, t.frame? id = some f ∧ f.outcome? = none := by
  by_cases new : id = t.nextId
  · exact .inl new
  · refine .inr ?_
    rw [frame?_enter, if_neg new] at found
    split at found
    · obtain ⟨f, old, rfl⟩ := Option.map_eq_some_iff.1 found
      exact ⟨f, old, unended⟩
    · exact ⟨g, found, unended⟩

/-- Ending a context closes it, and opens nothing. -/
theorem EndedAt.open {ended : Nat} {outcome : ContextOutcome} (h : t.EndedAt u ended outcome)
    {g : Frame} (found : u.frame? id = some g) (unended : g.outcome? = none) :
    id ≠ ended ∧ ∃ f, t.frame? id = some f ∧ f.outcome? = none := by
  have inside := frame?_eq_some_iff.1 ⟨g, found⟩
  rw [h.next] at inside
  obtain ⟨f, old⟩ := frame?_eq_some_iff.2 inside
  obtain ⟨g', found', -, outcome'⟩ := h.frames id f old
  obtain rfl := Option.some.inj (found.symm.trans found')
  rw [unended] at outcome'
  by_cases own : id = ended
  · rw [if_pos own] at outcome'
    cases outcome'
  · rw [if_neg own] at outcome'
    exact ⟨own, f, old, outcome'.symm⟩

end ContextTree

section Levels

variable {tx : Transaction} {older : List Section} {launch : LaunchSection} {l : Level}
  {outer : List Level}

/-- Inner levels have larger numbers. -/
theorem Stacked.pairwise_gt {t : ContextTree} {stop : Nat} (h : Stacked t tx stop (l :: outer)) :
    ((l :: outer).map (·.context)).Pairwise (· > ·) := by
  have below : ∀ {stop l outer}, Stacked t tx stop (l :: outer) →
      ((l :: outer).map (·.context)).Pairwise (· > ·) ∧ ∀ x ∈ l :: outer, x.context < stop := by
    intro stop l outer h
    have inside := h.sound.inside
    induction outer generalizing stop l with
    | nil => exact ⟨List.pairwise_singleton .., by simpa using inside⟩
    | cons below outer ih =>
        cases h with
        | above _ _ _ _ _ rest =>
            obtain ⟨sorted, bounded⟩ := ih rest rest.sound.inside
            refine ⟨List.pairwise_cons.2 ⟨by simpa using bounded, sorted⟩, ?_⟩
            intro x hx
            rcases List.mem_cons.1 hx with rfl | further
            · exact inside
            · exact (bounded x further).trans inside
  exact (below h).1

namespace Running

/-- The contexts of the levels are the open ones, if none but active ones are open. -/
theorem perm_openFrames (running : Running m tx older launch l outer)
    (only : m.tracer.contexts.OpenOnlyActive) :
    (m.tracer.contexts.openFrames.map (·.id)).Perm ((l :: outer).map (·.context)) := by
  have nodup : ((l :: outer).map (·.context)).Nodup :=
    running.stacked.pairwise_gt.imp fun h => (Nat.ne_of_lt h).symm
  refine (List.perm_ext_iff_of_nodup running.wellFormed.nodup_ids nodup).2 fun id => ?_
  rw [List.mem_map, List.mem_map]
  constructor
  · rintro ⟨f, listed, rfl⟩
    obtain ⟨⟨id, found⟩, unended⟩ := ContextTree.mem_openFrames.1 listed
    rw [running.wellFormed.id_eq found]
    exact (running.stacked.active_iff running.current).1 (only id f found unended)
  · rintro ⟨x, hx, rfl⟩
    obtain ⟨stop', outer', outward, -⟩ := running.stacked.exists_outward hx
    obtain ⟨f, found, -⟩ := Option.map_eq_some_iff.1 outward.sound.station
    have unended := running.stacked.unended hx found
    exact ⟨f, ContextTree.mem_openFrames.2 ⟨⟨_, found⟩, unended⟩, running.wellFormed.id_eq found⟩

/-- A world is kept for every open context. -/
theorem length_checkpoints (running : Running m tx older launch l outer)
    (only : m.tracer.contexts.OpenOnlyActive) :
    m.checkpoints.length = m.tracer.contexts.openFrames.length := by
  have same := (running.perm_openFrames only).length_eq
  rw [List.length_map, List.length_map] at same
  rw [running.checkpoints, List.length_map, same]

/-- Nothing but active contexts stays open as long as every open context belongs to a level. -/
theorem openOnlyActive (running : Running m tx older launch l outer)
    (kept : ∀ id f, m.tracer.contexts.frame? id = some f → f.outcome? = none →
      ∃ x ∈ l :: outer, x.context = id) : m.tracer.contexts.OpenOnlyActive :=
  fun id f found unended => (running.stacked.active_iff running.current).2 (kept id f found unended)

/-- **A call** opens a context at most, whose level is a new one. -/
theorem Called.openOnlyActive {frame : Frame} {i : Invocation} {c : CallSection}
    (called : Called chain m tx older launch l outer frame i c m')
    (running : Running m tx older launch l outer) (only : m.tracer.contexts.OpenOnlyActive) :
    m'.tracer.contexts.OpenOnlyActive := by
  have before : ∀ id, (∃ f, m.tracer.contexts.frame? id = some f ∧ f.outcome? = none) →
      ∃ x ∈ l :: outer, x.context = id := by
    rintro id ⟨f, found, unended⟩
    exact (running.stacked.active_iff running.current).1 (only id f found unended)
  cases called.effect with
  | dismissed _ _ _ contexts => exact contexts ▸ only
  | aborted _ _ _ _ contexts => exact contexts ▸ only
  | immediate _ _ _ _ _ running' _ number ends =>
      refine running'.openOnlyActive fun id f found unended => ?_
      obtain ⟨other, g, entered, unended⟩ := ends.open found unended
      rcases ContextTree.open_of_enter entered unended with new | old
      · exact absurd (new.trans number.symm) other
      · obtain ⟨x, hx, same⟩ := before id old
        rcases List.mem_cons.1 hx with rfl | further
        · exact ⟨_, .head _, same⟩
        · exact ⟨x, .tail _ further, same⟩
  | spawned _ _ _ _ running' _ number contexts =>
      refine running'.openOnlyActive fun id f found unended => ?_
      rw [contexts] at found
      rcases ContextTree.open_of_enter found unended with new | old
      · exact ⟨_, .head _, number.trans new.symm⟩
      · obtain ⟨x, hx, same⟩ := before id old
        exact ⟨x, .tail _ hx, same⟩

/-- **A finished context** is open no more, and its level is gone. -/
theorem Finished.openOnlyActive {outcome : ContextOutcome}
    (finished : Finished chain m tx older launch outcome l outer m')
    (running : Running m tx older launch l outer) (only : m.tracer.contexts.OpenOnlyActive) :
    m'.tracer.contexts.OpenOnlyActive := by
  have before : ∀ id, (∃ f, m.tracer.contexts.frame? id = some f ∧ f.outcome? = none) →
      id ≠ l.context → ∃ x ∈ outer, x.context = id := by
    rintro id ⟨f, found, unended⟩ other
    obtain ⟨x, hx, same⟩ :=
      (running.stacked.active_iff running.current).1 (only id f found unended)
    rcases List.mem_cons.1 hx with rfl | further
    · exact absurd same.symm other
    · exact ⟨x, further, same⟩
  cases finished with
  | nested _ _ running' _ _ _ _ ends =>
      refine running'.openOnlyActive fun id f found unended => ?_
      obtain ⟨other, old⟩ := ends.open found unended
      obtain ⟨x, hx, same⟩ := before id old other
      rcases List.mem_cons.1 hx with rfl | further
      · exact ⟨_, .head _, same⟩
      · exact ⟨x, .tail _ further, same⟩
  | root _ _ _ _ ends =>
      intro id f found unended
      obtain ⟨other, old⟩ := ends.open found unended
      obtain ⟨x, hx, -⟩ := before id old other
      cases hx

end Running

end Levels

/-! ## A world for every open context -/

/-- **Nothing but active contexts is open**, and none is active between two transactions. -/
theorem Reachable.openOnlyActive (reachable : Reachable chain m) :
    m.tracer.contexts.OpenOnlyActive ∧
      (m.transaction? = none → m.tracer.contexts.current? = none) := by
  induction reachable with
  | initial accounts outcomes =>
      rw [Machine.tracer_initial]
      exact ⟨ContextTree.openOnlyActive_empty, fun _ => rfl⟩
  | @step m m' a before allowed succeeds ih =>
      obtain ⟨only, -⟩ := ih
      cases before.taken allowed succeeds with
      | starts idle _ begun =>
          cases begun with
          | skipping _ _ _ _ _ _ contexts =>
              rw [contexts]
              exact ⟨ContextTree.openOnlyActive_empty, fun _ => rfl⟩
          | running _ _ running _ _ _ contexts =>
              refine ⟨running.openOnlyActive fun id f found unended => ?_, ?_⟩
              · rw [contexts] at found
                rcases ContextTree.open_of_enter found unended with new | ⟨_, old, -⟩
                · exact ⟨_, .head _, new.symm⟩
                · rw [ContextTree.frame?_empty] at old
                  cases old
              · rw [running.transaction]
                exact nofun
      | settles skipping _ closed =>
          rw [closed.contexts]
          exact ⟨only, fun _ => skipping.contexts⟩
      | calls running scripted _ called =>
          refine ⟨called.openOnlyActive running only, ?_⟩
          obtain ⟨_, _, running', -⟩ := called.running scripted
          rw [running'.transaction]
          exact nofun
      | finishes running _ _ finished =>
          refine ⟨finished.openOnlyActive running only, ?_⟩
          cases finished with
          | nested _ _ running' =>
              rw [running'.transaction]
              exact nofun
          | root ended => exact fun _ => ended.current
      | ends ended _ closed =>
          rw [closed.contexts]
          exact ⟨only, fun _ => ended.current⟩

/-- Where no transaction executes code, no context is active and no world is kept. -/
theorem Reachable.running_or_inactive (reachable : Reachable chain m) :
    (∃ tx older launch l outer, Running m tx older launch l outer) ∨
      m.tracer.contexts.current? = none ∧ m.checkpoints = [] := by
  obtain ⟨-, free⟩ := reachable.openOnlyActive
  cases reachable.poised with
  | idle idle => exact .inr ⟨free idle.transaction, idle.checkpoints⟩
  | skipping skipping => exact .inr ⟨skipping.contexts, skipping.checkpoints⟩
  | running running => exact .inl ⟨_, _, _, _, _, running⟩
  | ended ended => exact .inr ⟨ended.current, ended.checkpoints⟩

/-- **A world is kept for every open context**, at every instant of a run. -/
theorem Reachable.length_checkpoints (reachable : Reachable chain m) :
    m.checkpoints.length = m.tracer.contexts.openFrames.length := by
  obtain ⟨only, -⟩ := reachable.openOnlyActive
  rcases reachable.running_or_inactive with ⟨_, _, _, _, _, running⟩ | ⟨inactive, checkpoints⟩
  · exact running.length_checkpoints only
  · rw [checkpoints, only.openFrames_eq_nil inactive]
    rfl

/-- **The open contexts are the active ones**, at every instant of a run. -/
theorem Reachable.active_iff (reachable : Reachable chain m) (id : Nat) :
    m.tracer.contexts.Active id ↔ ∃ f ∈ m.tracer.contexts.openFrames, f.id = id := by
  obtain ⟨only, -⟩ := reachable.openOnlyActive
  rcases reachable.running_or_inactive with ⟨_, _, _, _, _, running⟩ | ⟨inactive, -⟩
  · rw [running.stacked.active_iff running.current, ← List.mem_map, ← List.mem_map]
    exact (running.perm_openFrames only).mem_iff.symm
  · rw [only.openFrames_eq_nil inactive]
    simp [ContextTree.not_active inactive]

/-! ## Contexts that the script finishes -/

/-- **A call instruction whose context executes code**, up to the step that finishes the context. -/
structure Visit (chain : Chain) where
  i : Invocation
  /-- Before the call. -/
  calling : Machine
  /-- After the call. -/
  called : Machine
  /-- Before the context is finished. -/
  leaving : Machine
  outcome : ContextOutcome
  /-- After the context has been finished. -/
  left : Machine
  reachable : Reachable chain calling
  allowed : calling.Allows (.call i)
  calls : (Action.call i).carryOut chain calling = .ok () called
  enters : called.tracer.contexts.current? = some calling.tracer.contexts.nextId
  runs : Executes chain called leaving
  atContext : leaving.tracer.contexts.current? = some calling.tracer.contexts.nextId
  finishes : (Action.finish outcome).carryOut chain leaving = .ok () left

/-- A call instruction is carried out while contexts are active. -/
theorem Reachable.called {i : Invocation} (reachable : Reachable chain m)
    (allowed : m.Allows (.call i)) (calls : (Action.call i).carryOut chain m = .ok () m') :
    ∃ tx older launch l outer aborts frame c, Running m tx older launch l outer ∧ l.Scripted ∧
      Running.Called chain m tx older launch l outer frame { i with aborts } c m' := by
  cases reachable.taken allowed calls with
  | starts _ action => cases action
  | settles _ action => cases action
  | calls running scripted action called =>
      cases action
      exact ⟨_, _, _, _, _, _, _, _, running, scripted, called⟩
  | finishes _ _ action => cases action
  | ends _ action => cases action

/-- Levels that are not among those of a context keep the world that it is to put back. -/
theorem Opening.keepsCheckpoint (o : Opening) (id : Nat) (world : WorldState) :
    Preserved o fun m l outer => (Running m o.tx o.older o.launch l outer ∧ l.Scripted) ∧
      id < m.tracer.contexts.nextId ∧
      ∀ x ∈ l :: outer, x.context = id → x.checkpoint = world where
  running h := h.1
  called := by
    rintro m l outer frame i c m' ⟨⟨running, scripted⟩, old, keeps⟩ called
    have added : ∀ more, ∀ x ∈ l.add more :: outer, x.context = id → x.checkpoint = world := by
      intro more
      obtain ⟨own, further⟩ := List.forall_mem_cons.1 keeps
      exact List.forall_mem_cons.2 ⟨own, further⟩
    cases called.effect with
    | dismissed _ running' _ contexts =>
        exact ⟨_, _, ⟨running', scripted⟩, contexts ▸ old, added _⟩
    | aborted _ _ running' _ contexts =>
        exact ⟨_, _, ⟨running', scripted⟩, contexts ▸ old, added _⟩
    | immediate _ _ _ _ _ running' _ _ ends =>
        refine ⟨_, _, ⟨running', scripted⟩, ?_, added _⟩
        rw [ends.next, ContextTree.nextId_enter]
        omega
    | @spawned c' _ _ _ scenario enters running' _ number contexts =>
        refine ⟨_, _, ⟨running', enters.scripted scenario rfl⟩, ?_,
          List.forall_mem_cons.2 ⟨fun same => ?_, keeps⟩⟩
        · rw [contexts, ContextTree.nextId_enter]
          omega
        -- The new context has a number that no context had before.
        · have new : _ = id := number.symm.trans same
          omega
  returned := by
    rintro m l below outer outcome m' ⟨⟨running, scripted⟩, old, keeps⟩ finished
    cases finished with
    | nested _ _ running' _ _ _ _ ends =>
        obtain ⟨-, keeps⟩ := List.forall_mem_cons.1 keeps
        refine ⟨_, _, ⟨running', running.scripted below (.head _)⟩, ?_, ?_⟩
        · rw [ends.next]
          exact old
        · exact List.forall_mem_cons.2 (List.forall_mem_cons.1 keeps)

/-- **A context that fails puts back the world of the call that spawned it**, the callee being warm,
and one that succeeds leaves the world as it is. -/
theorem Visit.world_left (v : Visit chain) :
    ∃ callee, v.i.callee = .ok callee ∧ v.left.world =
      if v.outcome.success then v.leaving.world else v.calling.world.warmUp callee := by
  obtain ⟨tx, older, launch, l, outer, aborts, frame, c, running, scripted, called⟩ :=
    v.reachable.called v.allowed v.calls
  have own := running.stacked.sound.inside
  have elsewhere : v.called.tracer.contexts.current? ≠ some l.context := by
    rw [v.enters]
    exact fun same => absurd (Option.some.inj same) (Nat.ne_of_gt own)
  cases called.effect with
  | dismissed _ running' => exact absurd running'.current elsewhere
  | aborted _ _ running' => exact absurd running'.current elsewhere
  | immediate _ _ _ _ _ running' => exact absurd running'.current elsewhere
  | @spawned c' child quiet _ scenario enters running' world number contexts =>
      refine ⟨c.callee, (called.announced.parsed quiet).callee, ?_⟩
      let o : Opening := ⟨chain, tx, older, launch, {}, {}⟩
      -- From its entry on, the level of the context keeps the world that the failure puts back.
      have entered : v.calling.tracer.contexts.nextId < v.called.tracer.contexts.nextId := by
        rw [contexts, ContextTree.nextId_enter]
        omega
      have keeps : ∀ x ∈ (⟨child, c.childEntry, v.calling.world.warmUp c.callee, some c', []⟩ ::
          l :: outer : List Level), x.context = v.calling.tracer.contexts.nextId →
          x.checkpoint = v.calling.world.warmUp c.callee := by
        refine List.forall_mem_cons.2 ⟨fun _ => rfl, fun x hx same => ?_⟩
        obtain ⟨_, _, outward, -⟩ := running.stacked.exists_outward hx
        obtain ⟨f, found, -⟩ := Option.map_eq_some_iff.1 outward.sound.station
        have before := ContextTree.lt_nextId found
        omega
      rcases (o.keepsCheckpoint _ _).executes v.runs
        ⟨⟨running', enters.scripted scenario rfl⟩, entered, keeps⟩ with
        ⟨l', outer', ⟨running₁, scripted₁⟩, -, kept⟩ | ⟨inactive, -⟩
      swap
      · rw [v.atContext] at inactive
        cases inactive
      have number' : l'.context = v.calling.tracer.contexts.nextId :=
        Option.some.inj (running₁.current.symm.trans v.atContext)
      have finished := (running₁.finish_action_yields scripted₁ v.outcome
        (E := fun _ => True)).value v.finishes
      cases finished with
      | nested _ _ _ world' =>
          rw [world', Level.worldAfter, kept l' (.head _) number']
      | root =>
          -- The root context was active before the call, so the one that has ended is another.
          obtain ⟨f, found, -⟩ := running.stacked.root_active
          have before := ContextTree.lt_nextId found
          have root : l'.context = LaunchSection.rootContext := by
            cases running₁.stacked with
            | root _ _ number => exact number
          omega

/-! ## Contexts that end within a call -/

/-- **A call instruction whose context ends by itself.** -/
structure BriefVisit (chain : Chain) where
  i : Invocation
  /-- Before the call. -/
  calling : Machine
  /-- The frame of the context that makes the call. -/
  caller : Frame
  /-- After the call. -/
  called : Machine
  /-- The frame of the context that the call has spawned, when it has ended. -/
  child : Frame
  outcome : ContextOutcome
  reachable : Reachable chain calling
  allowed : calling.Allows (.call i)
  current : calling.tracer.contexts.currentFrame = .ok caller
  calls : (Action.call i).carryOut chain calling = .ok () called
  found : called.tracer.contexts.frame? calling.tracer.contexts.nextId = some child
  ended : child.outcome? = some outcome

/-- **The value of a call moves** from one world to another, in which the callee is warm. -/
def CallKind.Moves (kind : CallKind) (caller callee : Address) (value : Word)
    (world world' : WorldState) : Prop :=
  if kind.movesValue then
    ∃ paid, (world.warmUp callee).debit? caller value = some paid ∧
      world' = paid.credit callee value
  else world' = world.warmUp callee

/-- The world when the child context of a call starts, as the call finds the world before. -/
theorem CallSection.Announced.moves {setting : Setting} {world : WorldState} {frame : Frame}
    {i : Invocation} {c : CallSection} (announced : c.Announced chain setting world frame i)
    (quiet : i.exceptions.any = false) (proceeds : i.aborts.any = false) :
    i.kind.Moves frame.entry.address c.callee c.value world (c.moved world) := by
  unfold CallKind.Moves
  rw [← announced.kind, ← announced.caller]
  split
  · rename_i moves
    exact Running.debit?_of_announced (m := { world }) announced quiet proceeds moves
  · rename_i moves
    rw [moved]
    exact if_neg moves

/-- **A context that ends within the call that spawned it** leaves the value moved if it succeeds,
and otherwise nothing but the callee warm. -/
theorem BriefVisit.world_called (v : BriefVisit chain) :
    ∃ callee value, v.i.callee = .ok callee ∧ v.i.value = .ok value ∧
      if v.outcome.success then
        v.i.kind.Moves v.caller.entry.address callee value v.calling.world v.called.world
      else v.called.world = v.calling.world.warmUp callee := by
  obtain ⟨tx, older, launch, l, outer, aborts, frame, c, running, scripted, called⟩ :=
    v.reachable.called v.allowed v.calls
  -- A call that spawns no context leaves the next number to be handed out.
  have spawns : v.called.tracer.contexts ≠ v.calling.tracer.contexts := by
    intro same
    have found := v.found
    rw [same, ContextTree.frame?_eq_none (Nat.le_refl _)] at found
    cases found
  cases called.effect with
  | dismissed _ _ _ contexts => exact absurd contexts spawns
  | aborted _ _ _ _ contexts => exact absurd contexts spawns
  | @spawned _ child _ _ _ _ running' _ number =>
      have unended := running'.stacked.unended (.head _) (number ▸ v.found)
      rw [v.ended] at unended
      cases unended
  | @immediate _ child outcome quiet proceeds _ _ _ _ world number ends =>
      have parsed := called.announced.parsed quiet
      refine ⟨c.callee, c.value, parsed.callee, parsed.value, ?_⟩
      obtain ⟨f, found, -, outcome'⟩ := ends.frames v.calling.tracer.contexts.nextId _ (by
        rw [ContextTree.frame?_enter, if_pos rfl])
      obtain rfl := Option.some.inj (found.symm.trans v.found)
      rw [if_pos number.symm, v.ended] at outcome'
      obtain rfl := Option.some.inj outcome'
      have current : v.calling.tracer.contexts.currentFrame = .ok frame :=
        ContextTree.currentFrame_eq_ok (called.number ▸ running.current) called.found
      have same : v.caller = frame := Except.ok.inj (v.current.symm.trans current)
      rw [same, world]
      split
      · exact called.announced.moves quiet proceeds
      · rfl

/-! ## The root context -/

namespace Episode

/-- The levels of a transaction whose root context is about to be left. -/
theorem Staged.departs_root {run : Episode chain} {o : Opening} (staged : run.Staged o) :
    ∃ l revertStamp, run.Departs o l revertStamp ∧ l.checkpoint = o.charged ∧
      l.entry.isDeployment = run.tx.isDeployment := by
  have begins : LaunchSection.rootContext < run.begun.tracer.contexts.nextId :=
    staged.running.stacked.sound.inside
  obtain ⟨l, revertStamp, ⟨-, -, keeps⟩, departs⟩ := staged.departs
    (o.keepsCheckpoint LaunchSection.rootContext o.charged)
    ⟨⟨staged.running, o.scripted_rootLevel⟩, begins, by simp [Opening.rootLevel]⟩
  refine ⟨l, revertStamp, departs, ?_⟩
  cases departs.running.stacked with
  | root _ _ number deployment =>
      exact ⟨keeps l (.head _) number, deployment.trans (congrArg _ staged.tx)⟩

/-- **A transaction that fails** leaves its sender charged for gas, with its nonce raised, and the
sender and the recipient warm. -/
theorem world_of_failure (run : Episode chain) (failure : run.outcome.success = false) :
    ∃ paid, ((run.idle.world.warmUp run.tx.sender).warmUp run.tx.recipient).debit? run.tx.sender
        run.tx.upfrontGasCost = some paid ∧
      run.left.world = paid.raiseNonce run.tx.sender := by
  obtain ⟨o, staged⟩ := run.staged
  obtain ⟨l, revertStamp, departs, checkpoint, -⟩ := staged.departs_root
  obtain ⟨s, row, opened⟩ := staged.opened
  obtain ⟨left, -, paid, -⟩ := Idle.debits_of_announced opened.announced
  obtain ⟨debited, pays, -, charged⟩ := o.tx.charge_eq o.world paid
  refine ⟨debited, ?_, ?_⟩
  · rw [← staged.before, ← staged.tx]
    exact pays
  · rw [departs.world, failure, Bool.false_and, if_neg Bool.false_ne_true, Level.worldAfter,
      if_neg Bool.false_ne_true, checkpoint, Opening.charged, charged, staged.tx]

/-- **A root context that succeeds** changes nothing when it is finished, except that the output of
a deployment becomes code. -/
theorem world_of_success (run : Episode chain) (success : run.outcome.success = true) :
    run.left.world =
      if run.tx.isDeployment then run.leaving.world.setCode run.tx.recipient run.outcome.output
      else run.leaving.world := by
  obtain ⟨o, staged⟩ := run.staged
  obtain ⟨l, revertStamp, departs, -, deployment⟩ := staged.departs_root
  rw [departs.world, success, Bool.true_and, deployment, Level.worldAfter, if_pos rfl, staged.tx]

end Episode

/-! ## All contexts -/

/-- **A failed context leaves no mark on the world.** At every instant of a run one world is kept
for each active context.  A context that a call has spawned and that fails, whether the script
finishes it or it ends by itself, puts back the world that the call has been announced in, with the
callee warm; the root context of a transaction puts back the world in which the sender has paid for
gas.  A context that succeeds changes nothing when it is finished, apart from the code that a
transaction deploys. -/
theorem failed_contexts_leave_no_mark (chain : Chain) :
    (∀ m, Reachable chain m → m.checkpoints.length = m.tracer.contexts.openFrames.length ∧
      ∀ id, m.tracer.contexts.Active id ↔ ∃ f ∈ m.tracer.contexts.openFrames, f.id = id) ∧
    (∀ v : Visit chain, ∃ callee, v.i.callee = .ok callee ∧ v.left.world =
      if v.outcome.success then v.leaving.world else v.calling.world.warmUp callee) ∧
    (∀ v : BriefVisit chain, ∃ callee value, v.i.callee = .ok callee ∧ v.i.value = .ok value ∧
      if v.outcome.success then
        v.i.kind.Moves v.caller.entry.address callee value v.calling.world v.called.world
      else v.called.world = v.calling.world.warmUp callee) ∧
    ∀ run : Episode chain,
      (run.outcome.success = false →
        ∃ paid, ((run.idle.world.warmUp run.tx.sender).warmUp run.tx.recipient).debit?
            run.tx.sender run.tx.upfrontGasCost = some paid ∧
          run.left.world = paid.raiseNonce run.tx.sender) ∧
      (run.outcome.success = true → run.left.world =
        if run.tx.isDeployment then run.leaving.world.setCode run.tx.recipient run.outcome.output
        else run.leaving.world) :=
  ⟨fun _ reachable => ⟨reachable.length_checkpoints, reachable.active_iff⟩, Visit.world_left,
    BriefVisit.world_called, fun run => ⟨run.world_of_failure, run.world_of_success⟩⟩

/-- A contract that has paid another account fails, and so do a precompile and the transaction. -/
theorem nested_failures_leave_no_mark :
    (∃ m, Reachable .ethereum m ∧ m.checkpoints.length = 2 ∧
      m.tracer.contexts.openFrames.length = 2) ∧
    (∃ v : Visit .ethereum, v.outcome.success = false ∧
      v.left.world = v.calling.world.warmUp 0xbeef) ∧
    (∃ v : BriefVisit .ethereum, v.outcome.success = false ∧
      v.called.world = v.calling.world.warmUp 2) ∧
    ∃ run : Episode .ethereum, run.outcome.success = false ∧
      ∃ paid, ((run.idle.world.warmUp run.tx.sender).warmUp run.tx.recipient).debit?
          run.tx.sender run.tx.upfrontGasCost = some paid ∧
        run.left.world = paid.raiseNonce run.tx.sender := by
  let stage : Machine := .initial [(Script.sender, { balance := Script.gwei 1000000000 }),
    (0xc0de, { balance := 1000, code := [0x00] }), (0xbeef, { code := [0x00] })] [(2, .failed)]
  let tx := Script.messageCall Script.sender 0xc0de 1
  have visited : ((stage.play .ethereum [.start tx]).any fun calling =>
      (calling.play .ethereum [.call (.make .call 0xbeef 5)]).any fun called =>
        called.tracer.contexts.current? == some calling.tracer.contexts.nextId &&
        called.checkpoints.length == 2 &&
        (called.play .ethereum [.call (.make .call 2 3)]).any fun leaving =>
          leaving.tracer.contexts.current? == some calling.tracer.contexts.nextId &&
          ((leaving.tracer.contexts.frame? called.tracer.contexts.nextId).any
            fun child => child.outcome? == some .failed) &&
          (leaving.play .ethereum [.finish .failed]).isSome) = true := by
    decide +kernel
  have rehearsed : stage.rehearse .ethereum tx
      [.call (.make .call 0xbeef 5), .finish (.succeeded [])] .failed 30000
      (fun _ _ _ => true) = true := by
    decide +kernel
  simp only [Option.any_eq_true, Bool.and_eq_true, beq_iff_eq] at visited
  obtain ⟨calling, starts, called, calls, ⟨enters, kept⟩, leaving, briefly,
    ⟨atContext, child, found, ended⟩, finished⟩ := visited
  obtain ⟨left, finishes⟩ := Option.isSome_iff_exists.1 finished
  have reachable : Reachable .ethereum calling := (Reachable.initial _ _).play starts
  have nested : Reachable .ethereum called := reachable.play calls
  obtain ⟨allowed, calls⟩ := Machine.carryOut_of_play calls
  obtain ⟨allowed', briefly⟩ := Machine.carryOut_of_play briefly
  obtain ⟨-, finishes⟩ := Machine.carryOut_of_play finishes
  obtain ⟨_, _, _, _, _, _, _, _, running, -⟩ := nested.called allowed' briefly
  obtain ⟨frame, current, -⟩ := running.currentFrame_eq
  let v : Visit .ethereum := ⟨.make .call 0xbeef 5, calling, called, leaving, .failed, left,
    reachable, allowed, calls, enters, (Executes.refl called).call briefly, atContext, finishes⟩
  let b : BriefVisit .ethereum := ⟨.make .call 2 3, called, frame, leaving, child, .failed, nested,
    allowed', current, briefly, found, ended⟩
  obtain ⟨run, -, outcome, -⟩ := Machine.exists_prompt_episode (Reachable.initial _ _) rehearsed
  have failure : run.outcome.success = false := congrArg ContextOutcome.success outcome
  obtain ⟨counts, visits, visitsBriefly, episodes⟩ := failed_contexts_leave_no_mark .ethereum
  refine ⟨⟨called, nested, kept, ?_⟩, ⟨v, rfl, ?_⟩, ⟨b, rfl, ?_⟩,
    run, failure, (episodes run).1 failure⟩
  · rw [← (counts called nested).1, kept]
  · obtain ⟨callee, same, world⟩ := visits v
    obtain rfl : 0xbeef = callee := Except.ok.inj same
    exact world
  · obtain ⟨callee, value, same, -, world⟩ := visitsBriefly b
    obtain rfl : 2 = callee := Except.ok.inj same
    exact world

end ExecutionTrace
