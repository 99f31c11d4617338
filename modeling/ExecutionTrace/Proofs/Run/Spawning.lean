import ExecutionTrace.Proofs.Run.Children
import ExecutionTrace.Proofs.Run.Passage

/-!
# Which call spawned which context

The calls of a transaction that spawn contexts are, in the order of their announcement, those that
its contexts but the root were spawned by, in the order of their numbers.

## Main Definitions

* `ContextTree.Numbered` — the calls of a stretch of the trace spawned a stretch of contexts
* `Running.Called.numbered`, `Running.Finished.numbered` — the steps of a transaction
* `Machine.SpawnsInOrder` — all calls of a transaction spawned all contexts but the root
* `Passage.calls_spawn_in_order` — at every instant of a transaction, and at its end

## Design Notes

A finished context is answered by the call that it was spawned by, which may lie anywhere in the
trace.  So the numbering is a predicate on stretches of the trace, with the first number and the
one after the last: it can be cut before the call and behind it, and what comes before and after is
about contexts that have nothing to do with the one that ended.
-/

namespace ExecutionTrace

/-! ## Numbering calls and contexts -/

namespace ContextTree

/-- **The calls of a stretch of the trace spawned a stretch of contexts**: those numbered from the
first number up to the second one. -/
inductive Numbered (t : ContextTree) : Nat → List CallSection → Nat → Prop
  | nil (n : Nat) : Numbered t n [] n
  /-- A call that spawns no context takes no number. -/
  | skip {n stop : Nat} {c : CallSection} {calls : List CallSection} (idle : c.spawns = false)
      (rest : Numbered t n calls stop) : Numbered t n (c :: calls) stop
  /-- A call that spawns a context takes the next number. -/
  | spawn {stop : Nat} {c : CallSection} {calls : List CallSection} {child : Frame}
      (spawns : c.spawns = true) (spawned : c.HasChild t child) (names : c.Names child.id)
      (rest : Numbered t (child.id + 1) calls stop) : Numbered t child.id (c :: calls) stop

namespace Numbered

variable {t u : ContextTree} {n stop : Nat} {c : CallSection} {calls calls' : List CallSection}

theorem le (numbered : t.Numbered n calls stop) : n ≤ stop := by
  induction numbered with
  | nil => exact Nat.le_refl _
  | skip _ _ ih => exact ih
  | spawn _ _ _ _ ih => omega

theorem append {mid : Nat} (numbered : t.Numbered n calls mid)
    (numbered' : t.Numbered mid calls' stop) : t.Numbered n (calls ++ calls') stop := by
  induction numbered with
  | nil => exact numbered'
  | skip idle _ ih => exact .skip idle (ih numbered')
  | spawn spawns spawned names _ ih => exact .spawn spawns spawned names (ih numbered')

/-- **A stretch of the trace can be cut.** -/
theorem exists_mid (numbered : t.Numbered n (calls ++ calls') stop) :
    ∃ mid, t.Numbered n calls mid ∧ t.Numbered mid calls' stop := by
  induction calls generalizing n with
  | nil => exact ⟨n, .nil n, numbered⟩
  | cons c calls ih =>
      cases numbered with
      | skip idle rest =>
          obtain ⟨mid, before, after⟩ := ih rest
          exact ⟨mid, .skip idle before, after⟩
      | spawn spawns spawned names rest =>
          obtain ⟨mid, before, after⟩ := ih rest
          exact ⟨mid, .spawn spawns spawned names before, after⟩

/-- A call that spawns a context has the frame of that context for its child. -/
theorem exists_child (numbered : t.Numbered n calls stop) (hc : c ∈ calls)
    (spawns : c.spawns = true) : ∃ child, c.HasChild t child ∧ c.Names child.id := by
  induction numbered with
  | nil => cases hc
  | skip idle _ ih =>
      rcases List.mem_cons.1 hc with rfl | later
      · rw [idle] at spawns
        cases spawns
      · exact ih later
  | spawn _ made names _ ih =>
      rcases List.mem_cons.1 hc with rfl | later
      · exact ⟨_, made, names⟩
      · exact ih later

/-- **Contexts that do not end** keep their calls, which may have come to a later stage. -/
theorem congr (numbered : t.Numbered n calls stop) (remembers : t.Remembers u)
    (same : ∀ j f, n ≤ j → j < stop → t.frame? j = some f →
      ∃ g, u.frame? j = some g ∧ g.birth = f.birth ∧ g.outcome? = f.outcome?)
    (persist : List.Forall₂ CallSection.Persists calls calls') :
    u.Numbered n calls' stop := by
  induction numbered generalizing calls' with
  | nil n =>
      cases persist
      exact .nil n
  | skip idle _ ih =>
      cases persist with
      | cons first further => exact .skip (first.spawns.trans idle) (ih same further)
  | @spawn _ _ _ child spawns spawned names rest ih =>
      cases persist with
      | cons first further =>
          obtain ⟨g, found, birth, outcome⟩ := same _ _ (Nat.le_refl _) rest.le spawned.found
          have number : g.id = child.id := congrArg (fun b => b.1) birth
          have later := ih
            (fun j f after before => same j f (Nat.le_of_succ_le after) before) further
          -- The number is read off the frame, which has a new version in the later tree.
          rw [← number] at later names ⊢
          refine .spawn (first.spawns.trans spawns) ?_ (first.names _ names) later
          refine spawned.later first.toSameCall remembers found birth fun contract => ?_
          rw [first.captured, outcome]
          exact spawned.captured contract

/-- The numbers are handed out one after the other. -/
theorem stop_eq (numbered : t.Numbered n calls stop) :
    stop = n + (calls.filter CallSection.spawns).length := by
  induction numbered with
  | nil => rfl
  | skip idle _ ih =>
      rw [List.filter_cons_of_neg (by simp [idle])]
      exact ih
  | spawn spawns _ _ _ ih =>
      rw [List.filter_cons_of_pos spawns, List.length_cons, ih]
      omega

/-- **The calls that spawn contexts are numbered in the order of the trace.** -/
theorem of_getElem? (numbered : t.Numbered n calls stop) {k : Nat}
    (found : (calls.filter CallSection.spawns)[k]? = some c) :
    ∃ child, child.id = n + k ∧ c.HasChild t child ∧ c.Names (n + k) := by
  induction numbered generalizing k with
  | nil => cases found
  | skip idle _ ih =>
      rw [List.filter_cons_of_neg (by simp [idle])] at found
      exact ih found
  | @spawn _ _ _ child spawns spawned names _ ih =>
      rw [List.filter_cons_of_pos spawns] at found
      cases k with
      | zero =>
          obtain rfl := Option.some.inj found
          exact ⟨child, rfl, spawned, names⟩
      | succ k =>
          obtain ⟨child', number, rest⟩ := ih found
          have shift : child.id + 1 + k = child.id + (k + 1) := by omega
          rw [shift] at number rest
          exact ⟨child', number, rest⟩

end Numbered

end ContextTree

/-! ## The steps of a transaction -/

namespace Running

variable {chain : Chain} {m m' : Machine} {tx : Transaction} {older : List Section}
  {launch : LaunchSection} {l below : Level} {outer : List Level}

/-- **A call instruction** spawns a context with the next number, or none. -/
theorem Called.numbered (running : Running m tx older launch l outer) (scripted : l.Scripted)
    {frame : Frame} {i : Invocation} {c : CallSection}
    (called : Called chain m tx older launch l outer frame i c m')
    (numbered : m.tracer.contexts.Numbered 2 (callsOf (l :: outer)) m.tracer.contexts.nextId) :
    ∃ l' outer', Running m' tx older launch l' outer' ∧ l'.Scripted ∧
      m'.tracer.contexts.Numbered 2 (callsOf (l' :: outer')) m'.tracer.contexts.nextId := by
  have announced := called.announced
  have idles : ∀ {c : CallSection}, c.spawns = false →
      m.tracer.contexts.Numbered 2 (callsOf (l :: outer) ++ [c]) m.tracer.contexts.nextId :=
    fun idle => numbered.append (.skip idle (.nil _))
  have current : m.tracer.contexts.current? = some frame.id := called.number ▸ running.current
  have spawned := fun quiet proceeds => announced.hasChild quiet proceeds current called.found
  -- Entering a context and ending it does not concern the earlier ones.
  have kept : ∀ {u : ContextTree}, (m.tracer.contexts.enter c.childEntry).Remembers u →
      (∀ j f, j < m.tracer.contexts.nextId →
        (m.tracer.contexts.enter c.childEntry).frame? j = some f →
          ∃ g, u.frame? j = some g ∧ g.birth = f.birth ∧ g.outcome? = f.outcome?) →
      u.Numbered 2 (callsOf (l :: outer)) m.tracer.contexts.nextId := by
    intro u remembers same
    refine numbered.congr ((ContextTree.remembers_enter _ _).trans remembers) ?_
      (List.forall₂_same.2 fun c _ => .refl c)
    intro j f _ before found
    obtain ⟨g, found', birth, outcome⟩ := ContextTree.exists_frame_enter c.childEntry found
    obtain ⟨g', found'', birth', outcome'⟩ := same j g before found'
    exact ⟨g', found'', birth'.trans birth, outcome'.trans outcome⟩
  cases called.effect with
  | dismissed raised running' _ contexts =>
      refine ⟨_, _, running', scripted, ?_⟩
      rw [contexts, callsOf_add]
      refine idles ?_
      rw [CallSection.spawns, (announced.dismissed raised).scenario]
      rfl
  | aborted quiet aborts running' _ contexts =>
      refine ⟨_, _, running', scripted, ?_⟩
      rw [contexts, callsOf_add]
      refine idles ?_
      show (c.scenario != .exception && !c.scenario.isAbort) = false
      rw [(announced.aborted quiet aborts).1]
      rfl
  | @immediate c' child outcome quiet proceeds other enters _ running' _ number ends =>
      refine ⟨_, _, running', scripted, ?_⟩
      obtain ⟨sameCall, names, noContract⟩ := announced.names_immediate quiet proceeds other enters
        m'.world m.tracer.incarnations child outcome
      have earlier := kept ends.remembers fun j f before found => ends.spares (by omega) found
      obtain ⟨g, found, birth, -⟩ := ends.frames _ _ (spawned quiet proceeds).found
      have fresh : g.id = m.tracer.contexts.nextId := congrArg (fun b => b.1) birth
      rw [callsOf_add, ends.next, ContextTree.nextId_enter]
      refine earlier.append ?_
      rw [← fresh]
      refine .spawn (sameCall.spawns.trans (announced.spawns_eq quiet proceeds)) ?_ ?_ (.nil _)
      · have made := spawned quiet proceeds
        refine made.later sameCall ends.remembers found birth fun contract => ?_
        rw [noContract] at contract
        cases contract
      · rw [fresh, ← number]
        exact names
  | @spawned c' _ quiet proceeds scenario enters running' _ number contexts =>
      refine ⟨_, _, running', enters.scripted scenario rfl, ?_⟩
      have earlier := kept (.refl _) fun j f _ found => ⟨f, found, rfl, rfl⟩
      have child := spawned quiet proceeds
      have own : (m.tracer.contexts.enter c.childEntry).Numbered
          (m.tracer.contexts.newFrame c.childEntry).id [c'] (m.tracer.contexts.nextId + 1) := by
        refine .spawn ?_ ?_ ?_ (.nil _)
        · exact enters.sameCall.spawns.trans (announced.spawns_eq quiet proceeds)
        · refine child.later enters.sameCall (.refl _) child.found rfl fun contract => ?_
          obtain ⟨rows, same⟩ := enters.eq
          rw [same]
          exact child.captured contract
        · exact announced.names_entered scenario enters
      rw [contexts, ContextTree.nextId_enter]
      exact earlier.append own

/-- What a context leaves behind are later stages of the calls made from it. -/
theorem persists_remainder (chain : Chain) (incarnations : Incarnations) (stamp : Nat)
    (success : Bool) (l : Level) :
    List.Forall₂ CallSection.Persists l.settled (l.remainder chain incarnations stamp success) := by
  unfold Level.remainder
  split
  · exact List.forall₂_same.2 fun c _ => .refl c
  · refine List.forall₂_map_right_iff.2 (List.forall₂_same.2 fun c _ => ?_)
    exact c.persists_fallBack ..

/-- **A finished context** was spawned by the call that is answered. -/
theorem Finished.numbered (running : Running m tx older launch l (below :: outer))
    (scripted : l.Scripted) {outcome : ContextOutcome}
    (finished : Finished chain m tx older launch outcome l (below :: outer) m')
    (numbered : m.tracer.contexts.Numbered 2 (callsOf (l :: below :: outer))
      m.tracer.contexts.nextId) :
    ∃ l', Running m' tx older launch l' outer ∧ l'.Scripted ∧
      m'.tracer.contexts.Numbered 2 (callsOf (l' :: outer)) m'.tracer.contexts.nextId := by
  cases finished with
  | @nested _ _ spawner frame _ spawned _ running' _ _ _ _ ends _ =>
      refine ⟨_, running', running.scripted below (.head _), ?_⟩
      have scenario := scripted spawner spawned
      have pending := running.stacked.spawner_pending spawned
      -- Cut before the spawner and behind it, so that neither side is about the context that ended.
      rw [callsOf, Level.calls, spawned] at numbered
      obtain ⟨mid, before, rest⟩ := numbered.exists_mid
      cases rest with
      | skip idle =>
          rw [CallSection.spawns, scenario] at idle
          cases idle
      | @spawn _ _ _ child spawns made names after =>
          -- The call has predicted the context that has ended, so that is the one it spawned.
          have number : child.id = l.context := by
            have predicted := names.contract (by rw [scenario]; rfl)
            rw [pending.closing_eq scenario] at predicted
            exact (ContextRow.initializeChild.inj (Option.some.inj predicted)).symm
          have earlier := before.congr ends.remembers
            (fun j f _ inside found => ends.spares (by omega) found)
            (List.forall₂_same.2 fun c _ => .refl c)
          have later := after.congr ends.remembers
            (fun j f outside _ found => ends.spares (by omega) found)
            (persists_remainder chain m.tracer.incarnations m.tracer.stamp outcome.success l)
          obtain ⟨sameCall, captured, further⟩ := pending.sameCall_parting scenario chain m.world
            m.tracer.incarnations
          have still : (spawner.parting chain m.world m.tracer.incarnations l.context).scenario =
              .contractUndefined := (CallSection.scenario_parting ..).trans scenario
          have answers := CallSection.persists_answered still chain m'.world
            m.tracer.incarnations frame outcome
          obtain ⟨g, found, birth, ended⟩ := ends.frames _ _ made.found
          rw [if_pos number] at ended
          have same : g.id = child.id := congrArg (fun b => b.1) birth
          rw [callsOf_add, ends.next]
          refine earlier.append ?_
          rw [← same] at later ⊢
          refine .spawn ?_ ?_ ?_ later
          · rw [answers.spawns, sameCall.spawns]
            exact spawns
          · refine made.later (sameCall.trans answers.toSameCall) ends.remembers found birth
              fun _ => ?_
            rw [answers.captured, captured, ended]
            rfl
          · rw [same]
            exact answers.names _ (further _ names)

/-- **The root context** was spawned by no call. -/
theorem Finished.numbered_root (running : Running m tx older launch l [])
    {outcome : ContextOutcome} (finished : Finished chain m tx older launch outcome l [] m')
    (numbered : m.tracer.contexts.Numbered 2 (callsOf [l]) m.tracer.contexts.nextId) :
    m'.tracer.contexts.Numbered 2 (l.remainder chain
      (l.incarnationsAfter m.tracer.incarnations) m.tracer.stamp outcome.success)
      m'.tracer.contexts.nextId := by
  have root : l.context = LaunchSection.rootContext := by
    cases running.stacked with
    | root _ _ number => exact number
  rw [running.callsOf_root] at numbered
  cases finished with
  | root _ _ _ _ ends =>
      rw [ends.next]
      refine numbered.congr ends.remembers (fun j f after _ found => ends.spares ?_ found)
        (persists_remainder ..)
      rw [root, LaunchSection.rootContext]
      omega

end Running

/-- **The calls of a transaction are numbered** as long as it executes code. -/
theorem Opening.keepsNumbered (o : Opening) :
    Preserved o fun m l outer => (Running m o.tx o.older o.launch l outer ∧ l.Scripted) ∧
      m.tracer.contexts.Numbered 2 (callsOf (l :: outer)) m.tracer.contexts.nextId where
  running h := h.1
  called := by
    rintro m l outer frame i c m' ⟨⟨running, scripted⟩, numbered⟩ called
    obtain ⟨l', outer', running', scripted', numbered'⟩ := called.numbered running scripted numbered
    exact ⟨l', outer', ⟨running', scripted'⟩, numbered'⟩
  returned := by
    rintro m l below outer outcome m' ⟨⟨running, scripted⟩, numbered⟩ finished
    obtain ⟨l', running', scripted', numbered'⟩ := finished.numbered running scripted numbered
    exact ⟨l', outer, ⟨running', scripted'⟩, numbered'⟩

/-! ## The end of a transaction -/

namespace Machine

/-- The calls that have spawned contexts since a machine was like another one. -/
def spawningSince (idle m : Machine) : List CallSection :=
  (idle.callsSince m).filter CallSection.spawns

/-- **Something about every call that spawned a context**, and the number of a context: the root
is the first one, the first of these calls comes with the second one, and so on. -/
def SpawningCalls (idle m : Machine) (P : Nat → CallSection → Prop) : Prop :=
  ∀ (k : Nat) (c : CallSection), (idle.spawningSince m)[k]? = some c → P (k + 2) c

/-- **The calls that spawn contexts are, in order, those that the contexts but the root were
spawned by.** -/
structure SpawnsInOrder (idle m : Machine) : Prop where
  count : m.tracer.contexts.frames.size = (idle.spawningSince m).length + 1
  spawned : idle.SpawningCalls m fun id c =>
    ∃ child, child.id = id ∧ c.HasChild m.tracer.contexts child

variable {idle m closed : Machine} {calls : List CallSection}

/-- Between two steps, every call that spawned a context is going to name it. -/
theorem spawnsInOrder_of_numbered (since : idle.callsSince m = calls)
    (numbered : m.tracer.contexts.Numbered 2 calls m.tracer.contexts.nextId) :
    idle.SpawnsInOrder m ∧ idle.SpawningCalls m CallSection.Names := by
  rw [← since] at numbered
  refine ⟨⟨?_, fun k c found => ?_⟩, fun k c found => ?_⟩
  · have stop := numbered.stop_eq
    unfold ContextTree.nextId at stop
    unfold spawningSince
    omega
  · obtain ⟨child, number, spawned, -⟩ := numbered.of_getElem? found
    exact ⟨child, number.trans (Nat.add_comm 2 k), spawned⟩
  · obtain ⟨-, -, -, names⟩ := numbered.of_getElem? found
    rwa [Nat.add_comm 2 k] at names

/-- **Once the transaction is over**, every call that spawned a context has named it. -/
theorem spawnsInOrder_of_shut (since : idle.callsSince m = calls)
    (later : idle.callsSince closed = calls.map CallSection.shut)
    (contexts : closed.tracer.contexts = m.tracer.contexts) (inOrder : idle.SpawnsInOrder m)
    (names : idle.SpawningCalls m CallSection.Names) :
    idle.SpawnsInOrder closed ∧ idle.SpawningCalls closed CallSection.Reports := by
  have shut : idle.spawningSince closed = (idle.spawningSince m).map CallSection.shut := by
    have same : CallSection.spawns ∘ CallSection.shut = CallSection.spawns :=
      funext fun c => c.sameCall_shut.1.spawns
    rw [spawningSince, spawningSince, later, since, List.filter_map, same]
  have before : ∀ {k : Nat} {c' : CallSection}, (idle.spawningSince closed)[k]? = some c' →
      ∃ c, (idle.spawningSince m)[k]? = some c ∧ c.shut = c' := by
    intro k c' found
    rw [shut, List.getElem?_map] at found
    exact Option.map_eq_some_iff.1 found
  refine ⟨⟨?_, fun k c' found => ?_⟩, fun k c' found => ?_⟩
  · rw [contexts, shut, List.length_map]
    exact inOrder.count
  · obtain ⟨c, earlier, rfl⟩ := before found
    obtain ⟨child, number, spawned⟩ := inOrder.spawned k c earlier
    obtain ⟨sameCall, captured⟩ := c.sameCall_shut
    refine ⟨child, number, ?_⟩
    rw [contexts]
    refine spawned.later sameCall (.refl _) spawned.found rfl fun contract => ?_
    rw [captured]
    exact spawned.captured contract
  · obtain ⟨c, earlier, rfl⟩ := before found
    exact (names k c earlier).reports

end Machine

namespace Passage

variable {chain : Chain}

/-- A transaction starts without calls. -/
theorem Opened.numbered {p : Passage chain} {o : Opening} (opened : p.Opened o) :
    (Running p.begun o.tx o.older o.launch o.rootLevel [] ∧ o.rootLevel.Scripted) ∧
      p.begun.tracer.contexts.Numbered 2 (callsOf [o.rootLevel])
        p.begun.tracer.contexts.nextId := by
  refine ⟨⟨opened.running, fun c spawner => by cases spawner⟩, ?_⟩
  rw [opened.contexts]
  exact .nil 2

/-- **A call says which context it will spawn before that context exists, and is right.**  The
calls of a transaction that are neither exceptional nor aborted are, in the order of the trace,
those that its contexts but the root were spawned by, in the order of their numbers.  At every
instant they are going to name them in their last rows, and a call announced now is going to name
the next one; when the transaction is over, they have done so. -/
theorem calls_spawn_in_order (p : Passage chain) :
    p.idle.SpawnsInOrder p.present ∧
      p.idle.SpawningCalls p.present CallSection.Names ∧
      p.present.tracer.Predicts chain ∧
      ∀ gasUsed closed, (Action.settle gasUsed).carryOut chain p.present = .ok () closed →
        p.idle.SpawnsInOrder closed ∧ p.idle.SpawningCalls closed CallSection.Reports := by
  obtain ⟨o, opened⟩ := p.opened
  -- Either way, the calls of the transaction number its contexts.
  have numbered : ∃ calls, p.idle.callsSince p.present = calls ∧
      p.present.tracer.contexts.Numbered 2 calls p.present.tracer.contexts.nextId := by
    rcases opened.present_of_preserved o.keepsNumbered opened.numbered with
      ⟨l, outer, ⟨running, -⟩, numbered⟩ |
      ⟨leaving, root, outcome, ⟨⟨running, -⟩, numbered⟩, finished⟩
    · exact ⟨_, Machine.callsSince_eq opened.older running.tracing.sections, numbered⟩
    · refine ⟨_, ?_, finished.numbered_root running numbered⟩
      cases finished with
      | root ended => exact Machine.callsSince_eq opened.older ended.tracing.sections
  obtain ⟨calls, since, numbered⟩ := numbered
  obtain ⟨inOrder, names⟩ := Machine.spawnsInOrder_of_numbered since numbered
  refine ⟨inOrder, names, p.present.tracer.predicts chain, fun gasUsed closed settles => ?_⟩
  obtain ⟨leaving, root, outcome, revertStamp, -, finished, settled⟩ :=
    opened.closed_of_preserved o.keepsNumbered opened.numbered settles
  refine Machine.spawnsInOrder_of_shut since ?_ settled.contexts inOrder names
  cases finished with
  | root ended =>
      obtain rfl := since.symm.trans (Machine.callsSince_eq opened.older ended.tracing.sections)
      exact Machine.callsSince_eq opened.older settled.sections

/-- A contract calls another one twice, and each call spawns a context. -/
theorem two_calls_spawn_in_order : ∃ (p : Passage .ethereum) (gasUsed : UInt64) (closed : Machine),
    (Action.settle gasUsed).carryOut .ethereum p.present = .ok () closed ∧
      (p.idle.spawningSince closed).length = 2 ∧
      p.idle.SpawnsInOrder closed ∧ p.idle.SpawningCalls closed CallSection.Reports := by
  have evaluated : Script.stage.rehearse .ethereum (Script.messageCall Script.sender 0xc0de 1)
      Script.calledTwice .failed 30000 (fun idle _ closed =>
        (idle.spawningSince closed).length = 2) = true := by
    decide +kernel
  obtain ⟨run, -, seen⟩ := Machine.exists_episode Script.reachable_stage evaluated
  obtain ⟨-, -, -, ended⟩ := run.passage.calls_spawn_in_order
  obtain ⟨inOrder, reports⟩ := ended run.gasUsed run.closed run.ends
  exact ⟨run.passage, run.gasUsed, run.closed, run.ends, of_decide_eq_true seen, inOrder, reports⟩

end Passage

end ExecutionTrace
