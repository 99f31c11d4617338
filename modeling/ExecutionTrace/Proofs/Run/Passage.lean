import ExecutionTrace.Proofs.Run.Rehearsal
import ExecutionTrace.Proofs.Run.Stages

/-!
# Instants of a transaction

What holds between any two steps of a transaction, whether it will ever be ended or not.  At such
an instant either some contexts are active, or the root context has been finished.

## Main Definitions

* `Passage` — a transaction that executes code, up to an instant between two of its steps
* `Episode.passage` — a transaction that is carried out to its end
* `Passage.Opened.present_of_preserved` — what is preserved holds at every instant, or held just
  before the root context was finished
* `Passage.Opened.closed_of_preserved` — a transaction that is ended has had its root context
  finished
* `Machine.callsSince_eq` — the calls of a transaction are those of its trace
-/

namespace ExecutionTrace

variable {chain : Chain}

/-- **A transaction that executes code, up to an instant between two of its steps.** -/
structure Passage (chain : Chain) where
  tx : Transaction
  /-- Before the transaction starts. -/
  idle : Machine
  /-- After it has started. -/
  begun : Machine
  /-- The instant. -/
  present : Machine
  reachable : Reachable chain idle
  free : idle.Allows (.start tx)
  executing : tx.requiresExecution idle.world = true
  starts : (Action.start tx).carryOut chain idle = .ok () begun
  runs : Executes chain begun present

/-- A transaction that is carried out to its end, up to that end. -/
def Episode.passage (run : Episode chain) : Passage chain where
  tx := run.tx
  idle := run.idle
  begun := run.begun
  present := run.closing
  reachable := run.reachable
  free := run.free
  executing := run.executing
  starts := run.starts
  runs := (run.runs.finish run.leaves).trans run.lingers

/-- The calls that a trace has beyond those of an earlier one. -/
theorem Machine.callsSince_eq {idle m : Machine} {older : List Section} {launch : LaunchSection}
    {calls : List CallSection} (since : older = idle.tracer.sections.toList)
    (sections : m.tracer.sections.toList = older ++ .launch launch :: calls.map .call) :
    idle.callsSince m = calls := by
  rw [callsSince, sections, since, ← Array.length_toList, List.drop_left, List.filterMap_cons]
  dsimp only
  rw [List.filterMap_map]
  exact List.filterMap_some

namespace Passage

/-- **How a transaction was started.** -/
structure Opened (p : Passage chain) (o : Opening) : Prop where
  chain : o.chain = chain
  older : o.older = p.idle.tracer.sections.toList
  running : Running p.begun o.tx o.older o.launch o.rootLevel []
  contexts : p.begun.tracer.contexts = ({} : ContextTree).enter o.tx.rootEntry

theorem opened (p : Passage chain) : ∃ o, p.Opened o := by
  obtain ⟨-, begun⟩ := p.reachable.begun p.free p.starts
  cases begun with
  | skipping skips =>
      rw [p.executing] at skips
      cases skips
  | @running s row incarnations _ _ running _ _ _ contexts =>
      exact ⟨⟨chain, p.tx, p.idle.tracer.sections.toList, { s with root? := some row },
        incarnations, p.idle.world⟩, rfl, rfl, running, contexts⟩

/-- **What is preserved holds at every instant**, or held just before the root context was
finished. -/
theorem Opened.present_of_preserved {p : Passage chain} {o : Opening} (opened : p.Opened o)
    {P : Machine → Level → List Level → Prop} (preserved : Preserved o P)
    (begins : P p.begun o.rootLevel []) :
    (∃ l outer, P p.present l outer) ∨
      ∃ leaving root outcome, P leaving root [] ∧
        Running.Finished o.chain leaving o.tx o.older o.launch outcome root [] p.present :=
  preserved.executes_or_finishes (opened.chain ▸ p.runs) begins

/-- **A transaction that is ended** has had its root context finished. -/
theorem Opened.closed_of_preserved {p : Passage chain} {o : Opening} (opened : p.Opened o)
    {P : Machine → Level → List Level → Prop} (preserved : Preserved o P)
    (begins : P p.begun o.rootLevel []) {gasUsed : UInt64} {closed : Machine}
    (settles : (Action.settle gasUsed).carryOut chain p.present = .ok () closed) :
    ∃ leaving root outcome revertStamp, P leaving root [] ∧
      Running.Finished o.chain leaving o.tx o.older o.launch outcome root [] p.present ∧
      Ended.Closed p.present o.tx o.older o.launch (root.remainder o.chain
        (root.incarnationsAfter leaving.tracer.incarnations) leaving.tracer.stamp outcome.success)
        outcome gasUsed revertStamp closed := by
  rcases opened.present_of_preserved preserved begins with
    ⟨l, outer, holds⟩ | ⟨leaving, root, outcome, holds, finished⟩
  -- As long as a context is active, the transaction cannot be ended.
  · have fails : Yields ((Action.settle gasUsed).carryOut chain p.present) _ _ :=
      (preserved.running holds).1.endTransaction_yields gasUsed
    exact (fails.value settles).elim
  · cases finished with
    | root ended world stamp incarnations ends =>
        have yields : Yields ((Action.settle gasUsed).carryOut chain p.present) _ _ :=
          ended.endTransaction_yields gasUsed (E := fun _ => True)
        obtain ⟨revertStamp, closed⟩ := yields.value settles
        exact ⟨leaving, root, outcome, revertStamp, holds,
          .root ended world stamp incarnations ends, closed⟩

end Passage

end ExecutionTrace
