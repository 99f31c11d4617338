import ExecutionTrace.Proofs.Context.Reversion
import ExecutionTrace.Proofs.Launch.Announcement
import ExecutionTrace.Proofs.Tracer.Announcements

/-!
# The levels of a run

While a transaction executes, its active contexts are nested.  Each of them remembers the world
that a failure puts back, the call that spawned it, and the calls that were made since it was
entered and are over.

## Main Definitions

* `Level`, `callsOf` — one active context, and the calls of all of them in the order of their
  announcement
* `Stacked` — levels that fit a tree of contexts
* `Idle`, `Skipping`, `Running`, `Ended` — what a machine can be like between two steps

## Design Notes

Levels are ghosts: nothing in the machine says which call spawned a context or where in the trace
the calls of a context begin.  Numbers of contexts say it all, since they are handed out in the
order of entry: the calls of the innermost context and of those that have returned to it are the
ones made from a number not below its own.
-/

namespace ExecutionTrace

/-- **An active context**, with the calls made since it was entered. -/
structure Level where
  /-- The number of the context. -/
  context : Nat
  entry : ContextEntry
  /-- The world that a failure of the context puts back. -/
  checkpoint : WorldState
  /-- The call that spawned the context; the root has none. -/
  spawner? : Option CallSection
  /-- The calls that are over, made from the context or from those below it. -/
  settled : List CallSection

namespace Level

/-- The calls that a level contributes to the trace. -/
def calls (l : Level) : List CallSection :=
  l.spawner?.toList ++ l.settled

/-- A level with further calls that are over. -/
def add (l : Level) (more : List CallSection) : Level :=
  { l with settled := l.settled ++ more }

/-- The context executes code, so nothing but the script finishes it. -/
def Scripted (l : Level) : Prop :=
  ∀ c, l.spawner? = some c → c.scenario = .contractUndefined

end Level

/-- **The calls of all levels**, the innermost level being given first, in the order of their
announcement. -/
def callsOf : List Level → List CallSection
  | [] => []
  | l :: outer => callsOf outer ++ l.calls

theorem callsOf_add (l : Level) (outer : List Level) (more : List CallSection) :
    callsOf (l.add more :: outer) = callsOf (l :: outer) ++ more := by
  simp [callsOf, Level.calls, Level.add]

/-- The calls of a level that was spawned by a call. -/
theorem mem_callsOf_cons {l : Level} {outer : List Level} {spawner c : CallSection}
    (spawned : l.spawner? = some spawner) :
    c ∈ callsOf (l :: outer) ↔ c ∈ callsOf outer ∨ c = spawner ∨ c ∈ l.settled := by
  simp [callsOf, Level.calls, spawned]

/-- What levels rely on of a frame: where it was entered from, that it has been neither rolled
back nor left, and its entry. -/
def Frame.station (f : Frame) :
    Option Nat × Option Nat × Option ContextOutcome × ContextEntry :=
  (f.parent?, f.revertStamp?, f.outcome?, f.entry)

/-- A context that has not been rolled back. -/
def ContextTree.Unreverted (t : ContextTree) (id : Nat) : Prop :=
  ∃ f, t.frame? id = some f ∧ f.revertStamp? = none

theorem ContextTree.Unreverted.congr {t u : ContextTree} {id : Nat} (h : t.Unreverted id)
    (same : (u.frame? id).map Frame.station = (t.frame? id).map Frame.station) :
    u.Unreverted id := by
  obtain ⟨f, hf, clean⟩ := h
  rw [hf, Option.map_some] at same
  obtain ⟨g, hg, station⟩ := Option.map_eq_some_iff.1 same
  have stamp : g.revertStamp? = f.revertStamp? := congrArg (fun s => s.2.1) station
  exact ⟨g, hg, stamp.trans clean⟩

theorem ContextTree.Unreverted.hasReverted_eq {t : ContextTree} {id : Nat}
    (h : t.Unreverted id) : t.hasReverted id = false := by
  obtain ⟨f, hf, clean⟩ := h
  rw [hasReverted, hf, Option.any_some, Frame.hasReverted, clean]
  rfl

/-- The station of a frame says whether its context has been rolled back. -/
theorem ContextTree.hasReverted_congr {t u : ContextTree} {id : Nat}
    (same : (u.frame? id).map Frame.station = (t.frame? id).map Frame.station) :
    u.hasReverted id = t.hasReverted id := by
  have stamped : ∀ f? : Option Frame, f?.any (·.hasReverted) =
      (f?.map Frame.station).any fun s => s.2.1.isSome := by
    intro f?
    cases f? <;> rfl
  rw [hasReverted, hasReverted, stamped, stamped, same]

/-- **A call says of its context what its frame says**: the call stands until the context is rolled
back, and is undone when it is. -/
structure ContextTree.Tells (t : ContextTree) (c : CallSection) : Prop where
  standing : c.Standing → t.Unreverted c.shared.context
  undone : c.Undone → t.hasReverted c.shared.context = true

theorem ContextTree.Tells.congr {t u : ContextTree} {c : CallSection} (h : t.Tells c)
    (same : (u.frame? c.shared.context).map Frame.station =
      (t.frame? c.shared.context).map Frame.station) : u.Tells c where
  standing standing := (h.standing standing).congr same
  undone undone := (hasReverted_congr same).trans (h.undone undone)

/-- Nothing is undone in a context that has not been rolled back. -/
theorem ContextTree.Unreverted.tells {t : ContextTree} {c : CallSection}
    (h : t.Unreverted c.shared.context) (intact : ¬c.Undone) : t.Tells c where
  standing _ := h
  undone undone := absurd undone intact

/-- Calls that are over, made from contexts with numbers of a range. -/
def SettledWithin (t : ContextTree) (start stop : Nat) (calls : List CallSection) : Prop :=
  ∀ c ∈ calls, c.Resolved ∧ start ≤ c.shared.context ∧ c.shared.context < stop ∧ t.Tells c

theorem SettledWithin.nil (t : ContextTree) (start stop : Nat) : SettledWithin t start stop [] := by
  intro c hc
  cases hc

/-- **A level that fits a tree of contexts**, of which the numbers up to a bound belong to it and
the levels outside of it. -/
structure Level.Sound (t : ContextTree) (stop : Nat) (parent? : Option Nat) (l : Level) :
    Prop where
  station : (t.frame? l.context).map Frame.station = some (parent?, none, none, l.entry)
  inside : l.context < stop
  settled : SettledWithin t l.context stop l.settled

theorem Level.Sound.unreverted {t : ContextTree} {stop : Nat} {parent? : Option Nat} {l : Level}
    (sound : l.Sound t stop parent?) : t.Unreverted l.context := by
  obtain ⟨f, hf, station⟩ := Option.map_eq_some_iff.1 sound.station
  exact ⟨f, hf, congrArg (fun s => s.2.1) station⟩

/-- **Levels that fit a tree of contexts**, the innermost first. -/
inductive Stacked (t : ContextTree) (tx : Transaction) : Nat → List Level → Prop
  | root {stop : Nat} {l : Level} (sound : l.Sound t stop none) (spawner : l.spawner? = none)
      (number : l.context = LaunchSection.rootContext)
      (deployment : l.entry.isDeployment = tx.isDeployment)
      (address : l.entry.address = tx.recipient) : Stacked t tx stop [l]
  | above {stop : Nat} {l below : Level} {outer : List Level} {spawner : CallSection}
      (sound : l.Sound t stop (some below.context)) (spawned : l.spawner? = some spawner)
      (pending : spawner.Pending l.context) (home : spawner.shared.context = below.context)
      (plain : l.entry.isDeployment = false) (rest : Stacked t tx l.context (below :: outer)) :
      Stacked t tx stop (l :: below :: outer)

namespace Stacked

variable {t u : ContextTree} {tx : Transaction} {stop : Nat} {l : Level} {outer : List Level}

theorem sound (h : Stacked t tx stop (l :: outer)) :
    l.Sound t stop (outer.head?.map (·.context)) := by
  cases h with
  | root sound => exact sound
  | above sound => exact sound

/-- **Every call of a level is over, or waits for the return from an active context.** -/
theorem mem_callsOf (h : Stacked t tx stop (l :: outer)) {c : CallSection}
    (hc : c ∈ callsOf (l :: outer)) :
    c.shared.context < stop ∧ (c.Resolved ∨
      ∃ child, c.Pending child ∧ c.shared.context < child ∧ child ≤ l.context) := by
  induction outer generalizing stop l with
  | nil =>
      cases h with
      | root sound spawner =>
          have settled : c ∈ l.settled := by simpa [callsOf, Level.calls, spawner] using hc
          obtain ⟨resolved, -, before, -⟩ := sound.settled c settled
          exact ⟨before, .inl resolved⟩
  | cons below outer ih =>
      cases h with
      | @above _ _ _ _ spawner sound spawned pending home _ rest =>
          have nested := rest.sound.inside
          have inside := sound.inside
          rcases (mem_callsOf_cons spawned).1 hc with older | rfl | settled
          · obtain ⟨before, resolved | ⟨child, isPending, above, active⟩⟩ := ih rest older
            · exact ⟨by omega, .inl resolved⟩
            · exact ⟨by omega, .inr ⟨child, isPending, above, by omega⟩⟩
          · exact ⟨by omega, .inr ⟨_, pending, by omega, Nat.le_refl _⟩⟩
          · obtain ⟨resolved, -, before, -⟩ := sound.settled c settled
            exact ⟨before, .inl resolved⟩

/-- The call that spawned the innermost context waits for the return from it. -/
theorem spawner_pending (h : Stacked t tx stop (l :: outer)) {spawner : CallSection}
    (spawned : l.spawner? = some spawner) : spawner.Pending l.context := by
  cases h with
  | root _ none =>
      rw [none] at spawned
      cases spawned
  | above _ same pending =>
      obtain rfl := Option.some.inj (same.symm.trans spawned)
      exact pending

/-- **What calls wait for between two steps**: for the rollback of the context that they were made
from, for the end of the transaction, or for the return from an active context. -/
theorem mem_awaits (h : Stacked t tx stop (l :: outer)) {c : CallSection}
    (hc : c ∈ callsOf (l :: outer)) {e : Event} (waits : e ∈ c.awaits) :
    e = .rollback c.shared.context ∨ e = .transactionClosed ∨
      ∃ child, c.Pending child ∧ c.shared.context < child ∧ child ≤ l.context ∧
        (e = .contextReEntry c.shared.context ∨ e = .contextExit child) := by
  rcases (h.mem_callsOf hc).2 with resolved | ⟨child, pending, nested, active⟩
  · exact (resolved.mem_awaits waits).imp And.right .inl
  · exact (pending.mem_awaits waits).imp_right fun rest =>
      rest.imp_right fun same => ⟨child, pending, nested, active, same⟩

/-- Between two steps no call waits for a context to be entered. -/
theorem no_contextEntry (h : Stacked t tx stop (l :: outer)) :
    ∀ c ∈ callsOf (l :: outer), .contextEntry ∉ c.awaits := by
  intro c hc waits
  rcases h.mem_awaits hc waits with same | same | ⟨_, -, -, -, same | same⟩ <;> cases same

/-- Between two steps no call waits for its instruction to be executed. -/
theorem no_opcodeEnd (h : Stacked t tx stop (l :: outer)) :
    ∀ c ∈ callsOf (l :: outer), .opcodeEnd ∉ c.awaits := by
  intro c hc waits
  rcases h.mem_awaits hc waits with same | same | ⟨_, -, -, -, same | same⟩ <;> cases same

/-- A call that waits for the termination of a context has spawned it, and the context is
active. -/
theorem pending_of_contextExit (h : Stacked t tx stop (l :: outer)) {id : Nat} :
    ∀ c ∈ callsOf (l :: outer), .contextExit id ∈ c.awaits → c.Pending id ∧ id ≤ l.context := by
  intro c hc waits
  rcases h.mem_awaits hc waits with same | same | ⟨child, pending, -, active, same | same⟩
  all_goals cases same
  exact ⟨pending, active⟩

/-- Control can only return to a context entered before the active one. -/
theorem lt_of_contextReEntry (h : Stacked t tx stop (l :: outer)) {id : Nat} :
    ∀ c ∈ callsOf (l :: outer), .contextReEntry id ∈ c.awaits → id < l.context := by
  intro c hc waits
  rcases h.mem_awaits hc waits with same | same | ⟨child, -, nested, active, same | same⟩
  all_goals cases same
  exact Nat.lt_of_lt_of_le nested active

/-- The root context is active. -/
theorem root_active (h : Stacked t tx stop (l :: outer)) :
    ∃ f, t.frame? LaunchSection.rootContext = some f ∧ f.outcome? = none := by
  induction outer generalizing stop l with
  | nil =>
      cases h with
      | root sound _ number =>
          obtain ⟨f, hf, station⟩ := Option.map_eq_some_iff.1 sound.station
          exact ⟨f, number ▸ hf, congrArg (fun s => s.2.2.1) station⟩
  | cons below outer ih =>
      cases h with
      | above _ _ _ _ _ rest => exact ih rest

/-- The root context has not been rolled back. -/
theorem root_unreverted (h : Stacked t tx stop (l :: outer)) :
    t.hasReverted LaunchSection.rootContext = false := by
  induction outer generalizing stop l with
  | nil =>
      cases h with
      | root sound _ number => exact number ▸ sound.unreverted.hasReverted_eq
  | cons below outer ih =>
      cases h with
      | above _ _ _ _ _ rest => exact ih rest

/-! ## Levels and changing trees -/

theorem congr (h : Stacked t tx stop (l :: outer))
    (same : ∀ id, id < stop → (u.frame? id).map Frame.station = (t.frame? id).map Frame.station) :
    Stacked u tx stop (l :: outer) := by
  have settled : ∀ {start stop' calls}, stop' ≤ stop → SettledWithin t start stop' calls →
      SettledWithin u start stop' calls := by
    intro start stop' calls below within_ c hc
    obtain ⟨resolved, after, before, tells⟩ := within_ c hc
    exact ⟨resolved, after, before, tells.congr (same _ (by omega))⟩
  induction outer generalizing stop l with
  | nil =>
      cases h with
      | root sound spawner number deployment address =>
          refine .root ⟨?_, sound.inside, settled (Nat.le_refl _) sound.settled⟩ spawner number
            deployment address
          rw [same _ sound.inside]
          exact sound.station
  | cons below outer ih =>
      cases h with
      | above sound spawned pending home plain rest =>
          have inside := sound.inside
          refine .above ⟨?_, sound.inside, settled (Nat.le_refl _) sound.settled⟩ spawned pending
            home plain (ih rest ?_ ?_)
          · rw [same _ sound.inside]
            exact sound.station
          · exact fun id before => same id (by omega)
          · exact fun below' within_ => settled (by omega) within_

/-- **Further calls that are over** join the innermost level. -/
theorem add (h : Stacked t tx stop (l :: outer)) {stop' : Nat} (later : stop ≤ stop')
    {more : List CallSection} (within_ : SettledWithin t l.context stop' more) :
    Stacked t tx stop' (l.add more :: outer) := by
  have inside := h.sound.inside
  have joined : SettledWithin t l.context stop' (l.settled ++ more) := by
    intro c hc
    rcases List.mem_append.1 hc with old | new
    · obtain ⟨resolved, after, before, tells⟩ := h.sound.settled c old
      exact ⟨resolved, after, by omega, tells⟩
    · exact within_ c new
  have bound : l.context < stop' := by omega
  cases h with
  | root sound spawner number deployment address =>
      exact .root ⟨sound.station, bound, joined⟩ spawner number deployment address
  | above sound spawned pending home plain rest =>
      exact .above ⟨sound.station, bound, joined⟩ spawned pending home plain rest

end Stacked

/-! ## Machines between two steps -/

/-- **No transaction is in progress.** -/
structure Idle (m : Machine) : Prop where
  transaction : m.transaction? = none
  attuned : m.tracer.Attuned
  silent : ∀ s ∈ m.tracer.sections, s.awaits = []
  checkpoints : m.checkpoints = []
  quiet : m.tracer.incarnations.Quiet

/-- **A transaction that runs no code** is in progress. -/
structure Skipping (m : Machine) (tx : Transaction) (older : List Section)
    (settlement : SettlementSection) : Prop where
  transaction : m.transaction? = some tx
  tracing : m.tracer.transaction? = some tx
  skipped : m.skipped = true
  sections : m.tracer.sections.toList = older ++ [.settlement settlement]
  attuned : m.tracer.Attuned
  silent : ∀ s ∈ older, s.awaits = []
  waits : settlement.trace.isEmpty = true
  contexts : m.tracer.contexts.current? = none
  checkpoints : m.checkpoints = []
  quiet : m.tracer.incarnations.Quiet

/-- **A transaction is executing code**, its active contexts being the levels, the innermost
given first. -/
structure Running (m : Machine) (tx : Transaction) (older : List Section) (launch : LaunchSection)
    (l : Level) (outer : List Level) : Prop where
  transaction : m.transaction? = some tx
  traced : m.tracer.transaction? = some tx
  executing : m.skipped = false
  tracing : Tracing m.tracer older launch (callsOf (l :: outer))
  wellFormed : m.tracer.contexts.WellFormed
  truthful : m.tracer.contexts.Truthful
  current : m.tracer.contexts.current? = some l.context
  stacked : Stacked m.tracer.contexts tx m.tracer.contexts.nextId (l :: outer)
  checkpoints : m.checkpoints = (l :: outer).map (·.checkpoint)
  scripted : ∀ x ∈ outer, x.Scripted
  /-- The accounts that active contexts act on are warm, and a failure leaves those of the
  contexts outside of it warm. -/
  warm : ∀ x ∈ l :: outer, m.world.isWarm x.entry.address = true
  warmBelow : (l :: outer).Pairwise fun x y => x.checkpoint.isWarm y.entry.address = true
  deploying : ∀ a, m.tracer.incarnations.isDeploying a = true →
    tx.isDeployment = true ∧ a = tx.recipient

/-- **The root context of a transaction has been finished**, and the transaction is to end. -/
structure Ended (m : Machine) (tx : Transaction) (older : List Section) (launch : LaunchSection)
    (calls : List CallSection) (outcome : ContextOutcome) : Prop where
  transaction : m.transaction? = some tx
  traced : m.tracer.transaction? = some tx
  executing : m.skipped = false
  tracing : Tracing m.tracer older launch calls
  current : m.tracer.contexts.current? = none
  wellFormed : m.tracer.contexts.WellFormed
  truthful : m.tracer.contexts.Truthful
  resolved : ∀ c ∈ calls, c.Resolved
  told : ∀ c ∈ calls, m.tracer.contexts.Tells c
  made : ∀ c ∈ calls, ∃ f, m.tracer.contexts.frame? c.shared.context = some f
  root : ∃ f, m.tracer.contexts.frame? LaunchSection.rootContext = some f ∧
    f.outcome? = some outcome ∧ (outcome.success = false → f.revertStamp = m.tracer.stamp)
  checkpoints : m.checkpoints = []
  quiet : m.tracer.incarnations.Quiet

end ExecutionTrace
