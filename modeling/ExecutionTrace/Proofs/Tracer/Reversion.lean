import ExecutionTrace.Proofs.Context.Stamps
import ExecutionTrace.Proofs.Tracer.Rejection

/-!
# Rolled back once and for all

A driver may roll back contexts in any order, at any time, and again.  A context that has been
rolled back once is over: its frame does not change any more, whatever is announced, and its stamp
tells when it, or a context above it, was rolled back for the first time.

## Main Definitions

* `Tracer.reversals` — the rollbacks that a driver has had made, since contexts were last forgotten
* `Tracer.Shifts` — what an operation does to the contexts
* `Tracer.stamped_after` — after any operation, stamps tell the first rollbacks
* `Tracer.rollBack_again` — a rollback that has succeeded changes nothing when it is made again
* `Tracer.drive_reversions` — all of this for any driver

## Design Notes

A rollback is made as soon as the context turns out to have failed.  The sections that wait for it
react afterwards, and one of them may fail, but by then the frames carry their stamps.  So it is the
failure of the context that decides whether a rollback is in the log, not the fate of the sections.
-/

namespace ExecutionTrace

open ContextTree (Reversal)

/-! ## Events without a place on the agenda -/

/-- **An event has no place on the agenda**, so that taking it changes nothing. -/
def Agenda.Lacks (a : Agenda) (e : Event) : Prop :=
  a.take e = ([], a)

/-- A place that is erased, or was not there, is not there when one has been erased. -/
theorem Agenda.place_erase {store : Std.ExtTreeMap Nat (List Nat)} {c d : Nat}
    (missing : c = d ∨ store.getD c [] = [] ∧ store.erase c = store) :
    (store.erase d).getD c [] = [] ∧ (store.erase d).erase c = store.erase d := by
  have nothing : (store.erase d)[c]? = none := by
    rcases missing with rfl | ⟨-, same⟩
    · exact Std.ExtTreeMap.getElem?_erase_self
    · rw [Std.ExtTreeMap.getElem?_erase, ← same, Std.ExtTreeMap.getElem?_erase_self, ite_self]
  refine ⟨by rw [Std.ExtTreeMap.getD_eq_getD_getElem?, nothing]; rfl, ?_⟩
  refine Std.ExtTreeMap.ext_getElem? fun k => ?_
  rw [Std.ExtTreeMap.getElem?_erase]
  split
  · rename_i here
    rw [← Std.LawfulEqCmp.compare_eq_iff_eq.1 here, nothing]
  · rfl

/-- An event that has been taken has no place any longer, and no other event gets one. -/
theorem Agenda.lacks_take {a : Agenda} {e f : Event} (missing : e = f ∨ a.Lacks e) :
    (a.take f).2.Lacks e := by
  obtain ⟨_, _, _, _, _, _, _⟩ := a
  cases e <;> cases f <;> simp_all [Lacks, take] <;> exact place_erase missing

/-! ## The rollbacks of a driver -/

/-- The contexts so far are forgotten: those of another transaction are counted anew. -/
def Operation.forgets : Operation → Bool
  | .startConflation => true
  | .beginTransaction _ _ => true
  | _ => false

namespace Tracer

/-- The log of rollbacks after an operation.  A rollback is made if the context has failed, at the
present stamp; otherwise it is rejected. -/
def logged (t : Tracer) (log : List Reversal) : Operation → List Reversal
  | .rollBack _ context =>
      if t.contexts.hasFailed context then log ++ [⟨context, t.stamp⟩] else log
  | operation => if operation.forgets then [] else log

/-- The log of rollbacks after a sequence of operations. -/
def reversalsFrom (chain : Chain) : Tracer → List Reversal → List Operation → List Reversal
  | _, log, [] => log
  | t, log, operation :: operations =>
      reversalsFrom chain (t.after chain operation) (t.logged log operation) operations

/-- **The rollbacks that a driver has had made** since contexts were last forgotten, in order. -/
def reversals (chain : Chain) (operations : List Operation) : List Reversal :=
  reversalsFrom chain {} [] operations

variable {t t' : Tracer} {chain : Chain} {world : WorldState} {log : List Reversal}

/-! ## What an operation does to the contexts -/

/-- **What an operation does to the contexts**, whether it is accepted or rejected: they are
forgotten or kept, one is entered or ends, or a failed one is rolled back. -/
inductive Shifts (t : Tracer) : Operation → ContextTree → Prop
  | forgotten {operation : Operation} (forgets : operation.forgets = true) : Shifts t operation {}
  | kept {operation : Operation} (unlogged : ∀ log, t.logged log operation = log) :
      Shifts t operation t.contexts
  | entered (entry : ContextEntry) : Shifts t (.enterContext entry) (t.contexts.enter entry)
  | left (world : WorldState) (outcome : ContextOutcome) {f : Frame}
      (current : t.contexts.current? = some f.id) (found : t.contexts.frame? f.id = some f) :
      Shifts t (.exitContext world outcome) (t.contexts.left f outcome)
  | reverted (world : WorldState) {context : Nat} {u : ContextTree}
      (failed : t.contexts.hasFailed context = true)
      (reverts : t.contexts.Reverts u context t.stamp) : Shifts t (.rollBack world context) u

/-- Handing out an occurrence changes nothing of what sections are told. -/
theorem fire_setting (t : Tracer) (chain : Chain) (occurrence : Occurrence) :
    Leaves (fire chain occurrence t) fun t' => t'.toSetting = t.toSetting := by
  unfold fire
  dsimp only
  split <;> exact rfl

theorem fire_contexts (t : Tracer) (chain : Chain) (occurrence : Occurrence) :
    Leaves (fire chain occurrence t) fun t' => t'.contexts = t.contexts :=
  (fire_setting t chain occurrence).mono fun _ same => congrArg Setting.contexts same

/-- The sections are told of the rollbacks of several contexts, one after the other. -/
def fireRollbacks (chain : Chain) (world : WorldState) (contexts : ContextTree) (ids : List Nat) :
    Announcement Unit :=
  ids.forM fun id => do
    let frame ← ofExcept (contexts.get id)
    fire chain (.rollback world frame)

theorem fireRollbacks_contexts (t : Tracer) (chain : Chain) (world : WorldState) (u : ContextTree)
    (ids : List Nat) :
    Leaves (fireRollbacks chain world u ids t) fun t' => t'.contexts = t.contexts := by
  refine Ends.forM (fun id _ s same => ?_) rfl
  refine Leaves.ofExcept_bind same fun frame _ => ?_
  exact (fire_contexts s chain _).mono fun _ same' => same'.trans same

/-- **A rollback of a context that has failed** stamps the contexts concerned, and then tells the
sections. -/
theorem rollBack_eq {context : Nat} {u : ContextTree} {ids : List Nat}
    (failed : t.contexts.hasFailed context = true)
    (marked : t.contexts.markReverted context t.stamp = .ok u)
    (listed : u.subtree context = .ok ids) : rollBack chain world context t =
      fireRollbacks chain world u ids { t with contexts := u } := by
  obtain ⟨frame, found, own⟩ := (Option.any_eq_true _ _).1 failed
  unfold rollBack
  refine get_bind_eq.trans ((ofExcept_bind_eq (ContextTree.get_eq_ok found)).trans ?_)
  dsimp only
  rw [if_pos own]
  refine get_bind_eq.trans (get_bind_eq.trans ((ofExcept_bind_eq marked).trans ?_))
  exact ofExcept_bind_eq listed

/-- What a rollback of a context that has failed comes to. -/
theorem exists_rollBack_eq (grown : t.contexts.Grown) {context : Nat}
    (failed : t.contexts.hasFailed context = true) : ∃ u ids,
      t.contexts.Reverts u context t.stamp ∧ u.subtree context = .ok ids ∧
        ∀ chain world, rollBack chain world context t =
          fireRollbacks chain world u ids { t with contexts := u } := by
  obtain ⟨f, found, -⟩ := (Option.any_eq_true _ _).1 failed
  obtain ⟨n, listed, -⟩ := grown.wellFormed.exists_subtree found
  have marked : ∃ u, t.contexts.markReverted context t.stamp = .ok u := by
    rw [ContextTree.markReverted, listed]
    exact ⟨_, rfl⟩
  obtain ⟨u, marked⟩ := marked
  have reverts := grown.wellFormed.reverts marked
  obtain ⟨g, there, -⟩ := reverts.exists_frame found
  obtain ⟨m, listed', -⟩ := (reverts.grown grown).wellFormed.exists_subtree there
  exact ⟨u, _, reverts, listed', fun chain world => rollBack_eq failed marked listed'⟩

/-- Handing out an occurrence does not shift the contexts further. -/
theorem Shifts.fire {operation : Operation} {s : Tracer} (shifts : t.Shifts operation s.contexts)
    (chain : Chain) (occurrence : Occurrence) :
    Leaves (Tracer.fire chain occurrence s) fun t' => t.Shifts operation t'.contexts :=
  (fire_contexts s chain occurrence).mono fun _ same => same ▸ shifts

/-- Asking for a transaction shifts nothing. -/
theorem Shifts.requireTransaction {operation : Operation}
    (keeps : t.Shifts operation t.contexts) :
    Ends (Tracer.requireTransaction t) (fun _ t' => t' = t)
      fun _ t' => t.Shifts operation t'.contexts :=
  (requireTransaction_ends t).mono (fun _ _ h => h.1) fun _ _ h => h.1 ▸ keeps

/-- The end of a context, which is announced before the context is left. -/
theorem exitContext_shifts (grown : t.contexts.Grown) (chain : Chain) (world : WorldState)
    (outcome : ContextOutcome) :
    Leaves (exitContext chain world outcome t)
      fun t' => t.Shifts (.exitContext world outcome) t'.contexts := by
  have keeps : t.Shifts (.exitContext world outcome) t.contexts := .kept fun _ => rfl
  unfold exitContext
  refine Ends.get_bind (Leaves.ofExcept_bind keeps fun frame _ => ?_)
  refine Ends.bind (Ends.mono (fire_contexts t chain _) (fun _ _ same => same)
    fun _ _ same => same ▸ keeps) ?_
  intro _ s same
  refine Ends.get_bind (Leaves.ofExcept_bind (same ▸ keeps) ?_)
  rintro ⟨contexts, id⟩ exited
  rw [same] at exited
  obtain ⟨f, current, found, rfl⟩ := grown.wellFormed.exists_left exited
  have leaves : t.Shifts (.exitContext world outcome) (t.contexts.left f outcome) :=
    .left world outcome current found
  refine Ends.modify_bind (Ends.get_bind ?_)
  split
  · exact Ends.bind (construct_onIncarnations_leaves fun _ => leaves) fun _ _ h => h
  · exact leaves

/-- A rollback, which is rejected unless its context has failed. -/
theorem rollBack_shifts (grown : t.contexts.Grown) (chain : Chain) (world : WorldState)
    (context : Nat) :
    Leaves (rollBack chain world context t)
      fun t' => t.Shifts (.rollBack world context) t'.contexts := by
  by_cases failed : t.contexts.hasFailed context = true
  · obtain ⟨u, ids, reverts, -, same⟩ := exists_rollBack_eq grown failed
    rw [same]
    refine (fireRollbacks_contexts _ chain world u ids).mono fun _ same => ?_
    rw [same]
    exact .reverted world failed reverts
  · have unlogged : ∀ log, t.logged log (.rollBack world context) = log := fun log =>
      if_neg failed
    refine Ends.mono (rollBack_rejects (Bool.eq_false_of_not_eq_true failed))
      (fun _ _ h => h.elim) fun _ _ same => ?_
    rw [same]
    exact .kept unlogged

/-- Control being back in a context shifts nothing. -/
theorem reEnterContext_shifts (t : Tracer) (chain : Chain) (world : WorldState) (top : Word) :
    Leaves (reEnterContext chain world top t)
      fun t' => t.Shifts (.reEnterContext world top) t'.contexts := by
  have keeps : t.Shifts (.reEnterContext world top) t.contexts := .kept fun _ => rfl
  unfold reEnterContext
  refine Leaves.ofExcept_bind keeps fun bit _ => Ends.get_bind ?_
  refine lookUp_returned (fun _ => keeps) fun frame child outcome _ => ?_
  dsimp only
  split
  · exact keeps
  · exact keeps.fire chain _

/-- **Every operation shifts the contexts**, whether it is accepted or rejected. -/
theorem announce_shifts (grown : t.contexts.Grown) (chain : Chain) (operation : Operation) :
    Leaves (operation.announce chain t) fun t' => t.Shifts operation t'.contexts := by
  cases operation with
  | startConflation => exact .forgotten rfl
  | beginTransaction world tx =>
      refine Ends.discard ((beginTransaction_ends t chain world tx).mono ?_ ?_)
      · rintro _ _ ⟨-, _, _, _, -, rfl⟩
        exact .forgotten rfl
      · rintro _ _ ⟨-, rfl⟩
        exact .forgotten rfl
  | announceCall world i =>
      refine Ends.discard ((announceCall_ends t chain world i).mono ?_ ?_)
      · rintro _ _ ⟨-, _, _, -, rfl⟩
        exact .kept fun _ => rfl
      · rintro _ _ ⟨-, rfl⟩
        exact .kept fun _ => rfl
  | finishOpcode pushed? =>
      have keeps : t.Shifts (.finishOpcode pushed?) t.contexts := .kept fun _ => rfl
      exact keeps.fire chain _
  | enterContext entry =>
      have keeps : t.Shifts (.enterContext entry) t.contexts := .kept fun _ => rfl
      refine Ends.discard ?_
      unfold enterContext
      refine Ends.bind keeps.requireTransaction ?_
      rintro _ s rfl
      have entered : s.Shifts (.enterContext entry) (s.contexts.enter entry) := .entered entry
      refine Ends.get_bind (Ends.modify_bind (Ends.bind ?_ fun _ _ shifts => shifts))
      exact entered.fire (s := { s with contexts := s.contexts.enter entry }) chain .contextEntry
  | exitContext world outcome => exact Ends.discard (exitContext_shifts grown chain world outcome)
  | rollBack world context => exact rollBack_shifts grown chain world context
  | reEnterContext world top => exact reEnterContext_shifts t chain world top
  | endTransaction world outcome =>
      have keeps : t.Shifts (.endTransaction world outcome) t.contexts := .kept fun _ => rfl
      show Leaves (endTransaction chain world outcome t) _
      unfold endTransaction
      refine Ends.bind keeps.requireTransaction ?_
      rintro _ s rfl
      refine Ends.bind (keeps.fire chain _) fun _ s shifts => ?_
      exact Ends.bind (shifts.fire chain _) fun _ s shifts => shifts

/-! ## Rolling back again -/

theorem fire_idle {occurrence : Occurrence} (missing : t.agenda.Lacks occurrence.event) :
    fire chain occurrence t = .ok () t := by
  unfold fire
  rw [missing]
  rfl

/-- Rollbacks that nobody waits for change nothing. -/
theorem fireRollbacks_idle {u : ContextTree} (wf : u.WellFormed) {ids : List Nat}
    (known : ∀ id ∈ ids, ∃ f, u.frame? id = some f)
    (missing : ∀ id ∈ ids, t.agenda.Lacks (.rollback id)) :
    fireRollbacks chain world u ids t = .ok () t := by
  induction ids with
  | nil => rfl
  | cons id ids ih =>
      obtain ⟨f, found⟩ := known id (List.mem_cons_self ..)
      have here : t.agenda.Lacks (.rollback f.id) := by
        rw [wf.id_eq found]
        exact missing id (List.mem_cons_self ..)
      have first : (do
          let frame ← ofExcept (u.get id)
          fire chain (.rollback world frame) : Announcement Unit) t = .ok () t :=
        (ofExcept_bind_eq (ContextTree.get_eq_ok found)).trans (fire_idle here)
      refine (bind_eq_of_ok first).trans (ih ?_ ?_)
      · exact fun other h => known other (List.mem_cons_of_mem _ h)
      · exact fun other h => missing other (List.mem_cons_of_mem _ h)

/-- **Sections that have been told of rollbacks** do not wait for them any longer. -/
theorem fireRollbacks_yields {u : ContextTree} (wf : u.WellFormed) (ids : List Nat) :
    ∀ t : Tracer, Yields (fireRollbacks chain world u ids t) (fun _ t' =>
      t'.toSetting = t.toSetting ∧
        ∀ e, (t.agenda.Lacks e ∨ ∃ id ∈ ids, e = .rollback id) → t'.agenda.Lacks e)
      fun _ => True := by
  induction ids with
  | nil => exact fun t => ⟨rfl, fun e h => h.elim id fun ⟨_, listed, _⟩ => nomatch listed⟩
  | cons id ids ih =>
      intro t
      -- The event of the first context is taken, and those of the others later on.
      refine Ends.bind (Q := fun _ t' => t'.toSetting = t.toSetting ∧
        ∀ e, (t.agenda.Lacks e ∨ e = .rollback id) → t'.agenda.Lacks e) ?_ ?_
      · refine Ends.ofExcept_bind (A := fun f => f.id = id) ?_ fun frame own => ?_
        · exact (ContextTree.get_grants trivial).mono (fun _ found => wf.id_eq found) fun _ h => h
        · unfold fire
          dsimp only
          split
          · refine ⟨rfl, fun e h => Agenda.lacks_take (h.symm.imp_left ?_)⟩
            rintro rfl
            exact congrArg Event.rollback own.symm
          · trivial
      · rintro _ t' ⟨same, missing⟩
        refine (ih t').mono ?_ fun _ h => h
        rintro _ t'' ⟨same', missing'⟩
        refine ⟨same'.trans same, fun e h => missing' e ?_⟩
        rcases h with unlisted | ⟨other, listed, rfl⟩
        · exact .inl (missing e (.inl unlisted))
        · rcases List.mem_cons.1 listed with rfl | later
          · exact .inl (missing _ (.inr rfl))
          · exact .inr ⟨other, later, rfl⟩

/-- A rollback that succeeds is one of a context that has failed, and so it is logged. -/
theorem hasFailed_of_rollBack {context : Nat}
    (succeeded : rollBack chain world context t = .ok () t') :
    t.contexts.hasFailed context = true := by
  by_contra unfailed
  have rejects : Rejects (rollBack chain world context t) t :=
    rollBack_rejects (Bool.eq_false_of_not_eq_true unfailed)
  obtain ⟨v, rejected⟩ := rejects.exists_error
  rw [succeeded] at rejected
  cases rejected

/-- **A rollback that has succeeded** changes nothing when it is made again. -/
theorem rollBack_again (grown : t.contexts.Grown) {context : Nat}
    (succeeded : rollBack chain world context t = .ok () t') (world' : WorldState) :
    rollBack chain world' context t' = .ok () t' := by
  have failed := hasFailed_of_rollBack succeeded
  obtain ⟨u, ids, reverts, listed, first⟩ := exists_rollBack_eq grown failed
  have wf := (reverts.grown grown).wellFormed
  obtain ⟨setting, missing⟩ :=
    (fireRollbacks_yields wf ids _).value ((first chain world).symm.trans succeeded)
  have contexts : t'.contexts = u := congrArg Setting.contexts setting
  obtain ⟨f, found, own⟩ := (Option.any_eq_true _ _).1 failed
  obtain ⟨g, there, same⟩ := reverts.exists_frame found
  have failed' : t'.contexts.hasFailed context = true := by
    rw [contexts, ContextTree.hasFailed, there, Option.any_some, Frame.hasFailed, same]
    exact own
  -- The second rollback stamps nothing that is not stamped, and finds nobody waiting.
  obtain ⟨v, ids', reverts', listed', second⟩ :=
    exists_rollBack_eq (contexts ▸ reverts.grown grown) failed'
  rw [contexts] at reverts'
  obtain rfl := reverts.again reverts'
  obtain rfl := Except.ok.inj (listed.symm.trans listed')
  rw [second chain world', ← contexts]
  refine fireRollbacks_idle (contexts ▸ wf) (fun id h => ?_) fun id h => ?_
  · rw [contexts]
    exact ((wf.mem_of_subtree listed).1 h).known there
  · exact missing _ (.inr ⟨id, h, rfl⟩)

/-! ## Any driver -/

theorem after_shifts (grown : t.contexts.Grown) (chain : Chain) (operation : Operation) :
    t.Shifts operation (t.after chain operation).contexts :=
  after_of_leaves (announce_shifts grown chain operation)

theorem Shifts.stamped {operation : Operation} {u : ContextTree} (shifts : t.Shifts operation u)
    (stamped : t.contexts.Stamped log t.stamp) : u.Stamped (t.logged log operation) t.stamp := by
  cases shifts with
  | forgotten forgets =>
      have empty : t.logged log operation = [] := by
        cases operation <;> first | rfl | cases forgets
      rw [empty]
      exact ContextTree.stamped_empty _
  | kept unlogged =>
      rw [unlogged]
      exact stamped
  | entered entry => exact stamped.enter entry
  | left world outcome current found => exact stamped.left current found outcome
  | reverted world failed reverts =>
      obtain ⟨f, found, own⟩ := (Option.any_eq_true _ _).1 failed
      obtain ⟨outcome, ended, -⟩ := (Option.any_eq_true _ _).1 own
      rw [logged, if_pos failed]
      exact stamped.reverts reverts found (Option.isSome_of_eq_some ended)

/-- **A frame that has been stamped** is not changed by any operation, unless it is forgotten. -/
theorem Shifts.frame_of_reverted {operation : Operation} {u : ContextTree} {id : Nat} {f : Frame}
    (shifts : t.Shifts operation u) (stays : operation.forgets = false)
    (stamped : t.contexts.Stamped log t.stamp) (found : t.contexts.frame? id = some f)
    (reverted : f.revertStamp?.isSome = true) : u.frame? id = some f := by
  have ended := stamped.ended_of_reverted found reverted
  cases shifts with
  | forgotten forgets =>
      rw [stays] at forgets
      cases forgets
  | kept _ => exact found
  | entered entry => exact stamped.grown.frame_enter found ended entry
  | left world outcome current _ => exact stamped.grown.frame_left found ended current outcome
  | reverted world _ reverts => exact reverts.frame_of_reverted found reverted

/-- **After any operation** stamps tell the first rollbacks. -/
theorem stamped_after (seated : t.Seated) (stamped : t.contexts.Stamped log t.stamp)
    (chain : Chain) (operation : Operation) : (t.after chain operation).contexts.Stamped
      (t.logged log operation) (t.after chain operation).stamp := by
  by_cases restarts : operation = .startConflation
  · subst restarts
    exact ContextTree.stamped_empty _
  · have onward := (onward_keeps chain operation.Raises t).after restarts seated.onward
    exact ((after_shifts stamped.grown chain operation).stamped stamped).later onward.stamp

/-- **After any sequence of operations** stamps tell the first rollbacks. -/
theorem stamped_foldl (chain : Chain) (operations : List Operation) : ∀ (t : Tracer)
    (log : List Reversal), t.Seated → t.contexts.Stamped log t.stamp →
      (operations.foldl (after chain) t).contexts.Stamped (reversalsFrom chain t log operations)
        (operations.foldl (after chain) t).stamp := by
  induction operations with
  | nil => exact fun _ _ _ stamped => stamped
  | cons operation operations ih =>
      intro t log seated stamped
      exact ih _ _ (seated.after chain operation) (stamped_after seated stamped chain operation)

/-- **A frame that has been stamped** stays as it is until contexts are forgotten. -/
theorem frame_foldl_of_reverted (chain : Chain) {later : List Operation} {id : Nat} {f : Frame}
    (reverted : f.revertStamp?.isSome = true) : ∀ (t : Tracer) (log : List Reversal), t.Seated →
      t.contexts.Stamped log t.stamp → (∀ operation ∈ later, operation.forgets = false) →
      t.contexts.frame? id = some f →
      (later.foldl (after chain) t).contexts.frame? id = some f := by
  induction later with
  | nil => exact fun _ _ _ _ _ found => found
  | cons operation later ih =>
      intro t log seated stamped stays found
      obtain ⟨first, rest⟩ := List.forall_mem_cons.1 stays
      have shifts := after_shifts stamped.grown chain operation
      exact ih _ _ (seated.after chain operation)
        (stamped_after seated stamped chain operation) rest
        (shifts.frame_of_reverted first stamped found reverted)

/-- **Contexts are rolled back once and for all.** Whatever a driver announces, accepted or
rejected: a context below one that has been rolled back has been rolled back, too, and not later;
it has ended, and as long as contexts are not forgotten its frame stays as it is, with its stamp
and its children, and it does not become current.  The stamp of a frame is the stamp of the first
rollback of its context or of one above it.  And a rollback that has succeeded changes nothing when
it is made again right away, with whatever state. -/
theorem drive_reversions (chain : Chain) (operations : List Operation) :
    let t := drive chain operations
    (∀ id f stamp, t.contexts.frame? id = some f → f.revertStamp? = some stamp →
      (∀ d, t.contexts.Within id d → ∃ g stamp', t.contexts.frame? d = some g ∧
        g.revertStamp? = some stamp' ∧ stamp' ≤ stamp) ∧
      f.outcome?.isSome = true ∧
      ∀ later : List Operation, (∀ operation ∈ later, operation.forgets = false) →
        let t' := later.foldl (after chain) t
        t'.contexts.frame? id = some f ∧ t'.contexts.current? ≠ some id) ∧
    (∀ id f stamp, t.contexts.frame? id = some f → (f.revertStamp? = some stamp ↔
      ∃ before context after, reversals chain operations = before ++ ⟨context, stamp⟩ :: after ∧
        t.contexts.Within context id ∧
        ∀ reversal ∈ before, ¬t.contexts.Within reversal.context id)) ∧
    ∀ world context t', rollBack chain world context t = .ok () t' →
      ∀ world', rollBack chain world' context t' = .ok () t' := by
  intro t
  have seated : t.Seated := seated_drive chain operations
  have stamped : t.contexts.Stamped (reversals chain operations) t.stamp :=
    stamped_foldl chain operations {} [] seated_empty (ContextTree.stamped_empty _)
  refine ⟨fun id f stamp found reverted => ?_, fun id f stamp found => ?_, ?_⟩
  · have isReverted := Option.isSome_of_eq_some reverted
    have ended := stamped.ended_of_reverted found isReverted
    refine ⟨fun d within => stamped.inherited found reverted within, ended, fun later stays => ?_⟩
    have there := frame_foldl_of_reverted chain isReverted t _ seated stamped stays found
    have grown := (stamped_foldl chain later t _ seated stamped).grown
    exact ⟨there, grown.not_current there ended⟩
  · rw [stamped.stamp_eq found]
    exact ContextTree.firstStamp?_eq_some_iff
  · exact fun world context t' succeeded => rollBack_again stamped.grown succeeded

/-- A context is rolled back, and after a rejected call its parent is, too, at another stamp.  The
child keeps the stamp that it has, the parent is not current in the next context that is entered,
and another rollback of the parent finds nothing left to do. -/
theorem reversions_of_nested_contexts :
    let world := WorldState.ofList [(Script.sender, { balance := Script.gwei 1000000000 }),
      (0xc0de, { code := [0x00] })]
    let operations := [.beginTransaction world (Script.messageCall Script.sender 0xc0de 1),
      .enterContext {}, .announceCall world (.make .call 0xc0de 0), .enterContext {},
      .exitContext world .failed, .rollBack world 2, .reEnterContext world 0,
      .announceCall world ((Invocation.make .call 0xbeef 0).withAborts .insufficientBalance),
      .exitContext world .failed, .rollBack world 1]
    let t := drive .ethereum operations
    ∃ f g, t.contexts.frame? 1 = some f ∧ t.contexts.frame? 2 = some g ∧
      f.revertStamp? = some 3 ∧ (∃ stamp ≤ 3, g.revertStamp? = some stamp) ∧
      f.outcome?.isSome = true ∧
      (g.revertStamp? = some 2 ↔ ∃ before context after,
        [⟨2, 2⟩, ⟨1, 3⟩] = before ++ Reversal.mk context 2 :: after ∧ t.contexts.Within context 2 ∧
          ∀ reversal ∈ before, ¬t.contexts.Within reversal.context 2) ∧
      (let t' := [Operation.enterContext {}].foldl (after .ethereum) t
       t'.contexts.frame? 1 = some f ∧ t'.contexts.current? ≠ some 1) ∧
      ∃ t', rollBack .ethereum world 1 t = .ok () t' ∧
        rollBack .ethereum (.ofList []) 1 t' = .ok () t' := by
  intro world operations t
  have stamps : (t.contexts.frame? 1).bind (·.revertStamp?) = some 3 := by decide +kernel
  have known : (t.contexts.frame? 2).isSome = true := by decide +kernel
  have parent : t.contexts.parentOf 2 = some 1 := by decide +kernel
  have accepted : (Operation.rollBack world 1).isAccepted .ethereum t = true := by decide +kernel
  have log : reversals .ethereum operations = [⟨2, 2⟩, ⟨1, 3⟩] := by decide +kernel
  -- Nothing else needs to be known of these operations.
  clear_value operations
  obtain ⟨f, found, stamp⟩ := Option.bind_eq_some_iff.1 stamps
  obtain ⟨g, found'⟩ := Option.isSome_iff_exists.1 known
  obtain ⟨t', succeeded⟩ := Operation.announce_of_isAccepted accepted
  obtain ⟨reverted, first, again⟩ := drive_reversions .ethereum operations
  obtain ⟨below, ended, later⟩ := reverted 1 f 3 found stamp
  obtain ⟨g', stamp', there, stamped, le⟩ := below 2 (.child parent .refl)
  obtain rfl := Option.some.inj (found'.symm.trans there)
  exact ⟨f, g, found, found', stamp, ⟨stamp', le, stamped⟩, ended, log ▸ first 2 g 2 found',
    later [.enterContext {}] (by decide), t', succeeded, again world 1 t' succeeded _⟩

end Tracer

end ExecutionTrace
