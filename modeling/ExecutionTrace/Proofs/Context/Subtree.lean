import ExecutionTrace.Proofs.Context.Lineage

/-!
# Trees that are grown in any way

A tree of contexts is grown by entering and ending contexts, by rolling back any of them at any
time, and by starting over.  Whatever the order, its numbering is the preorder numbering, the
contexts that have not ended are the active ones, and the traversal of a subtree comes to an end and
lists a range of numbers.

## Main Definitions

* `ContextTree.Operation`, `ContextTree.grow` — trees grown by any sequence of operations
* `ContextTree.Grown` — what all of them satisfy
* `ContextTree.Reverts` — what rolling back a context does to a tree
* `ContextTree.Traverses` — a traversal that empties its worklist
* `ContextTree.grow_preorder` — the shape of a grown tree, and its subtrees

## Design Notes

The traversal that subtrees are computed with stops after as many steps as there are frames.
`Traverses` is the same worklist without a bound: it relates a worklist to what is visited from it
only if the worklist is emptied, each context on the way being there.
-/

namespace ExecutionTrace.ContextTree

/-! ## Operations -/

/-- **What may be done with a tree of contexts.** -/
inductive Operation
  | enter (entry : ContextEntry)
  | exit (outcome : ContextOutcome)
  | markReverted (id stamp : Nat)
  | reset
  deriving DecidableEq

/-- The tree after an operation, which changes nothing if it fails. -/
def apply (t : ContextTree) : Operation → ContextTree
  | .enter entry => t.enter entry
  | .exit outcome =>
      match t.exit outcome with
      | .ok (u, _) => u
      | .error _ => t
  | .markReverted id stamp =>
      match t.markReverted id stamp with
      | .ok u => u
      | .error _ => t
  | .reset => t.reset

/-- **The tree after a sequence of operations**, successful or not. -/
def grow (operations : List Operation) : ContextTree :=
  operations.foldl apply {}

variable {t u : ContextTree} {id stamp : Nat}

/-! ## The invariant -/

/-- **A grown tree.** Its shape is that of a preorder numbering, and exactly the active contexts
have not ended. -/
structure Grown (t : ContextTree) : Prop where
  wellFormed : t.WellFormed
  open_iff : ∀ {id f}, t.frame? id = some f → (f.outcome? = none ↔ t.Active id)

theorem grown_empty : Grown {} where
  wellFormed := wellFormed_empty
  open_iff found := by
    rw [frame?_empty] at found
    cases found

/-- The contexts that are active exist. -/
theorem WellFormed.frame_of_active (wf : t.WellFormed) (active : t.Active id) :
    ∃ f, t.frame? id = some f := by
  cases active with
  | current current => exact wf.current_mem current
  | above _ parent =>
      obtain ⟨f, found, -⟩ := Option.bind_eq_some_iff.1 parent
      obtain ⟨positive, before⟩ := wf.parent_lt parent
      exact frame?_eq_some_iff.2 ⟨positive, Nat.lt_trans before (lt_nextId found)⟩

/-! ### Entering a context -/

/-- A context that is entered is active, with all that were active before. -/
theorem WellFormed.active_enter (wf : t.WellFormed) (entry : ContextEntry) :
    (t.enter entry).Active id ↔ id = t.nextId ∨ t.Active id := by
  constructor
  · intro active
    induction active with
    | current current => exact .inl (Option.some.inj current).symm
    | above _ parent ih =>
        rcases ih with rfl | active
        · rw [parentOf_enter_self] at parent
          exact .inr (.current parent)
        · obtain ⟨f, found⟩ := wf.frame_of_active active
          rw [(frame_enter_of_ne (Nat.ne_of_lt (lt_nextId found))).1] at parent
          exact .inr (.above active parent)
  · rintro (rfl | active)
    · exact .current rfl
    · induction active with
      | current current => exact .above (.current rfl) ((parentOf_enter_self t entry).trans current)
      | above active parent ih =>
          obtain ⟨f, found⟩ := wf.frame_of_active active
          exact .above ih ((frame_enter_of_ne (Nat.ne_of_lt (lt_nextId found))).1.trans parent)

theorem Grown.enter (grown : t.Grown) (entry : ContextEntry) : (t.enter entry).Grown where
  wellFormed := grown.wellFormed.enter entry
  open_iff {id f} found := by
    rw [grown.wellFormed.active_enter]
    rw [frame?_enter] at found
    split at found
    · rename_i new
      cases found
      exact ⟨fun _ => .inl new, fun _ => rfl⟩
    · rename_i old
      split at found
      · obtain ⟨g, there, rfl⟩ := Option.map_eq_some_iff.1 found
        exact (grown.open_iff there).trans ⟨.inr, fun h => h.resolve_left old⟩
      · exact (grown.open_iff found).trans ⟨.inr, fun h => h.resolve_left old⟩

/-! ### Ending a context -/

/-- The context that ends is not active any longer, and all others that were are. -/
theorem WellFormed.active_left (wf : t.WellFormed) {f : Frame} (current : t.current? = some f.id)
    (found : t.frame? f.id = some f) (outcome : ContextOutcome) :
    (t.left f outcome).Active id ↔ t.Active id ∧ id ≠ f.id := by
  have up : t.parentOf f.id = f.parent? := parentOf_eq found
  constructor
  · intro active
    induction active with
    | current parent =>
        have parent := up.trans parent
        exact ⟨.above (.current current) parent, Nat.ne_of_lt (wf.parent_lt parent).2⟩
    | above _ parent ih =>
        obtain ⟨active, -⟩ := ih
        rw [(sameShape_left ..).parentOf_eq] at parent
        have before := (wf.parent_lt parent).2
        have last := active.le_current wf current
        exact ⟨.above active parent, Nat.ne_of_lt (Nat.lt_of_lt_of_le before last)⟩
  · rintro ⟨active, other⟩
    induction active with
    | current same => exact absurd (Option.some.inj (same.symm.trans current)) other
    | @above d p active parent ih =>
        by_cases own : d = f.id
        · subst own
          exact .current (up.symm.trans parent)
        · exact .above (ih own) (((sameShape_left ..).parentOf_eq _).trans parent)

theorem Grown.left (grown : t.Grown) {f : Frame} (current : t.current? = some f.id)
    (found : t.frame? f.id = some f) (outcome : ContextOutcome) : (t.left f outcome).Grown where
  wellFormed := grown.wellFormed.left current found outcome
  open_iff {id g} there := by
    rw [grown.wellFormed.active_left current found]
    rw [frame?_left] at there
    split at there
    · rename_i own
      obtain ⟨k, -, rfl⟩ := Option.map_eq_some_iff.1 there
      exact ⟨fun unended => absurd unended (Option.some_ne_none _),
        fun active => absurd own.symm active.2⟩
    · rename_i other
      refine (grown.open_iff there).trans ⟨fun active => ⟨active, Ne.symm other⟩, And.left⟩

/-- The context that ends is the current one. -/
theorem WellFormed.exists_left {outcome : ContextOutcome} {ended : Nat} (wf : t.WellFormed)
    (exited : t.exit outcome = .ok (u, ended)) :
    ∃ f, t.current? = some f.id ∧ t.frame? f.id = some f ∧ u = t.left f outcome := by
  cases current : t.current? with
  | none =>
      rw [exit, current] at exited
      cases exited
  | some c =>
      obtain ⟨f, found⟩ := wf.current_mem current
      obtain rfl := wf.id_eq found
      rw [exit_eq_ok outcome current found] at exited
      exact ⟨f, rfl, found, (congrArg Prod.fst (Except.ok.inj exited)).symm⟩

/-! ### Rolling back -/

/-- **What rolling back a context does to a tree**: the context and everything below it are stamped,
unless they carry a stamp already. -/
structure Reverts (t u : ContextTree) (id stamp : Nat) : Prop where
  known : ∃ f, t.frame? id = some f
  shape : SameShape t u
  current : u.current? = t.current?
  within : ∀ {d}, t.Within id d → u.frame? d = (t.frame? d).map (·.stampReverted stamp)
  outside : ∀ {d}, ¬t.Within id d → u.frame? d = t.frame? d

theorem WellFormed.reverts (wf : t.WellFormed) (marked : t.markReverted id stamp = .ok u) :
    t.Reverts u id stamp := by
  cases found : t.frame? id with
  | none =>
      rw [markReverted, subtree, get, found] at marked
      cases marked
  | some f =>
      obtain ⟨stop, spans⟩ := exists_spans found
      rw [markReverted, spans.subtree_eq wf] at marked
      obtain rfl := Except.ok.inj marked
      obtain ⟨shape, current⟩ :=
        sameShape_foldl_stampReverted stamp (List.range' id (stop - id)) t
      refine ⟨⟨f, found⟩, shape, current, fun within => ?_, fun outside => ?_⟩
      · rw [frame?_foldl_stampReverted, if_pos ((spans.mem_range'_iff wf).2 within)]
      · rw [frame?_foldl_stampReverted, if_neg fun h => outside ((spans.mem_range'_iff wf).1 h)]

namespace Reverts

variable (reverts : t.Reverts u id stamp) {d : Nat} {f g : Frame}

include reverts

/-- A frame is stamped or left alone. -/
theorem frame_cases (found : u.frame? d = some g) : ∃ f, t.frame? d = some f ∧
    (t.Within id d ∧ g = f.stampReverted stamp ∨ ¬t.Within id d ∧ g = f) := by
  by_cases inside : t.Within id d
  · rw [reverts.within inside] at found
    obtain ⟨f, there, same⟩ := Option.map_eq_some_iff.1 found
    exact ⟨f, there, .inl ⟨inside, same.symm⟩⟩
  · rw [reverts.outside inside] at found
    exact ⟨g, found, .inr ⟨inside, rfl⟩⟩

theorem outcome?_eq (found : u.frame? d = some g) :
    ∃ f, t.frame? d = some f ∧ g.outcome? = f.outcome? := by
  obtain ⟨f, there, ⟨-, rfl⟩ | ⟨-, rfl⟩⟩ := reverts.frame_cases found
  · exact ⟨f, there, rfl⟩
  · exact ⟨g, there, rfl⟩

theorem exists_frame (found : t.frame? d = some f) :
    ∃ g, u.frame? d = some g ∧ g.outcome? = f.outcome? := by
  by_cases inside : t.Within id d
  · rw [reverts.within inside, found]
    exact ⟨_, rfl, rfl⟩
  · rw [reverts.outside inside, found]
    exact ⟨f, rfl, rfl⟩

theorem active_iff : u.Active d ↔ t.Active d := by
  have carry : ∀ {t u : ContextTree}, SameShape t u → u.current? = t.current? →
      ∀ {d}, t.Active d → u.Active d := by
    intro t u shape current d active
    induction active with
    | current same => exact .current (current.trans same)
    | above _ parent ih => exact .above ih ((shape.parentOf_eq _).trans parent)
  exact ⟨carry reverts.shape.symm reverts.current.symm, carry reverts.shape reverts.current⟩

theorem grown (grown : t.Grown) : u.Grown where
  wellFormed := by
    refine reverts.shape.wellFormed grown.wellFormed (fun {c} current => ?_) fun {c j} current => ?_
    · exact grown.wellFormed.current_mem (reverts.current ▸ current)
    · exact grown.wellFormed.current_deepest (reverts.current ▸ current)
  open_iff found := by
    obtain ⟨f, there, same⟩ := reverts.outcome?_eq found
    rw [same, reverts.active_iff]
    exact grown.open_iff there

end Reverts

/-! ### Any sequence of operations -/

/-- **No operation spoils a grown tree.** -/
theorem Grown.apply (grown : t.Grown) (operation : Operation) : (t.apply operation).Grown := by
  cases operation with
  | enter entry => exact grown.enter entry
  | exit outcome =>
      unfold ContextTree.apply
      dsimp only
      split
      · rename_i u ended exited
        obtain ⟨f, current, found, rfl⟩ := grown.wellFormed.exists_left exited
        exact grown.left current found outcome
      · exact grown
  | markReverted id stamp =>
      unfold ContextTree.apply
      dsimp only
      split
      · rename_i u marked
        exact (grown.wellFormed.reverts marked).grown grown
      · exact grown
  | reset => exact grown_empty

theorem grown_grow (operations : List Operation) : (grow operations).Grown := by
  have kept : ∀ t : ContextTree, t.Grown → (operations.foldl ContextTree.apply t).Grown := by
    induction operations with
    | nil => exact fun _ grown => grown
    | cons operation operations ih => exact fun t grown => ih _ (grown.apply operation)
  exact kept {} grown_empty

/-! ## Traversals -/

/-- **A traversal that empties its worklist**: the contexts that are visited from it, each of them
before its children and these before what comes after it. -/
inductive Traverses (t : ContextTree) : List Nat → List Nat → Prop
  | done : Traverses t [] []
  | visit {id : Nat} {f : Frame} {rest visited : List Nat} (found : t.frame? id = some f)
      (further : Traverses t (f.children ++ rest) visited) :
      Traverses t (id :: rest) (id :: visited)

/-- **A traversal that is not cut short empties its worklist**, if the contexts on it exist and
their children do. -/
theorem traverses_of_preorder
    (linked : ∀ {id f}, t.frame? id = some f → ∀ c ∈ f.children, ∃ g, t.frame? c = some g) :
    ∀ (fuel : Nat) (todo : List Nat), (∀ id ∈ todo, ∃ f, t.frame? id = some f) →
      (t.preorder fuel todo).length < fuel → t.Traverses todo (t.preorder fuel todo) := by
  intro fuel
  induction fuel with
  | zero => exact fun todo _ short => absurd short (Nat.not_lt_zero _)
  | succ fuel ih =>
      intro todo known short
      cases todo with
      | nil => exact .done
      | cons id rest =>
          obtain ⟨f, found⟩ := known id (List.mem_cons_self ..)
          have step : t.preorder (fuel + 1) (id :: rest) =
              id :: t.preorder fuel (f.children ++ rest) := by
            rw [preorder, found]
          rw [step] at short ⊢
          refine .visit found (ih _ (fun d listed => ?_) (Nat.lt_of_succ_lt_succ short))
          rcases List.mem_append.1 listed with child | later
          · exact linked found d child
          · exact known d (List.mem_cons_of_mem _ later)

/-! ## The shape of a grown tree -/

/-- **The traversal of a subtree comes to an end**, having visited the context and everything below
it once, in ascending order. -/
theorem WellFormed.exists_subtree {f : Frame} (wf : t.WellFormed) (found : t.frame? id = some f) :
    ∃ n, t.subtree id = .ok (List.range' id n) ∧ t.Traverses [id] (List.range' id n) ∧
      (∀ d, d ∈ List.range' id n ↔ t.Within id d) ∧ {d | t.Within id d}.ncard = n := by
  obtain ⟨stop, spans⟩ := exists_spans found
  refine ⟨stop - id, spans.subtree_eq wf, ?_, fun d => spans.mem_range'_iff wf,
    spans.ncard_within wf⟩
  have listed := spans.preorder_eq wf (Nat.le_succ (stop - id))
  have known : ∀ d ∈ [id], ∃ g, t.frame? d = some g := by simpa using ⟨f, found⟩
  have traverses := traverses_of_preorder wf.frame_of_child (stop - id + 1) [id] known
    (by rw [listed, List.length_range']; omega)
  rwa [listed] at traverses

/-- **The numbering of contexts is a preorder numbering**, in whatever way a tree is grown.  Frames
are numbered from one in the order in which they stand.  The children of a context have larger
numbers and ascend, and whatever has a parent is listed as a child there and nowhere else.  Depth
counts the contexts above, and exactly the active contexts have not ended.  So the traversal of a
subtree comes to an end for every context, and visits the context and all those below it once each:
a range of as many numbers as there are such contexts. -/
theorem grow_preorder (operations : List Operation) :
    let t := grow operations
    t.frames.toList.map (·.id) = List.range' 1 t.frames.size ∧
      ∀ id f, t.frame? id = some f →
        (∀ c ∈ f.children, id < c ∧ ∃ g, t.frame? c = some g) ∧
        f.children.Pairwise (· < ·) ∧
        (∀ p, f.parent? = some p → ∃ g, t.frame? p = some g) ∧
        (∀ p g, t.frame? p = some g → (id ∈ g.children ↔ f.parent? = some p)) ∧
        f.depth = {a | t.Within a id ∧ a ≠ id}.ncard ∧
        (f.outcome? = none ↔ t.Active id) ∧
        ∃ n, t.subtree id = .ok (List.range' id n) ∧ t.Traverses [id] (List.range' id n) ∧
          (∀ d, d ∈ List.range' id n ↔ t.Within id d) ∧ {d | t.Within id d}.ncard = n := by
  intro t
  have grown : t.Grown := grown_grow operations
  have wf := grown.wellFormed
  refine ⟨wf.ids_eq, fun id f found => ⟨?_, ?_, ?_, ?_, ?_, grown.open_iff found, ?_⟩⟩
  · intro c listed
    have parent := (wf.mem_children found).1 listed
    exact ⟨(wf.parent_lt parent).2, wf.frame_of_child found c listed⟩
  · rw [wf.children_eq found]
    exact List.Pairwise.filter _ List.pairwise_lt_range'
  · intro p parent
    obtain ⟨positive, before⟩ := wf.parent_lt ((parentOf_eq found).trans parent)
    exact frame?_eq_some_iff.2 ⟨positive, Nat.lt_trans before (lt_nextId found)⟩
  · intro p g there
    rw [wf.mem_children there, parentOf_eq found]
  · rw [← wf.depthOf_eq_ncard, depthOf_eq found]
  · exact wf.exists_subtree found

/-- Two roots: below the first one there are a context that has been rolled back while the root was
active, and another one with a child of its own.  The second root is entered when all of these have
ended. -/
theorem preorder_of_two_roots :
    let t := grow [.enter {}, .enter {}, .exit .failed, .markReverted 2 7, .enter {}, .enter {},
      .exit .failed, .exit .failed, .exit .failed, .enter {}]
    ∃ f g, t.frame? 3 = some f ∧ t.frame? 1 = some g ∧ (3 ∈ g.children ↔ f.parent? = some 1) ∧
      f.depth = {a | t.Within a 3 ∧ a ≠ 3}.ncard ∧ (f.outcome? = none ↔ t.Active 3) ∧
      t.Traverses [3] [3, 4] ∧ {d | t.Within 3 d}.ncard = 2 := by
  intro t
  have there : ((t.frame? 3).isSome && (t.frame? 1).isSome) = true := by decide +kernel
  obtain ⟨three, one⟩ := Bool.and_eq_true_iff.1 there
  obtain ⟨f, found⟩ := Option.isSome_iff_exists.1 three
  obtain ⟨g, found'⟩ := Option.isSome_iff_exists.1 one
  obtain ⟨-, -, -, listed, depth, unended, n, subtree, traverses, -, count⟩ :=
    (grow_preorder _).2 3 f found
  have both : t.subtree 3 = .ok [3, 4] := rfl
  have range : List.range' 3 n = [3, 4] := Except.ok.inj (subtree.symm.trans both)
  have two : n = 2 := by simpa using congrArg List.length range
  refine ⟨f, g, found, found', listed 1 g found', depth, unended, ?_, two ▸ count⟩
  rw [← range]
  exact traverses

end ExecutionTrace.ContextTree
