import ExecutionTrace.Context.Tree
import Mathlib.Data.List.Basic

/-!
# The numbering of contexts is a preorder

Contexts are numbered in the order in which they are entered.  In every tree that is grown by
entering and leaving contexts this is the preorder numbering, so that a context and
everything below it are consecutive numbers.

## Main Definitions

* `ContextTree.parentOf`, `ContextTree.depthOf` — the shape of a tree, read by number
* `ContextTree.WellFormed` — what every tree grown from the empty one satisfies
* `ContextTree.frontier` — the worklist of a traversal that has come as far as a number

## Design Notes

The local form of the preorder property is `WellFormed.between`: whatever is numbered between
a context and its parent is at least as deep as the context.  Everything else about the order
of a traversal follows from it.

The worklist of a traversal is determined by the next number to be visited: it consists of the
numbers from there on whose parent has been visited already.  Since the children of a context
come before whatever else is waiting, replacing a context by its children moves the worklist
one number ahead.
-/

namespace ExecutionTrace

/-- The part of a frame that the shape of a tree depends on. -/
def Frame.shape (f : Frame) : Nat × Option Nat × List Nat × Nat :=
  (f.id, f.parent?, f.children, f.depth)

namespace ContextTree

/-! ## The shape of a tree -/

/-- The number of the context above a context. -/
def parentOf (t : ContextTree) (id : Nat) : Option Nat :=
  (t.frame? id).bind (·.parent?)

/-- The depth of a context, zero where there is none. -/
def depthOf (t : ContextTree) (id : Nat) : Nat :=
  ((t.frame? id).map (·.depth)).getD 0

/-- The numbers of the contexts directly below a context, in ascending order. -/
def childrenOf (t : ContextTree) (id : Nat) : List Nat :=
  (List.range' 1 t.frames.size).filter fun j => t.parentOf j = some id

/-- **A tree grown from the empty one.** -/
structure WellFormed (t : ContextTree) : Prop where
  id_eq : ∀ {id f}, t.frame? id = some f → f.id = id
  /-- A parent exists, and was entered before its children. -/
  parent_lt : ∀ {id p}, t.parentOf id = some p → 0 < p ∧ p < id
  depth_eq : ∀ {id p}, t.parentOf id = some p → t.depthOf id = t.depthOf p + 1
  root_depth : ∀ {id}, t.parentOf id = none → t.depthOf id = 0
  /-- Between a context and its parent there are only contexts at least as deep. -/
  between : ∀ {id p j}, t.parentOf id = some p → p < j → j < id → t.depthOf id ≤ t.depthOf j
  children_eq : ∀ {id f}, t.frame? id = some f → f.children = t.childrenOf id
  /-- The active context exists, and everything entered after it lies below it. -/
  current_mem : ∀ {c}, t.current? = some c → ∃ f, t.frame? c = some f
  current_deepest : ∀ {c j}, t.current? = some c → c < j → j < t.nextId →
    t.depthOf c < t.depthOf j

theorem frame?_eq_some_iff {t : ContextTree} {id : Nat} :
    (∃ f, t.frame? id = some f) ↔ 0 < id ∧ id < t.nextId := by
  cases id with
  | zero => simp [frame?]
  | succ i =>
      simp only [frame?, nextId]
      constructor
      · rintro ⟨f, hf⟩
        obtain ⟨h, -⟩ := Array.getElem?_eq_some_iff.1 hf
        omega
      · rintro ⟨-, h⟩
        have inside : i < t.frames.size := by omega
        exact ⟨t.frames[i], Array.getElem?_eq_getElem inside⟩

theorem frame?_eq_none {t : ContextTree} {id : Nat} (h : t.nextId ≤ id) :
    t.frame? id = none := by
  cases found : t.frame? id with
  | none => rfl
  | some f =>
      have := (frame?_eq_some_iff.1 ⟨f, found⟩).2
      omega

theorem lt_nextId {t : ContextTree} {id : Nat} {f : Frame} (h : t.frame? id = some f) :
    id < t.nextId :=
  (frame?_eq_some_iff.1 ⟨f, h⟩).2

/-- Only a context that was entered has a parent. -/
theorem lt_nextId_of_parentOf {t : ContextTree} {id p : Nat} (h : t.parentOf id = some p) :
    id < t.nextId := by
  obtain ⟨f, hf, -⟩ := Option.bind_eq_some_iff.1 h
  exact lt_nextId hf

theorem get_eq_ok {t : ContextTree} {id : Nat} {f : Frame} (h : t.frame? id = some f) :
    t.get id = .ok f := by
  unfold get
  rw [h]
  rfl

theorem currentFrame_eq_ok {t : ContextTree} {id : Nat} {f : Frame} (current : t.current? = some id)
    (found : t.frame? id = some f) : t.currentFrame = .ok f := by
  rw [currentFrame, current]
  exact get_eq_ok found

theorem parentOf_eq {t : ContextTree} {id : Nat} {f : Frame} (h : t.frame? id = some f) :
    t.parentOf id = f.parent? := by
  simp [parentOf, h]

theorem depthOf_eq {t : ContextTree} {id : Nat} {f : Frame} (h : t.frame? id = some f) :
    t.depthOf id = f.depth := by
  simp [depthOf, h]

namespace WellFormed

variable {t : ContextTree}

theorem current_lt (wf : t.WellFormed) {c : Nat} (hc : t.current? = some c) :
    0 < c ∧ c < t.nextId :=
  frame?_eq_some_iff.1 (wf.current_mem hc)

/-- The parent of a context, if it has one, was entered before it. -/
theorem all_parentOf_lt (wf : t.WellFormed) (id : Nat) :
    (t.parentOf id).all (· < id) = true := by
  cases hp : t.parentOf id with
  | none => rfl
  | some p => simpa using (wf.parent_lt hp).2

/-- Nothing lies below a context that was not entered yet. -/
theorem childrenOf_nextId (wf : t.WellFormed) : t.childrenOf t.nextId = [] := by
  refine List.filter_eq_nil_iff.2 fun j _ below => ?_
  have parent := of_decide_eq_true below
  exact Nat.lt_asymm (wf.parent_lt parent).2 (lt_nextId_of_parentOf parent)

end WellFormed

/-! ## Changes that keep the shape -/

/-- Two trees have the same shape if their frames differ in nothing but entries, stamps and
outcomes. -/
def SameShape (t u : ContextTree) : Prop :=
  u.frames.size = t.frames.size ∧
    ∀ id, (u.frame? id).map Frame.shape = (t.frame? id).map Frame.shape

namespace SameShape

variable {t u : ContextTree}

theorem nextId_eq (h : SameShape t u) : u.nextId = t.nextId :=
  congrArg (· + 1) h.1

theorem frame (h : SameShape t u) {id : Nat} {f : Frame} (hf : u.frame? id = some f) :
    ∃ g, t.frame? id = some g ∧ f.shape = g.shape := by
  have same := h.2 id
  rw [hf] at same
  cases hg : t.frame? id with
  | none => simp [hg] at same
  | some g => exact ⟨g, rfl, by simpa [hg] using same⟩

theorem parentOf_eq (h : SameShape t u) (id : Nat) : u.parentOf id = t.parentOf id := by
  have same := congrArg (fun s => s.bind fun s => s.2.1) (h.2 id)
  simpa [parentOf, Option.bind_map, Function.comp_def, Frame.shape] using same

theorem depthOf_eq (h : SameShape t u) (id : Nat) : u.depthOf id = t.depthOf id := by
  have same := congrArg (fun s => (s.map fun s => s.2.2.2).getD 0) (h.2 id)
  simpa [depthOf, Option.map_map, Function.comp_def, Frame.shape] using same

theorem childrenOf_eq (h : SameShape t u) (id : Nat) : u.childrenOf id = t.childrenOf id := by
  unfold childrenOf
  rw [h.1]
  exact List.filter_congr fun j _ => by rw [h.parentOf_eq]

/-- A tree of the shape of a well-formed one is well-formed, provided that its active context
is one that everything entered later lies below. -/
theorem wellFormed (h : SameShape t u) (wf : t.WellFormed)
    (mem : ∀ {c}, u.current? = some c → ∃ f, t.frame? c = some f)
    (deepest : ∀ {c j}, u.current? = some c → c < j → j < t.nextId →
      t.depthOf c < t.depthOf j) : u.WellFormed where
  id_eq hf := by
    obtain ⟨g, hg, same⟩ := h.frame hf
    have idEq := congrArg Prod.fst same
    exact idEq.trans (wf.id_eq hg)
  parent_lt hp := wf.parent_lt (by rwa [← h.parentOf_eq])
  depth_eq hp := by
    rw [h.depthOf_eq, h.depthOf_eq]
    exact wf.depth_eq (by rwa [← h.parentOf_eq])
  root_depth hp := by
    rw [h.depthOf_eq]
    exact wf.root_depth (by rwa [← h.parentOf_eq])
  between hp after before := by
    rw [h.depthOf_eq, h.depthOf_eq]
    exact wf.between (by rwa [← h.parentOf_eq]) after before
  children_eq hf := by
    obtain ⟨g, hg, same⟩ := h.frame hf
    have childrenEq := congrArg (fun s => s.2.2.1) same
    rw [h.childrenOf_eq]
    exact childrenEq.trans (wf.children_eq hg)
  current_mem hc := by
    obtain ⟨f, hf⟩ := mem hc
    refine frame?_eq_some_iff.2 ?_
    rw [h.nextId_eq]
    exact frame?_eq_some_iff.1 ⟨f, hf⟩
  current_deepest hc after before := by
    rw [h.depthOf_eq, h.depthOf_eq]
    exact deepest hc after (by rwa [← h.nextId_eq])

end SameShape

theorem sameShape_modify (t : ContextTree) (id : Nat) {change : Frame → Frame}
    (keeps : ∀ f, (change f).shape = f.shape) : SameShape t (t.modify id change) := by
  refine ⟨?_, fun other => ?_⟩
  · have sameNext := nextId_modify t id change
    simpa [nextId] using sameNext
  · rw [frame?_modify]
    split
    · simp [Option.map_map, Function.comp_def, keeps]
    · rfl

theorem SameShape.trans {t u v : ContextTree} (h : SameShape t u) (h' : SameShape u v) :
    SameShape t v :=
  ⟨h'.1.trans h.1, fun id => (h'.2 id).trans (h.2 id)⟩

/-! ## Growing a tree -/

@[simp]
theorem frame?_empty (id : Nat) : ({} : ContextTree).frame? id = none := by
  cases id <;> rfl

theorem wellFormed_empty : ({} : ContextTree).WellFormed where
  id_eq h := by simp at h
  parent_lt h := by simp [parentOf] at h
  depth_eq h := by simp [parentOf] at h
  root_depth _ := by simp [depthOf]
  between h := by simp [parentOf] at h
  children_eq h := by simp at h
  current_mem h := by simp at h
  current_deepest h := by simp at h

/-- The frame of a context that is entered now. -/
def newFrame (t : ContextTree) (entry : ContextEntry) : Frame where
  id := t.nextId
  parent? := t.current?
  depth := ((t.current?.bind t.frame?).map (·.depth + 1)).getD 0
  entry := entry

@[simp]
theorem nextId_enter (t : ContextTree) (entry : ContextEntry) :
    (t.enter entry).nextId = t.nextId + 1 := by
  unfold enter
  cases t.current? with
  | none => simp [nextId]
  | some c =>
      have sameNext := nextId_modify t c (·.addChild t.nextId)
      simp only [nextId] at sameNext
      simp only [nextId, Array.size_push]
      omega

@[simp]
theorem current?_enter (t : ContextTree) (entry : ContextEntry) :
    (t.enter entry).current? = some t.nextId := rfl

/-- Entering a context adds its frame and links it to the frame of its parent. -/
theorem frame?_enter (t : ContextTree) (entry : ContextEntry) (id : Nat) :
    (t.enter entry).frame? id =
      if id = t.nextId then some (t.newFrame entry)
      else if t.current? = some id then (t.frame? id).map (·.addChild t.nextId)
      else t.frame? id := by
  have pushed : ∀ linked : ContextTree, linked.nextId = t.nextId →
      ContextTree.frame?
        { frames := linked.frames.push (t.newFrame entry), current? := some t.nextId } id =
        if id = t.nextId then some (t.newFrame entry) else linked.frame? id := by
    intro linked sameNext
    simp only [nextId] at sameNext
    cases id with
    | zero => simp [frame?, nextId]
    | succ i =>
        simp only [frame?, nextId, Array.getElem?_push, Nat.add_right_cancel_iff]
        rw [show linked.frames.size = t.frames.size by omega]
  unfold enter
  cases hc : t.current? with
  | none =>
      have := pushed t rfl
      simpa [newFrame, hc] using this
  | some c =>
      have := pushed (t.modify c (·.addChild t.nextId)) (nextId_modify ..)
      rw [frame?_modify] at this
      simpa [newFrame, hc] using this

/-- Entering a context leaves the parents and depths of all others as they were. -/
theorem frame_enter_of_ne {t : ContextTree} {entry : ContextEntry} {id : Nat}
    (ne : id ≠ t.nextId) : (t.enter entry).parentOf id = t.parentOf id ∧
      (t.enter entry).depthOf id = t.depthOf id := by
  unfold parentOf depthOf
  rw [frame?_enter, if_neg ne]
  split
  · cases t.frame? id <;> simp [Frame.addChild]
  · exact ⟨rfl, rfl⟩

theorem parentOf_enter_self (t : ContextTree) (entry : ContextEntry) :
    (t.enter entry).parentOf t.nextId = t.current? := by
  simp [parentOf, frame?_enter, newFrame]

theorem depthOf_enter_self (t : ContextTree) (entry : ContextEntry) :
    (t.enter entry).depthOf t.nextId =
      ((t.current?.bind t.frame?).map (·.depth + 1)).getD 0 := by
  simp [depthOf, frame?_enter, newFrame]

/-- A context is one deeper than the one that it was entered from. -/
theorem WellFormed.depthOf_enter_self {t : ContextTree} (wf : t.WellFormed)
    (entry : ContextEntry) {c : Nat} (hc : t.current? = some c) :
    (t.enter entry).depthOf t.nextId = t.depthOf c + 1 := by
  obtain ⟨f, hf⟩ := wf.current_mem hc
  rw [ContextTree.depthOf_enter_self, hc, Option.bind_some, hf, depthOf_eq hf]
  rfl

/-- The contexts below one are those from before, and the new one if it was entered from
there. -/
theorem childrenOf_enter (t : ContextTree) (entry : ContextEntry) (id : Nat) :
    (t.enter entry).childrenOf id =
      t.childrenOf id ++ if t.current? = some id then [t.nextId] else [] := by
  have size : (t.enter entry).frames.size = t.frames.size + 1 := by
    have := nextId_enter t entry
    simpa [nextId] using this
  unfold childrenOf
  rw [size, List.range'_concat, List.filter_append]
  congr 1
  · refine List.filter_congr fun j hj => ?_
    have bound := (List.mem_range'_1.1 hj).2
    rw [(frame_enter_of_ne (show j ≠ t.nextId by simp only [nextId]; omega)).1]
  · have last : 1 + 1 * t.frames.size = t.nextId := by simp only [nextId]; omega
    rw [last, List.filter_singleton, parentOf_enter_self]
    simp

theorem WellFormed.enter {t : ContextTree} (wf : t.WellFormed) (entry : ContextEntry) :
    (t.enter entry).WellFormed where
  -- Every field splits on whether the frame is the new one: the new frame hangs under the active
  -- one, and the old frames keep their parent and depth.
  id_eq {id f} hf := by
    rw [frame?_enter] at hf
    split at hf
    · rename_i new
      cases hf
      exact new.symm
    · split at hf
      · obtain ⟨g, hg, rfl⟩ := Option.map_eq_some_iff.1 hf
        have same : g.id = id := wf.id_eq hg
        exact same
      · exact wf.id_eq hf
  parent_lt {id p} hp := by
    by_cases new : id = t.nextId
    · subst new
      rw [parentOf_enter_self] at hp
      exact wf.current_lt hp
    · rw [(frame_enter_of_ne new).1] at hp
      exact wf.parent_lt hp
  depth_eq {id p} hp := by
    by_cases new : id = t.nextId
    · subst new
      rw [parentOf_enter_self] at hp
      have old : p ≠ t.nextId := Nat.ne_of_lt (wf.current_lt hp).2
      rw [wf.depthOf_enter_self entry hp, (frame_enter_of_ne old).2]
    · rw [(frame_enter_of_ne new).1] at hp
      have old : p ≠ t.nextId :=
        Nat.ne_of_lt (Nat.lt_trans (wf.parent_lt hp).2 (lt_nextId_of_parentOf hp))
      rw [(frame_enter_of_ne new).2, (frame_enter_of_ne old).2]
      exact wf.depth_eq hp
  root_depth {id} hp := by
    by_cases new : id = t.nextId
    · subst new
      rw [parentOf_enter_self] at hp
      rw [ContextTree.depthOf_enter_self, hp]
      rfl
    · rw [(frame_enter_of_ne new).1] at hp
      rw [(frame_enter_of_ne new).2]
      exact wf.root_depth hp
  between {id p j} hp after before := by
    by_cases new : id = t.nextId
    · subst new
      rw [parentOf_enter_self] at hp
      rw [wf.depthOf_enter_self entry hp, (frame_enter_of_ne (Nat.ne_of_lt before)).2]
      exact wf.current_deepest hp after before
    · rw [(frame_enter_of_ne new).1] at hp
      have old : j ≠ t.nextId := Nat.ne_of_lt (Nat.lt_trans before (lt_nextId_of_parentOf hp))
      rw [(frame_enter_of_ne new).2, (frame_enter_of_ne old).2]
      exact wf.between hp after before
  children_eq {id f} hf := by
    rw [childrenOf_enter]
    rw [frame?_enter] at hf
    split at hf
    · rename_i new
      subst new
      cases hf
      have notCurrent : t.current? ≠ some t.nextId :=
        fun hc => Nat.lt_irrefl _ (wf.current_lt hc).2
      simp [newFrame, wf.childrenOf_nextId, notCurrent]
    · split at hf
      · rename_i hc
        obtain ⟨g, hg, rfl⟩ := Option.map_eq_some_iff.1 hf
        rw [if_pos hc, ← wf.children_eq hg]
        rfl
      · rename_i hc
        rw [if_neg hc, List.append_nil]
        exact wf.children_eq hf
  current_mem {c} hc := by
    rw [current?_enter, Option.some.injEq] at hc
    subst hc
    exact ⟨t.newFrame entry, by simp [frame?_enter]⟩
  current_deepest {c j} hc after before := by
    rw [current?_enter, Option.some.injEq] at hc
    rw [nextId_enter] at before
    omega

/-- The tree after the active context has ended. -/
def left (t : ContextTree) (f : Frame) (outcome : ContextOutcome) : ContextTree :=
  { t.modify f.id (fun f => { f with outcome? := some outcome }) with current? := f.parent? }

/-- Ending the active context changes its outcome and makes its parent active. -/
theorem exit_eq_ok {t : ContextTree} {f : Frame} (outcome : ContextOutcome)
    (hc : t.current? = some f.id) (hf : t.frame? f.id = some f) :
    t.exit outcome = .ok (t.left f outcome, f.id) := by
  unfold exit
  rw [hc]
  simp only [get_eq_ok hf]
  rfl

theorem frame?_left (t : ContextTree) (f : Frame) (outcome : ContextOutcome) (id : Nat) :
    (t.left f outcome).frame? id =
      if f.id = id then (t.frame? id).map fun f => { f with outcome? := some outcome }
      else t.frame? id := by
  rw [← frame?_modify]
  cases id <;> rfl

theorem sameShape_left (t : ContextTree) (f : Frame) (outcome : ContextOutcome) :
    SameShape t (t.left f outcome) := by
  have same : SameShape t (t.modify f.id fun f => { f with outcome? := some outcome }) :=
    sameShape_modify t f.id fun _ => rfl
  refine ⟨same.1, fun id => ?_⟩
  rw [← same.2 id]
  cases id <;> rfl

theorem WellFormed.left {t : ContextTree} (wf : t.WellFormed) {f : Frame}
    (hc : t.current? = some f.id) (hf : t.frame? f.id = some f) (outcome : ContextOutcome) :
    (t.left f outcome).WellFormed := by
  refine (sameShape_left t f outcome).wellFormed wf ?_ ?_
  · intro c parent
    have up : t.parentOf f.id = some c := (parentOf_eq hf).trans parent
    obtain ⟨positive, below⟩ := wf.parent_lt up
    exact frame?_eq_some_iff.2 ⟨positive, Nat.lt_trans below (lt_nextId hf)⟩
  · intro c j parent after before
    have up : t.parentOf f.id = some c := (parentOf_eq hf).trans parent
    have depth := wf.depth_eq up
    rcases Nat.lt_trichotomy j f.id with inside | rfl | beyond
    · have := wf.between up after inside
      omega
    · omega
    · have := wf.current_deepest hc beyond before
      omega

/-- The active context is the last child of its parent. -/
theorem WellFormed.lastChild?_eq {t : ContextTree} (wf : t.WellFormed) {c p : Nat} {f : Frame}
    (hc : t.current? = some c) (hp : t.parentOf c = some p) (hf : t.frame? p = some f) :
    f.lastChild? = some c := by
  obtain ⟨positive, before⟩ := wf.current_lt hc
  have bound : c ≤ t.frames.size := Nat.lt_succ_iff.1 before
  have split : List.range' 1 t.frames.size =
      List.range' 1 (c - 1) ++ c :: List.range' (c + 1) (t.frames.size - c) := by
    have total : t.frames.size = (c - 1) + (t.frames.size - c + 1) := by omega
    have start : 1 + (c - 1) = c := by omega
    rw [total, ← List.range'_append_1, start, List.range'_succ]
    congr 4
  -- A later child would be a sibling of the active context, and everything later is deeper.
  have noneLater :
      (List.range' (c + 1) (t.frames.size - c)).filter (fun j => t.parentOf j = some p) = [] := by
    refine List.filter_eq_nil_iff.2 fun j hj sibling => ?_
    have range := List.mem_range'_1.1 hj
    have known : j < t.nextId := by
      unfold nextId
      omega
    have deeper := wf.current_deepest hc (j := j) (by omega) known
    have depth := wf.depth_eq hp
    have depth' := wf.depth_eq (of_decide_eq_true sibling)
    omega
  have isChild : decide (t.parentOf c = some p) = true := decide_eq_true hp
  rw [Frame.lastChild?, wf.children_eq hf, childrenOf, split, List.filter_append,
    List.filter_cons_of_pos (by exact isChild), noneLater]
  exact List.getLast?_concat

/-! ## Frames by number -/

/-- Frames stand in the order of their numbers, which begin at one. -/
theorem WellFormed.ids_eq {t : ContextTree} (wf : t.WellFormed) :
    t.frames.toList.map (·.id) = List.range' 1 t.frames.size := by
  refine List.ext_getElem (by simp) fun i listed _ => ?_
  have inside : i < t.frames.size := by simpa using listed
  have found : t.frame? (i + 1) = some t.frames[i] := Array.getElem?_eq_getElem inside
  simpa [Nat.add_comm] using wf.id_eq found

/-- The children of a context are the contexts that it is the parent of. -/
theorem WellFormed.mem_children {t : ContextTree} (wf : t.WellFormed) {c p : Nat} {f : Frame}
    (hf : t.frame? p = some f) : c ∈ f.children ↔ t.parentOf c = some p := by
  rw [wf.children_eq hf, childrenOf, List.mem_filter, decide_eq_true_iff]
  refine ⟨And.right, fun parent => ⟨?_, parent⟩⟩
  obtain ⟨g, hg, -⟩ := Option.bind_eq_some_iff.1 parent
  obtain ⟨positive, before⟩ := frame?_eq_some_iff.1 ⟨g, hg⟩
  exact List.mem_range'_1.2 ⟨positive, by simp only [nextId] at before; omega⟩

/-- Children exist. -/
theorem WellFormed.frame_of_child {t : ContextTree} (wf : t.WellFormed) {id : Nat} {f : Frame}
    (hf : t.frame? id = some f) : ∀ c ∈ f.children, ∃ g, t.frame? c = some g := by
  intro c listed
  obtain ⟨g, hg, -⟩ := Option.bind_eq_some_iff.1 ((wf.mem_children hf).1 listed)
  exact ⟨g, hg⟩

/-! ## Traversals -/

/-- **The worklist of a traversal** that has visited everything before `lo`: what comes from
there on, up to `stop`, and is not below anything else that is still to come. -/
def frontier (t : ContextTree) (lo stop : Nat) : List Nat :=
  (List.range' lo (stop - lo)).filter fun j => (t.parentOf j).all (· < lo)

/-- The number to be visited next heads the worklist. -/
theorem WellFormed.frontier_eq_cons {t : ContextTree} (wf : t.WellFormed) {lo stop : Nat}
    (within : lo < stop) : t.frontier lo stop =
      lo :: (List.range' (lo + 1) (stop - (lo + 1))).filter
        fun j => (t.parentOf j).all (· < lo) := by
  unfold frontier
  rw [show stop - lo = stop - (lo + 1) + 1 by omega, List.range'_succ, List.filter_cons,
    if_pos (wf.all_parentOf_lt lo)]

/-- Two kinds of elements, all of one kind before all of the other, are what they are
together. -/
theorem filter_append_filter_of_pairwise {p q : Nat → Bool} {xs : List Nat}
    (apart : ∀ x ∈ xs, p x → q x = false)
    (ordered : xs.Pairwise fun x y => q x → p y = false) :
    xs.filter p ++ xs.filter q = xs.filter fun x => p x || q x := by
  induction xs with
  | nil => rfl
  | cons x xs ih =>
      obtain ⟨first, ordered⟩ := List.pairwise_cons.1 ordered
      have rest := ih (fun y hy => apart y (List.mem_cons_of_mem _ hy)) ordered
      cases hp : p x with
      | true =>
          have hq := apart x (List.mem_cons_self ..) hp
          simp [hp, hq, rest]
      | false =>
          cases hq : q x with
          | false => simp [hp, hq, rest]
          | true =>
              have noneLeft : xs.filter p = [] :=
                List.filter_eq_nil_iff.2 fun y hy => by simp [first y hy hq]
              rw [noneLeft, List.nil_append] at rest
              simp [hp, hq, noneLeft, rest]

/-- Replacing the next context by its children moves the worklist one number ahead. -/
theorem WellFormed.frontier_succ {t : ContextTree} (wf : t.WellFormed) {lo stop : Nat}
    (within : lo < stop) (bound : stop ≤ t.nextId)
    (closed : ∀ {j p}, stop ≤ j → t.parentOf j = some p → lo ≤ p → stop ≤ p) :
    t.childrenOf lo ++ (t.frontier lo stop).tail = t.frontier (lo + 1) stop := by
  obtain ⟨k, hk⟩ : ∃ k, stop - (lo + 1) = k := ⟨_, rfl⟩
  -- The children of `lo` lie between `lo` and `stop`: a parent comes before its children, and
  -- nothing from `stop` on has its parent there.
  have below : t.childrenOf lo =
      (List.range' (lo + 1) k).filter fun j => t.parentOf j = some lo := by
    have split : List.range' 1 t.frames.size =
        List.range' 1 lo ++ (List.range' (lo + 1) k ++ List.range' stop (t.nextId - stop)) := by
      have size : t.frames.size = lo + (k + (t.nextId - stop)) := by
        simp only [nextId] at *
        omega
      rw [size, ← List.range'_append_1, ← List.range'_append_1]
      congr 3 <;> omega
    have before : (List.range' 1 lo).filter (fun j => t.parentOf j = some lo) = [] := by
      refine List.filter_eq_nil_iff.2 fun j hj child => ?_
      have above := (wf.parent_lt (of_decide_eq_true child)).2
      have := (List.mem_range'_1.1 hj).2
      omega
    have after : (List.range' stop (t.nextId - stop)).filter
        (fun j => t.parentOf j = some lo) = [] := by
      refine List.filter_eq_nil_iff.2 fun j hj child => ?_
      have := closed (List.mem_range'_1.1 hj).1 (of_decide_eq_true child) (Nat.le_refl lo)
      omega
    unfold childrenOf
    rw [split, List.filter_append, List.filter_append, before, after, List.nil_append,
      List.append_nil]
  rw [wf.frontier_eq_cons within, List.tail_cons, below, hk,
    filter_append_filter_of_pairwise]
  · unfold frontier
    rw [hk]
    refine List.filter_congr fun j _ => ?_
    cases t.parentOf j with
    | none => simp
    | some p =>
        rw [Bool.eq_iff_iff, Option.all_some, Option.all_some, Bool.or_eq_true]
        simp only [decide_eq_true_iff, Option.some_inj]
        omega
  · intro j _ child
    simp [of_decide_eq_true child]
  -- The children come before what else is left of the worklist: between `lo` and a child of it
  -- there are only contexts below `lo`.
  · refine List.Pairwise.imp_of_mem ?_ List.pairwise_lt_range'
    intro i j hi _ inOrder outside
    refine decide_eq_false fun child => ?_
    have after := (List.mem_range'_1.1 hi).1
    have deeper := wf.between child after inOrder
    have childDepth := wf.depth_eq child
    cases hp : t.parentOf i with
    | none =>
        have := wf.root_depth hp
        omega
    | some p =>
        rw [hp, Option.all_some, decide_eq_true_eq] at outside
        have := wf.between hp outside after
        omega

/-- **A traversal visits numbers in ascending order.** -/
theorem WellFormed.preorder_frontier {t : ContextTree} (wf : t.WellFormed) {stop : Nat}
    (bound : stop ≤ t.nextId) :
    ∀ (fuel lo : Nat), 0 < lo → stop - lo ≤ fuel →
      (∀ {j p}, stop ≤ j → t.parentOf j = some p → lo ≤ p → stop ≤ p) →
        t.preorder fuel (t.frontier lo stop) = List.range' lo (stop - lo) := by
  intro fuel
  induction fuel with
  | zero =>
      intro lo _ enough _
      rw [show stop - lo = 0 by omega]
      rfl
  | succ fuel ih =>
      intro lo positive enough closed
      by_cases within : lo < stop
      · obtain ⟨f, hf⟩ : ∃ f, t.frame? lo = some f :=
          frame?_eq_some_iff.2 ⟨positive, by omega⟩
        have head : t.frontier lo stop = lo :: (t.frontier lo stop).tail := by
          rw [wf.frontier_eq_cons within, List.tail_cons]
        rw [head, preorder, hf]
        simp only
        rw [wf.children_eq hf, wf.frontier_succ within bound closed,
          ih (lo + 1) (by omega) (by omega) fun h hp hle => closed h hp (by omega),
          show stop - lo = stop - (lo + 1) + 1 by omega, List.range'_succ]
      · have done : stop - lo = 0 := by omega
        unfold frontier
        rw [done]
        rfl

/-- What comes after everything below a context has its parent there too, or before the context. -/
theorem WellFormed.stop_le_parent {t : ContextTree} (wf : t.WellFormed) {id stop : Nat}
    (deeper : ∀ {j}, id < j → j < stop → t.depthOf id < t.depthOf j)
    (ends : stop < t.nextId → t.depthOf stop ≤ t.depthOf id) {j p : Nat} (beyond : stop ≤ j)
    (hp : t.parentOf j = some p) (fromHere : id ≤ p) : stop ≤ p := by
  rcases Nat.lt_or_ge p stop with early | late
  · exfalso
    have shallow : t.depthOf p + 1 ≤ t.depthOf stop := by
      rcases Nat.lt_or_eq_of_le beyond with later | rfl
      · have := wf.between hp early later
        have := wf.depth_eq hp
        omega
      · have := wf.depth_eq hp
        omega
    have known := lt_nextId_of_parentOf hp
    have low := ends (by omega)
    rcases Nat.lt_or_eq_of_le fromHere with inside | rfl
    · have := deeper inside early
      omega
    · omega
  · exact late

/-- **A traversal from a context** visits its own number, and those up to the next one that is not
deeper, as long as it is not cut short. -/
theorem WellFormed.preorder_eq {t : ContextTree} (wf : t.WellFormed) {id stop : Nat} {f : Frame}
    (hf : t.frame? id = some f) (after : id < stop) (bound : stop ≤ t.nextId)
    (deeper : ∀ {j}, id < j → j < stop → t.depthOf id < t.depthOf j)
    (ends : stop < t.nextId → t.depthOf stop ≤ t.depthOf id) {fuel : Nat}
    (enough : stop - id ≤ fuel) : t.preorder fuel [id] = List.range' id (stop - id) := by
  have single : t.frontier id stop = [id] := by
    have inside : (List.range' (id + 1) (stop - (id + 1))).filter
        (fun j => (t.parentOf j).all (· < id)) = [] := by
      refine List.filter_eq_nil_iff.2 fun j hj outside => ?_
      have range := List.mem_range'_1.1 hj
      have deep := deeper (j := j) (by omega) (by omega)
      cases hp : t.parentOf j with
      | none =>
          have := wf.root_depth hp
          omega
      | some p =>
          rw [hp, Option.all_some, decide_eq_true_eq] at outside
          have := wf.between hp outside (by omega)
          omega
    rw [wf.frontier_eq_cons after, inside]
  rw [← single]
  exact wf.preorder_frontier bound fuel id (frame?_eq_some_iff.1 ⟨f, hf⟩).1 enough
    (wf.stop_le_parent deeper ends)

/-- **A context and everything below it are consecutive numbers**: the context's own, and those
up to the next one that is not deeper. -/
theorem WellFormed.subtree_eq {t : ContextTree} (wf : t.WellFormed) {id stop : Nat} {f : Frame}
    (hf : t.frame? id = some f) (after : id < stop) (bound : stop ≤ t.nextId)
    (deeper : ∀ {j}, id < j → j < stop → t.depthOf id < t.depthOf j)
    (ends : stop < t.nextId → t.depthOf stop ≤ t.depthOf id) :
    t.subtree id = .ok (List.range' id (stop - id)) := by
  have positive := (frame?_eq_some_iff.1 ⟨f, hf⟩).1
  unfold subtree
  rw [get_eq_ok hf]
  refine congrArg Except.ok (wf.preorder_eq hf after bound deeper ends ?_)
  simp only [nextId] at bound
  omega

/-! ## Rolling back -/

/-- Stamping a list of contexts stamps each of them once. -/
theorem frame?_foldl_stampReverted (stamp : Nat) (ids : List Nat) :
    ∀ (t : ContextTree) (id : Nat),
      (ids.foldl (fun t id => t.modify id (·.stampReverted stamp)) t).frame? id =
        if id ∈ ids then (t.frame? id).map (·.stampReverted stamp) else t.frame? id := by
  induction ids with
  | nil => simp
  | cons x ids ih =>
      intro t id
      rw [List.foldl_cons, ih, frame?_modify]
      by_cases same : x = id
      · subst same
        cases t.frame? x <;> simp [Frame.stampReverted]
      · have other : id ≠ x := fun h => same h.symm
        simp [same, other]

theorem sameShape_foldl_stampReverted (stamp : Nat) (ids : List Nat) :
    ∀ t : ContextTree,
      SameShape t (ids.foldl (fun t id => t.modify id (·.stampReverted stamp)) t) ∧
        (ids.foldl (fun t id => t.modify id (·.stampReverted stamp)) t).current? = t.current? := by
  induction ids with
  | nil => exact fun t => ⟨⟨rfl, fun _ => rfl⟩, rfl⟩
  | cons x ids ih =>
      intro t
      have step : SameShape t (t.modify x (·.stampReverted stamp)) :=
        sameShape_modify t x fun _ => rfl
      obtain ⟨shape, current⟩ := ih (t.modify x (·.stampReverted stamp))
      refine ⟨step.trans shape, current.trans ?_⟩
      cases x <;> rfl

/-- The tree after the contexts numbered from `id` on have been stamped. -/
def revertedFrom (t : ContextTree) (id stamp : Nat) : ContextTree :=
  (List.range' id (t.nextId - id)).foldl (fun t id => t.modify id (·.stampReverted stamp)) t

theorem frame?_revertedFrom (t : ContextTree) (id stamp other : Nat) :
    (t.revertedFrom id stamp).frame? other =
      if id ≤ other then (t.frame? other).map (·.stampReverted stamp) else t.frame? other := by
  unfold revertedFrom
  rw [frame?_foldl_stampReverted]
  by_cases after : id ≤ other
  · by_cases known : other < t.nextId
    · rw [if_pos (List.mem_range'_1.2 (by omega)), if_pos after]
    · rw [frame?_eq_none (by omega)]
      simp
  · rw [if_neg (fun h => after (List.mem_range'_1.1 h).1), if_neg after]

@[simp]
theorem current?_revertedFrom (t : ContextTree) (id stamp : Nat) :
    (t.revertedFrom id stamp).current? = t.current? :=
  (sameShape_foldl_stampReverted stamp _ t).2

theorem sameShape_revertedFrom (t : ContextTree) (id stamp : Nat) :
    SameShape t (t.revertedFrom id stamp) :=
  (sameShape_foldl_stampReverted stamp _ t).1

theorem WellFormed.revertedFrom {t : ContextTree} (wf : t.WellFormed) (id stamp : Nat) :
    (t.revertedFrom id stamp).WellFormed := by
  refine (sameShape_revertedFrom t id stamp).wellFormed wf ?_ ?_
  · intro c hc
    exact wf.current_mem (by rwa [current?_revertedFrom] at hc)
  · intro c j hc
    exact wf.current_deepest (by rwa [current?_revertedFrom] at hc)

/-- Where everything entered after a context lies below it, rolling it back stamps all of
that. -/
theorem WellFormed.markReverted_eq {t : ContextTree} (wf : t.WellFormed) {id : Nat} {f : Frame}
    (hf : t.frame? id = some f) (stamp : Nat)
    (deeper : ∀ {j}, id < j → j < t.nextId → t.depthOf id < t.depthOf j) :
    t.markReverted id stamp = .ok (t.revertedFrom id stamp) := by
  have subtree := wf.subtree_eq hf (lt_nextId hf) (Nat.le_refl _) deeper
    (fun h => absurd h (Nat.lt_irrefl _))
  unfold markReverted
  rw [subtree]
  rfl

end ContextTree

end ExecutionTrace
