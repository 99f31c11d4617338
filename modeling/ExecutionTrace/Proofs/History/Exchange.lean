import ExecutionTrace.Proofs.Run.Call
import ExecutionTrace.Proofs.State.Moves

/-!
# What a call does to its parties

A call moves its value and warms its callee.  Seen through the accounts this changes at most the
faces of the two parties; seen through the snapshots of the section it is two rows forward and two
rows back.  This file proves that both are the same.

## Main Definitions

* `CallSection.Concerns` — snapshots of the parties of a call, with deployment information of now
* `CallSection.Exchange` — snapshots before and after a call that agree with the views before and
  after it
* `Exchange.forward`, `Exchange.backward`, `Exchange.failure` — the rows of the call lead from one
  view to the other, and those that undo it lead back
* `CallSection.exchange_of_transferred` — the snapshots of a call agree with the world

## Design Notes

A call whose caller is its own callee leaves the view alone: what it pays it receives, and being
the caller it is warm already.  If the value is not zero its rows still go somewhere else and
back, so the snapshots in between agree with no view at all.
-/

namespace ExecutionTrace

/-- The face of a warm account. -/
def Face.warmed (x : Face) : Face :=
  { x with isWarm := true }

theorem Face.warmed_of_isWarm {x : Face} (warm : x.isWarm = true) : x.warmed = x := by
  cases x
  cases warm
  rfl

namespace WorldState

variable {chain : Chain} {incarnations : Incarnations}

theorem view_warmUp_of_warm {world : WorldState} {a : Address}
    (warm : (world.view chain incarnations a).isWarm = true) :
    (world.warmUp a).view chain incarnations = world.view chain incarnations := by
  rw [view_warmUp]
  exact (congrArg _ (Face.warmed_of_isWarm warm)).trans (Function.update_eq_self ..)

end WorldState

namespace CallSection

variable {chain : Chain} {incarnations : Incarnations} {world : WorldState} {c : CallSection}

/-! ## The world after a call -/

/-- The view after value has moved from the caller to the callee. -/
theorem view_moved_of_paid (chain : Chain) (incarnations : Incarnations)
    (moves : c.kind.movesValue = true) {left : Word}
    (paid : Word.checkedSub (world.balance c.caller) c.value = some left) :
    ∃ u, u = Function.update (world.view chain incarnations) c.callee
        (world.view chain incarnations c.callee).warmed ∧
      ∃ w, w = Function.update u c.caller { u c.caller with balance := left } ∧
        (c.moved world).view chain incarnations = Function.update w c.callee
          { w c.callee with balance := Word.saturatingAdd (w c.callee).balance c.value } := by
  refine ⟨_, rfl, _, rfl, ?_⟩
  have debited := WorldState.debit?_eq (world.warmUp c.callee) (a := c.caller) paid
  unfold moved
  dsimp only
  rw [if_pos moves, debited]
  have warmed : (world.warmUp c.callee).view chain incarnations =
      Function.update (world.view chain incarnations) c.callee
        (world.view chain incarnations c.callee).warmed := WorldState.view_warmUp ..
  have charged :=
    WorldState.view_setBalance chain (world.warmUp c.callee) incarnations c.caller left
  rw [warmed] at charged
  refine (WorldState.view_setBalance ..).trans ?_
  show Function.update (((world.warmUp c.callee).setBalance c.caller left).view chain incarnations)
    c.callee {
      ((world.warmUp c.callee).setBalance c.caller left).view chain incarnations c.callee with
      balance := Word.saturatingAdd (((world.warmUp c.callee).setBalance c.caller left).view chain
        incarnations c.callee).balance c.value } = _
  rw [charged]

/-- Of a call that can be paid for, everybody but its parties takes no notice. -/
theorem view_moved_elsewhere
    (payable : c.kind.movesValue = true → c.value.toNat ≤ (world.balance c.caller).toNat)
    {a : Address} (notCaller : a ≠ c.caller) (notCallee : a ≠ c.callee) :
    (c.moved world).view chain incarnations a = world.view chain incarnations a := by
  by_cases moves : c.kind.movesValue = true
  · obtain ⟨left, paid⟩ := Word.checkedSub_isSome (payable moves)
    obtain ⟨u, hu, w, hw, moved⟩ := view_moved_of_paid chain incarnations moves paid
    rw [moved, Function.update_of_ne notCallee, hw, Function.update_of_ne notCaller, hu,
      Function.update_of_ne notCallee]
  · rw [CallSection.moved, if_neg moves, WorldState.view_warmUp, Function.update_of_ne notCallee]

/-- A call of a warm account to itself leaves everything as it was. -/
theorem view_moved_self
    (payable : c.kind.movesValue = true → c.value.toNat ≤ (world.balance c.caller).toNat)
    (warm : (world.view chain incarnations c.caller).isWarm = true) (same : c.caller = c.callee) :
    (c.moved world).view chain incarnations = world.view chain incarnations := by
  by_cases moves : c.kind.movesValue = true
  · obtain ⟨left, paid⟩ := Word.checkedSub_isSome (payable moves)
    obtain ⟨u, hu, w, hw, moved⟩ := view_moved_of_paid chain incarnations moves paid
    rw [← same] at hu moved
    have unchanged : u = world.view chain incarnations := by
      rw [hu, Face.warmed_of_isWarm warm, Function.update_eq_self]
    rw [unchanged] at hw
    have back :
        Word.saturatingAdd left c.value = (world.view chain incarnations c.caller).balance :=
      Word.saturatingAdd_of_checkedSub paid
    rw [moved, hw, Function.update_self, Function.update_idem]
    dsimp only
    rw [back, Function.update_eq_self]
  · rw [CallSection.moved, if_neg moves]
    exact WorldState.view_warmUp_of_warm (same ▸ warm)

/-! ## The snapshots of a call -/

/-- **Snapshots of the parties of a call**, carrying the deployment information of now. -/
structure Concerns (incarnations : Incarnations) (c : CallSection) (p : Parties) : Prop where
  caller : p.caller.address = c.caller
  callee : p.callee.address = c.callee
  callerCurrent : p.caller.IsCurrent incarnations
  calleeCurrent : p.callee.IsCurrent incarnations

theorem concerns_canonical (chain : Chain) (world : WorldState) (incarnations : Incarnations)
    (c : CallSection) :
    c.Concerns incarnations (.canonical chain world incarnations c.caller c.callee) :=
  ⟨Snapshot.address_canonical .., Snapshot.address_canonical .., Snapshot.isCurrent_canonical ..,
    Snapshot.isCurrent_canonical ..⟩

/-- A transfer changes neither addresses nor deployment information. -/
theorem Concerns.transferred {p q : Parties} (h : c.Concerns incarnations p)
    (transferred : c.Transferred p q) : c.Concerns incarnations q := by
  unfold Transferred at transferred
  split at transferred
  · obtain ⟨left, sum, -, -, rfl⟩ := transferred
    exact ⟨h.caller, h.callee, h.callerCurrent, h.calleeCurrent⟩
  · subst transferred
    exact ⟨h.caller, h.callee, h.callerCurrent, h.calleeCurrent⟩

theorem Concerns.calleeWarmed {p : Parties} (h : c.Concerns incarnations p) :
    c.Concerns incarnations { p with callee := p.callee.warmedUp } :=
  ⟨h.caller, h.callee, h.callerCurrent, h.calleeCurrent⟩

/-- It only matters who the parties are. -/
theorem Concerns.congr {c' : CallSection} {p : Parties} (h : c.Concerns incarnations p)
    (caller : c'.caller = c.caller) (callee : c'.callee = c.callee) :
    c'.Concerns incarnations p :=
  ⟨h.caller.trans caller.symm, h.callee.trans callee.symm, h.callerCurrent, h.calleeCurrent⟩

theorem caller_eq_of_isSelfTransfer (self : c.isSelfTransfer = true) : c.caller = c.callee := by
  simp only [isSelfTransfer, Bool.and_eq_true, beq_iff_eq] at self
  exact self.1.2

/-- The snapshots show what a view shows. -/
structure Shows (c : CallSection) (p : Parties) (v : View) : Prop where
  caller : p.caller.face = v c.caller
  callee : p.callee.face = v c.callee

theorem shows_canonical (chain : Chain) (world : WorldState) (incarnations : Incarnations)
    (c : CallSection) : c.Shows (.canonical chain world incarnations c.caller c.callee)
      (world.view chain incarnations) :=
  ⟨WorldState.face_canonical .., WorldState.face_canonical ..⟩

/-- **Two views between which only the parties of a call differ**, and only if they are two. -/
structure Aside (c : CallSection) (v w : View) : Prop where
  elsewhere : ∀ a, a ≠ c.caller → a ≠ c.callee → w a = v a
  same : c.caller = c.callee → w = v

namespace Aside

variable {u v w : View}

theorem refl (c : CallSection) (v : View) : c.Aside v v :=
  ⟨fun _ _ _ => rfl, fun _ => rfl⟩

theorem symm (h : c.Aside v w) : c.Aside w v :=
  ⟨fun a first second => (h.elsewhere a first second).symm, fun one => (h.same one).symm⟩

theorem trans (h : c.Aside u v) (h' : c.Aside v w) : c.Aside u w :=
  ⟨fun a first second => (h'.elsewhere a first second).trans (h.elsewhere a first second),
    fun one => (h'.same one).trans (h.same one)⟩

/-- Warming the callee of a warm caller. -/
theorem warmed (warm : (v c.caller).isWarm = true) :
    c.Aside v (Function.update v c.callee (v c.callee).warmed) := by
  refine ⟨fun a _ second => Function.update_of_ne second .., fun one => ?_⟩
  rw [← one, Face.warmed_of_isWarm warm, Function.update_eq_self]

end Aside

theorem Shows.calleeWarmed {p : Parties} {v : View} (h : c.Shows p v)
    (warm : (v c.caller).isWarm = true) : c.Shows { p with callee := p.callee.warmedUp }
      (Function.update v c.callee (v c.callee).warmed) := by
  constructor
  · by_cases one : c.caller = c.callee
    · rw [(Aside.warmed warm).same one]
      exact h.caller
    · rw [Function.update_of_ne one]
      exact h.caller
  · rw [Function.update_self]
    exact congrArg Face.warmed h.callee

/-- **Two snapshots of each party** make two moves. -/
theorem leads_between {p q : Parties} {v w : View} (before : c.Concerns incarnations p)
    (shown : c.Shows p v) (shown' : c.Shows q w) (aside : c.Aside v w) :
    Leads v [Transition.move ⟨p.caller, q.caller⟩, Transition.move ⟨p.callee, q.callee⟩] w := by
  show Leads v [⟨p.caller.address, p.caller.face, q.caller.face⟩,
    ⟨p.callee.address, p.callee.face, q.callee.face⟩] w
  rw [before.caller, before.callee, shown.caller, shown.callee, shown'.caller, shown'.callee]
  exact .pair aside.elsewhere aside.same

/-- **One account goes back** to the face that it had in a view. -/
theorem leads_single {t : Transition} {a : Address} {v w : View} (address : t.before.address = a)
    (source : t.before.face = w a) (target : t.after.face = v a)
    (only : w = Function.update v a (w a)) : Leads w [t.move] v := by
  show Leads w [⟨t.before.address, t.before.face, t.after.face⟩] v
  rw [address, source, target]
  refine ⟨rfl, ?_⟩
  show v = Function.update w a (v a)
  rw [only, Function.update_idem, Function.update_eq_self]

/-- Two snapshots of each party make the two moves back, in either order. -/
theorem leads_back {p q : Parties} {v w : View} (after : c.Concerns incarnations q)
    (shown : c.Shows p v) (shown' : c.Shows q w) (aside : c.Aside v w) :
    Leads w ((c.undoingOrder ⟨q.caller, p.caller⟩ ⟨q.callee, p.callee⟩).map Transition.move) v := by
  unfold undoingOrder
  split
  · show Leads w [⟨q.callee.address, q.callee.face, p.callee.face⟩,
      ⟨q.caller.address, q.caller.face, p.caller.face⟩] v
    rw [after.caller, after.callee, shown.caller, shown.callee, shown'.caller, shown'.callee]
    exact .pair (fun a second first => aside.symm.elsewhere a first second)
      fun one => aside.symm.same one.symm
  · exact leads_between after shown' shown aside.symm

theorem map_move_undoingRows (c : CallSection) (revertStamp : Nat) (caller callee : Transition) :
    (c.undoingRows revertStamp caller callee).map AccountRow.move =
      (c.undoingOrder caller callee).map Transition.move := by
  unfold undoingRows undoingOrder
  cases c.isSelfTransfer <;> rfl

/-- **Snapshots before and after a call that agree with the views before and after it.** -/
structure Exchange (incarnations : Incarnations) (c : CallSection) (v w : View) (p q : Parties) :
    Prop where
  before : c.Concerns incarnations p
  after : c.Concerns incarnations q
  warm : (v c.caller).isWarm = true
  stillWarm : q.caller.isWarm = true
  aside : c.Aside v w
  shown : c.Shows p v
  /-- What an account has paid but not received yet shows in no view. -/
  shown' : c.isSelfTransfer = false → c.Shows q w

namespace Exchange

variable {v w : View} {p q : Parties}

/-- It only matters who the parties are and what moves between them. -/
theorem congr {c' : CallSection} (h : c.Exchange incarnations v w p q)
    (caller : c'.caller = c.caller) (callee : c'.callee = c.callee)
    (self : c'.isSelfTransfer = c.isSelfTransfer) : c'.Exchange incarnations v w p q := by
  refine ⟨h.before.congr caller callee, h.after.congr caller callee, caller ▸ h.warm, h.stillWarm,
    ⟨?_, ?_⟩, ⟨?_, ?_⟩, fun plain => ⟨?_, ?_⟩⟩
  · rw [caller, callee]
    exact h.aside.elsewhere
  · rw [caller, callee]
    exact h.aside.same
  · rw [caller]
    exact h.shown.caller
  · rw [callee]
    exact h.shown.callee
  · rw [caller]
    exact (h.shown' (self ▸ plain)).caller
  · rw [callee]
    exact (h.shown' (self ▸ plain)).callee

/-- **The rows of a call show what it did.** -/
theorem forward (h : c.Exchange incarnations v w p q) (executes : Bool) :
    Leads v ((c.forwardRows ⟨p.caller, q.caller⟩ (c.calleeTransition p q) executes).map
      AccountRow.move) w := by
  show Leads v [Transition.move ⟨p.caller, q.caller⟩, (c.calleeTransition p q).move] w
  unfold calleeTransition
  by_cases self : c.isSelfTransfer = true
  · rw [if_pos self, h.aside.same (caller_eq_of_isSelfTransfer self)]
    show Leads v [⟨p.caller.address, p.caller.face, q.caller.face⟩,
      ⟨q.caller.address, q.caller.face, p.caller.face⟩] v
    rw [h.before.caller, h.after.caller, h.shown.caller]
    exact .swing ..
  · rw [if_neg self]
    exact leads_between h.before h.shown (h.shown' (Bool.eq_false_iff.2 self)) h.aside

/-- **The rows that undo a call lead back.** -/
theorem backward (h : c.Exchange incarnations v w p q) :
    Leads w ((c.undoingOrder ⟨q.caller, p.caller⟩ (c.calleeTransition p q).reverse).map
      Transition.move) v := by
  unfold undoingOrder calleeTransition
  by_cases self : c.isSelfTransfer = true
  · rw [if_pos self, if_pos self, h.aside.same (caller_eq_of_isSelfTransfer self)]
    show Leads v [⟨p.caller.address, p.caller.face, q.caller.face⟩,
      ⟨q.caller.address, q.caller.face, p.caller.face⟩] v
    rw [h.before.caller, h.after.caller, h.shown.caller]
    exact .swing ..
  · rw [if_neg self, if_neg self]
    exact leads_between h.after (h.shown' (Bool.eq_false_iff.2 self)) h.shown h.aside.symm

/-- **The rows that undo a failed call leave its callee warm.** -/
theorem failure (h : c.Exchange incarnations v w p q) (later : Incarnations) (revertStamp : Nat) :
    Leads w ((c.failureRows later revertStamp p q).map AccountRow.move)
      (Function.update v c.callee (v c.callee).warmed) := by
  have warmer := Aside.warmed h.warm
  unfold failureRows
  dsimp only
  rw [map_move_undoingRows]
  unfold undoingOrder calleeTransition
  by_cases self : c.isSelfTransfer = true
  · have one := caller_eq_of_isSelfTransfer self
    rw [if_pos self, if_pos self, h.aside.same one, warmer.same one]
    show Leads v [⟨p.caller.address, p.caller.face, q.caller.face.warmed⟩,
      ⟨q.caller.address, q.caller.face, p.caller.face⟩] v
    rw [h.before.caller, h.after.caller, h.shown.caller, Face.warmed_of_isWarm h.stillWarm]
    exact .swing ..
  · rw [if_neg self, if_neg self]
    exact leads_between h.after (h.shown' (Bool.eq_false_iff.2 self))
      (h.shown.calleeWarmed h.warm) (h.aside.symm.trans warmer)

end Exchange

/-- What a call does to the world, it does to its parties. -/
theorem aside_moved (chain : Chain) (incarnations : Incarnations)
    (payable : c.kind.movesValue = true → c.value.toNat ≤ (world.balance c.caller).toNat)
    (warm : (world.view chain incarnations c.caller).isWarm = true) :
    c.Aside (world.view chain incarnations) ((c.moved world).view chain incarnations) :=
  ⟨fun _ => view_moved_elsewhere payable, view_moved_self payable warm⟩

/-- The snapshots after a transfer that is not one to oneself show the world after it. -/
theorem shows_of_transferred {p q : Parties} (shown : c.Shows p (world.view chain incarnations))
    (warm : (world.view chain incarnations c.caller).isWarm = true)
    (transferred : c.Transferred p q) (plain : c.isSelfTransfer = false) :
    c.Shows q ((c.moved world).view chain incarnations) := by
  obtain ⟨caller, callee⟩ := shown
  rw [Transferred] at transferred
  by_cases moves : c.kind.movesValue = true
  · rw [if_pos moves] at transferred
    obtain ⟨left, sum, paid, received, rfl⟩ := transferred
    rw [show p.caller.balance = world.balance c.caller from congrArg Face.balance caller] at paid
    rw [show p.callee.balance = world.balance c.callee from congrArg Face.balance callee]
      at received
    have callerAfter : (Snapshot.face { p.caller with balance := left }) =
        { world.view chain incarnations c.caller with balance := left } :=
      congrArg (fun x : Face => { x with balance := left }) caller
    have calleeAfter : (Snapshot.face { p.callee.warmedUp with balance := sum }) =
        { (world.view chain incarnations c.callee).warmed with balance := sum } :=
      congrArg (fun x : Face => { x.warmed with balance := sum }) callee
    suffices both :
        { world.view chain incarnations c.caller with balance := left } =
            (c.moved world).view chain incarnations c.caller ∧
          { (world.view chain incarnations c.callee).warmed with balance := sum } =
            (c.moved world).view chain incarnations c.callee from
      ⟨callerAfter.trans both.1, calleeAfter.trans both.2⟩
    by_cases one : c.caller = c.callee
    · -- Nothing is sent, so the account is what it was.
      have nothing : c.value = 0 := by
        simpa [isSelfTransfer, moves, one] using plain
      have payable : c.kind.movesValue = true → c.value.toNat ≤ (world.balance c.caller).toNat := by
        simp [nothing]
      rw [view_moved_self payable warm one, ← one]
      rw [nothing] at paid received
      rw [Word.eq_of_checkedSub_zero paid, Word.eq_of_checkedAdd_zero received, ← one,
        Face.warmed_of_isWarm warm]
      exact ⟨rfl, rfl⟩
    · obtain ⟨u, hu, w, hw, moved⟩ := view_moved_of_paid chain incarnations moves paid
      have calleeBefore : w c.callee = (world.view chain incarnations c.callee).warmed := by
        rw [hw, Function.update_of_ne (Ne.symm one), hu, Function.update_self]
      have credited : Word.saturatingAdd (w c.callee).balance c.value = sum := by
        rw [calleeBefore]
        exact Word.saturatingAdd_eq_of_checkedAdd received
      rw [moved, Function.update_of_ne one, Function.update_self, credited, calleeBefore, hw,
        Function.update_self, hu, Function.update_of_ne one]
      exact ⟨rfl, rfl⟩
  · rw [if_neg moves] at transferred
    subst transferred
    rw [CallSection.moved, if_neg moves, WorldState.view_warmUp]
    constructor
    · by_cases one : c.caller = c.callee
      · rw [← one, Function.update_self]
        exact caller.trans (Face.warmed_of_isWarm warm).symm
      · rw [Function.update_of_ne one]
        exact caller
    · rw [Function.update_self]
      exact congrArg Face.warmed callee

/-- **The snapshots of a call agree with the world.** -/
theorem exchange_of_transferred {p q : Parties}
    (captured : p = .canonical chain world incarnations c.caller c.callee)
    (warm : (world.view chain incarnations c.caller).isWarm = true)
    (transferred : c.Transferred p q)
    (payable : c.kind.movesValue = true → c.value.toNat ≤ (world.balance c.caller).toNat) :
    c.Exchange incarnations (world.view chain incarnations)
      ((c.moved world).view chain incarnations) p q := by
  have concerns : c.Concerns incarnations p := captured ▸ concerns_canonical ..
  have shown : c.Shows p (world.view chain incarnations) := captured ▸ shows_canonical ..
  have stillWarm : q.caller.isWarm = true := by
    have before : p.caller.isWarm = true := (congrArg Face.isWarm shown.caller).trans warm
    unfold Transferred at transferred
    split at transferred
    · obtain ⟨left, sum, -, -, rfl⟩ := transferred
      exact before
    · subst transferred
      exact before
  exact ⟨concerns, concerns.transferred transferred, warm, stillWarm,
    aside_moved chain incarnations payable warm, shown,
    shows_of_transferred shown warm transferred⟩

end CallSection

end ExecutionTrace
