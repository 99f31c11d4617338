import ExecutionTrace.Machine.Script

/-!
# What a computation that may fail leads to

Announcements and steps are state transformers that may fail half-way.  A statement about one
of them has two halves: what holds of the result and the new state when it succeeds, and which
violations or faults it may fail with.  `Yields` states both at once, so that one analysis of
a step serves the theorems about what it does and those about how it can fail.

## Main Definitions

* `Grants` — a postcondition on success and a condition on the error, for a function without state
* `Ends` — the same for a computation, the state that it leaves behind included
* `Yields` — a postcondition on success, a condition on the error alone on failure
* `Leaves`, `Settles` — what holds of the state in either case

## Design Notes

A driver may go on after a failure, and what it finds then is what `Ends` is about.  A failed step
ends a run, so `Yields` says nothing about the state that a failure leaves behind; it is a case of
`Ends`, like `Leaves` and `Settles`, and all of them share its lemmas.  The lemmas follow the
constructors of a computation: `Ends.bind` cuts a step at its first action, and every other lemma
evaluates one action.
-/

namespace ExecutionTrace

variable {ε σ α β : Type}

/-! ## Functions without state -/

/-- **The result of a function that may fail**: `Q` of its value, or `E` of its error. -/
def Grants (r : Except ε α) (Q : α → Prop) (E : ε → Prop) : Prop :=
  match r with
  | .ok a => Q a
  | .error e => E e

namespace Grants

variable {Q : α → Prop} {R : β → Prop} {E F : ε → Prop}

theorem mono {r : Except ε α} {Q' : α → Prop} (h : Grants r Q E)
    (hQ : ∀ a, Q a → Q' a) (hE : ∀ e, E e → F e) : Grants r Q' F := by
  cases r with
  | ok a => exact hQ a h
  | error e => exact hE e h

theorem bind {x : Except ε α} {f : α → Except ε β} (hx : Grants x Q E)
    (hf : ∀ a, Q a → Grants (f a) R E) : Grants (x >>= f) R E := by
  cases x with
  | ok a => exact hf a hx
  | error e => exact hx

/-- A function whose value is known. -/
theorem of_ok {r : Except ε α} {a : α} (hr : r = .ok a) (hQ : Q a) : Grants r Q E := by
  subst hr
  exact hQ

/-- A first function whose value is known. -/
theorem bind_ok {x : Except ε α} {f : α → Except ε β} {a : α} (hx : x = .ok a)
    (hf : Grants (f a) R E) : Grants (x >>= f) R E := by
  subst hx
  exact hf

/-- Every result grants what is said of it by equations. -/
theorem of_eq {r : Except ε α} (hQ : ∀ a, r = .ok a → Q a) (hE : ∀ e, r = .error e → E e) :
    Grants r Q E := by
  cases r with
  | ok a => exact hQ a rfl
  | error e => exact hE e rfl

/-- A result of which nothing is said. -/
theorem any (r : Except ε α) : Grants r (fun _ => True) fun _ => True :=
  of_eq (fun _ _ => trivial) fun _ _ => trivial

theorem value {r : Except ε α} (h : Grants r Q E) {a : α} (eq : r = .ok a) : Q a := by
  subst eq
  exact h

theorem error {r : Except ε α} (h : Grants r Q E) {e : ε} (eq : r = .error e) : E e := by
  subst eq
  exact h

end Grants

/-! ## Functions on a state -/

/-- A computation whose value is known. -/
theorem exists_ok_of_run' {x : EStateM ε σ α} {s : σ} {a : α} (h : x.run' s = some a) :
    ∃ s', x s = .ok a s' := by
  unfold EStateM.run' EStateM.run at h
  cases result : x s with
  | ok b s' =>
      rw [result] at h
      exact ⟨s', by rw [Option.some.inj h]⟩
  | error e s' =>
      rw [result] at h
      cases h

/-- **How a computation ends**: with `Q` of its value and of the new state, or with `P` of its
error and of the state that its failure leaves behind. -/
def Ends (r : EStateM.Result ε σ α) (Q : α → σ → Prop) (P : ε → σ → Prop) : Prop :=
  match r with
  | .ok a s => Q a s
  | .error e s => P e s

/-- **The result of a computation**: `Q` of its value and of the new state, or `E` of its error,
whatever state the failure leaves behind. -/
abbrev Yields (r : EStateM.Result ε σ α) (Q : α → σ → Prop) (E : ε → Prop) : Prop :=
  Ends r Q fun e _ => E e

/-- **What a computation leaves behind**, whether it succeeds or fails. -/
def Leaves (r : EStateM.Result ε σ α) (P : σ → Prop) : Prop :=
  Ends r (fun _ => P) fun _ => P

/-- **What a computation leaves behind**, and which errors it may fail with. -/
def Settles (r : EStateM.Result ε σ α) (P : σ → Prop) (E : ε → Prop) : Prop :=
  Ends r (fun _ => P) fun e s => E e ∧ P s

namespace Ends

variable {Q : α → σ → Prop} {R : β → σ → Prop} {P : ε → σ → Prop} {s : σ}

theorem mono {r : EStateM.Result ε σ α} {Q' : α → σ → Prop} {P' : ε → σ → Prop} (h : Ends r Q P)
    (hQ : ∀ a s, Q a s → Q' a s) (hP : ∀ e s, P e s → P' e s) : Ends r Q' P' := by
  cases r with
  | ok a s => exact hQ a s h
  | error e s => exact hP e s h

/-- Cutting a computation at its first action. -/
theorem bind {x : EStateM ε σ α} {f : α → EStateM ε σ β} (hx : Ends (x s) Q P)
    (hf : ∀ a s', Q a s' → Ends (f a s') R P) : Ends ((x >>= f) s) R P := by
  change Ends (EStateM.bind x f s) R P
  unfold EStateM.bind
  cases h : x s with
  | ok a s' =>
      rw [h] at hx
      exact hf a s' hx
  | error e s' =>
      rw [h] at hx
      exact hx

/-- A first action whose result is known. -/
theorem bind_ok {x : EStateM ε σ α} {f : α → EStateM ε σ β} {a : α} {s' : σ}
    (hx : x s = .ok a s') (hf : Ends (f a s') R P) : Ends ((x >>= f) s) R P := by
  refine bind (Q := fun b t => b = a ∧ t = s') ?_ ?_
  · rw [hx]
    exact ⟨rfl, rfl⟩
  · rintro b t ⟨rfl, rfl⟩
    exact hf

/-- Reading the state. -/
theorem get_bind {f : σ → EStateM ε σ β} (h : Ends (f s s) R P) :
    Ends ((MonadState.get >>= f) s) R P := h

/-- Replacing the state. -/
theorem set_bind {s' : σ} {f : PUnit → EStateM ε σ β} (h : Ends (f ⟨⟩ s') R P) :
    Ends ((MonadStateOf.set s' >>= f) s) R P := h

/-- Changing the state. -/
theorem modify_bind {change : σ → σ} {f : PUnit → EStateM ε σ β}
    (h : Ends (f ⟨⟩ (change s)) R P) : Ends ((modify change >>= f) s) R P := h

/-- Continuing with the result of a function without state, which changes nothing if it fails. -/
theorem ofExcept_bind {r : Except ε α} {f : α → EStateM ε σ β} {A : α → Prop}
    (hr : Grants r A fun e => P e s) (hf : ∀ a, A a → Ends (f a s) R P) :
    Ends ((MonadExcept.ofExcept r >>= f) s) R P := by
  cases r with
  | ok a => exact hf a hr
  | error e => exact hr

/-- Continuing with a result that is known. -/
theorem ofExcept_bind_ok {r : Except ε α} {f : α → EStateM ε σ β} {a : α} (hr : r = .ok a)
    (hf : Ends (f a s) R P) : Ends ((MonadExcept.ofExcept r >>= f) s) R P := by
  subst hr
  exact hf

/-- Forgetting the value of a computation. -/
theorem discard {x : EStateM ε σ α} {Q : Unit → σ → Prop} (h : Ends (x s) (fun _ => Q ()) P) :
    Ends (discard x s) Q P := by
  change Ends (EStateM.map _ x s) _ P
  unfold EStateM.map
  cases result : x s <;> rw [result] at h <;> exact h

theorem value {r : EStateM.Result ε σ α} (h : Ends r Q P) {a : α} (eq : r = .ok a s) : Q a s := by
  subst eq
  exact h

theorem error {r : EStateM.Result ε σ α} (h : Ends r Q P) {e : ε} (eq : r = .error e s) :
    P e s := by
  subst eq
  exact h

/-- Doing the same for every member of a list. -/
theorem forM {l : List α} {f : α → EStateM ε σ PUnit} {I : σ → Prop}
    (hf : ∀ a ∈ l, ∀ s, I s → Ends (f a s) (fun _ => I) P) (h : I s) :
    Ends (l.forM f s) (fun _ => I) P := by
  induction l generalizing s with
  | nil => exact h
  | cons a l ih =>
      refine bind (hf a (List.mem_cons_self ..) s h) fun _ s' h' => ?_
      exact ih (fun b hb => hf b (List.mem_cons_of_mem _ hb)) h'

/-- Two statements about one result. -/
theorem and {r : EStateM.Result ε σ α} {Q' : α → σ → Prop} {P' : ε → σ → Prop} (h : Ends r Q P)
    (h' : Ends r Q' P') :
    Ends r (fun a s => Q a s ∧ Q' a s) fun e s => P e s ∧ P' e s := by
  cases r with
  | ok a s => exact ⟨h, h'⟩
  | error e s => exact ⟨h, h'⟩

/-- A computation on a part of the state. -/
theorem onPart {τ : Type} {part : τ → σ} {put : τ → σ → τ} {x : EStateM ε σ α} {t : τ}
    {Q : α → τ → Prop} {P : ε → τ → Prop}
    (h : Ends (x (part t)) (fun a s => Q a (put t s)) fun e s => P e (put t s)) :
    Ends (onPart part put x t) Q P := by
  unfold ExecutionTrace.onPart
  cases result : x (part t) <;> rw [result] at h <;> exact h

/-- What decides whether a computation succeeds. -/
theorem ok_iff {r : EStateM.Result ε σ α} {p : Prop}
    (h : Ends r (fun _ _ => p) fun _ _ => ¬p) : (∃ a s, r = .ok a s) ↔ p := by
  cases r with
  | ok a s => exact ⟨fun _ => h, fun _ => ⟨a, s, rfl⟩⟩
  | error e s => exact ⟨nofun, fun holds => absurd holds h⟩

end Ends

/-- Weaker conditions on the value, on the new state and on the error. -/
theorem Yields.mono {r : EStateM.Result ε σ α} {Q Q' : α → σ → Prop} {E F : ε → Prop}
    (h : Yields r Q E) (hQ : ∀ a s, Q a s → Q' a s) (hE : ∀ e, E e → F e) : Yields r Q' F :=
  Ends.mono h hQ fun e _ => hE e

namespace Leaves

variable {P : σ → Prop} {s : σ}

theorem mono {r : EStateM.Result ε σ α} {P' : σ → Prop} (h : Leaves r P)
    (hP : ∀ s, P s → P' s) : Leaves r P' :=
  Ends.mono h (fun _ => hP) fun _ => hP

theorem and {r : EStateM.Result ε σ α} {P' : σ → Prop} (h : Leaves r P) (h' : Leaves r P') :
    Leaves r fun s => P s ∧ P' s :=
  Ends.and h h'

/-- Continuing with the result of a function of which nothing needs to be known. -/
theorem ofExcept_bind {r : Except ε α} {f : α → EStateM ε σ β} {R : β → σ → Prop} (failed : P s)
    (hf : ∀ a, r = .ok a → Ends (f a s) R fun _ => P) :
    Ends ((MonadExcept.ofExcept r >>= f) s) R fun _ => P :=
  Ends.ofExcept_bind (.of_eq (fun _ h => h) fun _ _ => failed) hf

end Leaves

namespace Settles

variable {P : σ → Prop} {E : ε → Prop} {r : EStateM.Result ε σ α}

/-- What is left behind and which errors there may be are separate questions. -/
theorem of_leaves (h : Leaves r P) (hE : Yields r (fun _ _ => True) E) : Settles r P E := by
  cases r with
  | ok a s => exact h
  | error e s => exact ⟨hE, h⟩

theorem leaves (h : Settles r P E) : Leaves r P :=
  Ends.mono h (fun _ _ hP => hP) fun _ _ hP => hP.2

theorem error (h : Settles r P E) {e : ε} {s : σ} (eq : r = .error e s) : E e := by
  subst eq
  exact h.1

end Settles

/-! ## Actions whose results are known -/

section

variable {s s' : σ}

theorem bind_eq_of_ok {x : EStateM ε σ α} {f : α → EStateM ε σ β} {a : α} (hx : x s = .ok a s') :
    (x >>= f) s = f a s' := by
  change EStateM.bind x f s = _
  unfold EStateM.bind
  rw [hx]

theorem onPart_eq_of_ok {τ : Type} {part : τ → σ} {put : τ → σ → τ} {x : EStateM ε σ α} {t : τ}
    {a : α} (hx : x (part t) = .ok a s') : onPart part put x t = .ok a (put t s') := by
  unfold onPart
  rw [hx]

theorem get_bind_eq {f : σ → EStateM ε σ β} : (MonadState.get >>= f) s = f s s := rfl

theorem ofExcept_bind_eq {r : Except ε α} {f : α → EStateM ε σ β} {a : α} (hr : r = .ok a) :
    (MonadExcept.ofExcept r >>= f) s = f a s := by
  subst hr
  rfl

end

/-! ## The parts of a step of the scripted machine -/

namespace Machine

variable {R : α → Machine → Prop} {E : Fault → Prop} {m : Machine}

/-- An announcement changes nothing but the tracer. -/
theorem announce_bind {announcement : Announcement β} {f : β → Step α} {Q : β → Tracer → Prop}
    {F : Violation → Prop} (h : Yields (announcement m.tracer) Q F)
    (hF : ∀ v, F v → E (.violation v))
    (hf : ∀ b t, Q b t → Yields (f b { m with tracer := t }) R E) :
    Yields ((announce announcement >>= f) m) R E := by
  refine Ends.bind (Q := fun b m' => ∃ t, m' = { m with tracer := t } ∧ Q b t) ?_ ?_
  · unfold announce
    cases result : announcement m.tracer with
    | ok b t =>
        rw [result] at h
        exact ⟨t, rfl, h⟩
    | error v t =>
        rw [result] at h
        exact hF v h
  · rintro b _ ⟨t, rfl, ht⟩
    exact hf b t ht

theorem ofResult_bind {r : Except Violation β} {f : β → Step α} {P : β → Prop}
    {F : Violation → Prop} (hr : Grants r P F) (hF : ∀ v, F v → E (.violation v))
    (hf : ∀ b, P b → Yields (f b m) R E) : Yields ((ofResult r >>= f) m) R E := by
  cases r with
  | ok b => exact hf b hr
  | error v => exact hF v hr

/-- Continuing with a result that is known. -/
theorem ofResult_bind_ok {r : Except Violation β} {f : β → Step α} {b : β} (hr : r = .ok b)
    (hf : Yields (f b m) R E) : Yields ((ofResult r >>= f) m) R E := by
  subst hr
  exact hf

/-- A debit that the account can pay. -/
theorem debit_eq_of_some {a : Address} {amount : Word} {w : WorldState}
    (h : m.world.debit? a amount = some w) : debit a amount m = .ok () { m with world := w } := by
  have read : (get : Step Machine) m = .ok m m := rfl
  unfold debit
  refine Eq.trans (b := (modifyWorld fun _ => w : Step Unit) m) ?_ rfl
  simp only [bind, EStateM.bind, read, h]

theorem credit_eq (a : Address) (amount : Word) :
    credit a amount m = .ok () { m with world := m.world.credit a amount } := rfl

theorem modifyWorld_eq (change : WorldState → WorldState) :
    modifyWorld change m = .ok () { m with world := change m.world } := rfl

theorem pushCheckpoint_eq :
    pushCheckpoint m = .ok () { m with checkpoints := m.world :: m.checkpoints } := rfl

theorem popCheckpoint_eq {w : WorldState} {rest : List WorldState}
    (h : m.checkpoints = w :: rest) :
    popCheckpoint m = .ok w { m with checkpoints := rest } := by
  have read : (get : Step Machine) m = .ok m m := rfl
  unfold popCheckpoint
  simp only [bind, EStateM.bind, read, h]
  rfl

end Machine

end ExecutionTrace
