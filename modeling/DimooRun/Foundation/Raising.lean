/-
  Foundation/Raising.lean --- computations that may raise over a mutable store.

  `EStateM ε σ` is the meaning of imperative code with exceptions: an exception
  keeps every write made before it. `Moves R m` says that a run of `m`, whether
  it returns or raises, takes the store along the preorder `R`. It is closed
  under the ways programs are built, so a safety property of a long program is
  the conjunction of the same property of its primitive steps.
-/
import Mathlib.Order.Defs.Unbundled

set_option autoImplicit false

namespace DimooRun.Foundation

variable {ε σ τ α β : Type}

/-- The store a result leaves, whether the run returned or raised. -/
def endState : EStateM.Result ε σ α → σ
  | .ok _ s => s
  | .error _ s => s

/-- What a result reports to the caller. -/
def report : EStateM.Result ε σ α → Except ε α
  | .ok a _ => .ok a
  | .error e _ => .error e

@[simp] theorem endState_ok (a : α) (s : σ) : endState (.ok a s : EStateM.Result ε σ α) = s := rfl

@[simp] theorem endState_error (e : ε) (s : σ) :
    endState (.error e s : EStateM.Result ε σ α) = s := rfl

@[simp] theorem report_error (e : ε) (s : σ) :
    report (.error e s : EStateM.Result ε σ α) = .error e := rfl

@[simp] theorem run_throw_eq (e : ε) (s : σ) : (throw e : EStateM ε σ α).run s = .error e s := rfl

/-- Raise the error of an `Except` value, or go on with its result. -/
def orRaise (x : Except ε α) : EStateM ε σ α :=
  match x with
  | .ok a => pure a
  | .error e => throw e

@[simp] theorem run_orRaise_ok (a : α) (s : σ) :
    (orRaise (.ok a : Except ε α) : EStateM ε σ α).run s = .ok a s := rfl

section

variable (get : σ → τ) (put : τ → σ → σ) (m : EStateM ε τ α)

/-- Run a computation on a part of the store. -/
def zoom : EStateM ε σ α := fun s =>
  match m.run (get s) with
  | .ok a t => .ok a (put t s)
  | .error e t => .error e (put t s)

theorem run_zoom (s : σ) : (zoom get put m).run s =
      match m.run (get s) with
      | .ok a t => .ok a (put t s)
      | .error e t => .error e (put t s) := rfl

@[simp] theorem endState_run_zoom (s : σ) :
    endState ((zoom get put m).run s) = put (endState (m.run (get s))) s := by
  rw [run_zoom]
  cases m.run (get s) <;> rfl

end

/-- Run a computation and hand its exception, if any, to the caller as a value. -/
def attempt (m : EStateM ε σ α) : EStateM ε σ (Except ε α) := fun s =>
  .ok (report (m.run s)) (endState (m.run s))

variable (m : EStateM ε σ α)

@[simp] theorem run_attempt (s : σ) :
    (attempt m).run s = .ok (report (m.run s)) (endState (m.run s)) := rfl

/-- Rename the exceptions of a computation. -/
def raiseAs {ε' : Type} (f : ε → ε') (m : EStateM ε σ α) : EStateM ε' σ α := fun s =>
  match m.run s with
  | .ok a t => .ok a t
  | .error e t => .error (f e) t

theorem run_raiseAs {ε' : Type} (f : ε → ε') (m : EStateM ε σ α) (s : σ) : (raiseAs f m).run s =
      match m.run s with
      | .ok a t => .ok a t
      | .error e t => .error (f e) t := rfl

@[simp] theorem endState_run_raiseAs {ε' : Type} (f : ε → ε') (m : EStateM ε σ α) (s : σ) :
    endState ((raiseAs f m).run s) = endState (m.run s) := by
  rw [run_raiseAs]
  cases m.run s <;> rfl

/-- Renaming the result does not touch the store. -/
@[simp] theorem endState_run_map (f : α → β) (s : σ) :
    endState ((f <$> m).run s) = endState (m.run s) := by
  show endState (EStateM.map f m s) = endState (m s)
  simp only [EStateM.map]
  cases m s <;> rfl

/-- A result computed at the end does not touch the store. -/
theorem endState_run_bind_pure (f : α → β) (s : σ) :
    endState ((m >>= fun a => pure (f a)).run s) = endState (m.run s) := by
  rw [EStateM.run_bind]
  cases m.run s <;> rfl

/-- A caught exception, and an answer that does not touch the store. -/
theorem endState_attempt {m : EStateM ε σ α} {f : Except ε α → EStateM ε σ β} {s : σ}
    (h : ∀ r t, endState ((f r).run t) = t) :
    endState ((attempt m >>= f).run s) = endState (m.run s) := by
  exact h _ _

/-! ## Moving along a preorder -/

/-- Every run of `m` takes the store along `R`. -/
def Moves (R : σ → σ → Prop) (m : EStateM ε σ α) : Prop :=
  ∀ s, R s (endState (m.run s))

namespace Moves

variable {R : σ → σ → Prop}

theorem pure [Std.Refl R] (a : α) : Moves R (Pure.pure a : EStateM ε σ α) :=
  fun s => refl s

theorem throw [Std.Refl R] (e : ε) : Moves R (MonadExcept.throw e : EStateM ε σ α) :=
  fun s => refl s

theorem get [Std.Refl R] : Moves R (MonadState.get : EStateM ε σ σ) :=
  fun s => refl s

variable {m : EStateM ε σ α} {s t : σ}

theorem of_ok {a : α} (hm : Moves R m) (hrun : m.run s = .ok a t) : R s t := by
  have h := hm s
  rwa [hrun] at h

theorem of_error {e : ε} (hm : Moves R m) (hrun : m.run s = .error e t) : R s t := by
  have h := hm s
  rwa [hrun] at h

theorem bind [IsTrans σ R] {f : α → EStateM ε σ β} (hm : Moves R m) (hf : ∀ a, Moves R (f a)) :
    Moves R (m >>= f) := by
  intro s
  rw [EStateM.run_bind]
  cases hrun : m.run s with
  | ok a t => exact IsTrans.trans _ _ _ (hm.of_ok hrun) (hf a t)
  | error e t => exact hm.of_error hrun

theorem attempt (hm : Moves R m) : Moves R (attempt m) :=
  fun s => hm s

theorem raiseAs {ε' : Type} {f : ε → ε'} (hm : Moves R m) : Moves R (raiseAs f m) := by
  intro s
  rw [endState_run_raiseAs]
  exact hm s

/-- A computation on a part of the store moves that part only. -/
theorem zoom {S : τ → τ → Prop} {get : σ → τ} {put : τ → σ → σ} {m : EStateM ε τ α}
    (hput : ∀ s t, S (get s) t → R s (put t s)) (hm : Moves S m) :
    Moves R (zoom get put m) := by
  intro s
  rw [endState_run_zoom]
  exact hput s _ (hm (get s))

theorem orRaise [Std.Refl R] (x : Except ε α) : Moves R (orRaise x : EStateM ε σ α) := by
  cases x with
  | ok a => exact Moves.pure a
  | error e => exact Moves.throw e

end Moves

/-! ## The first step of a sequence -/

variable {m : EStateM ε σ α} {f : α → EStateM ε σ β} {s t : σ}

theorem run_bind_of_ok {a : α} (h : m.run s = .ok a t) : (m >>= f).run s = (f a).run t := by
  rw [EStateM.run_bind, h]

/-- A sequence that returned went through its first step. -/
theorem run_bind_eq_ok {u : σ} {b : β} (h : (m >>= f).run s = .ok b u) :
    ∃ a t, m.run s = .ok a t ∧ (f a).run t = .ok b u := by
  rw [EStateM.run_bind] at h
  cases hrun : m.run s with
  | ok a t =>
    rw [hrun] at h
    exact ⟨a, t, rfl, h⟩
  | error e t =>
    rw [hrun] at h
    simp at h

/-- What comes last decides what is returned. -/
theorem run_bind_ne_ok {u : σ} {b : β} (h : ∀ a t, (f a).run t ≠ .ok b u) :
    (m >>= f).run s ≠ .ok b u := by
  intro hrun
  obtain ⟨a, t, _, hlast⟩ := run_bind_eq_ok hrun
  exact h a t hlast

/-- A check of the state. -/
theorem run_check {p : σ → Prop} [DecidablePred p] {e : σ → ε} (s : σ) :
    (do let s ← get; if p s then throw (e s) : EStateM ε σ Unit).run s =
      if p s then .error (e s) s else .ok () s := by
  simp only [EStateM.run_bind, EStateM.run_get]
  split <;> rfl

/-- A check comes first: it fails as it is, or what follows decides. -/
theorem run_bind_of_guard {p : Prop} [Decidable p] {e : ε} {m : EStateM ε σ Unit}
    {f : Unit → EStateM ε σ β} (h : m.run s = if p then .error e s else .ok () s) :
    (m >>= f).run s = if p then .error e s else (f ()).run s := by
  by_cases hp : p
  · simp only [EStateM.run_bind, h, if_pos hp]
  · simp only [EStateM.run_bind, h, if_neg hp]

theorem run_bind_of_error {e : ε} (h : m.run s = .error e t) : (m >>= f).run s = .error e t := by
  rw [EStateM.run_bind, h]

/-- Two checks and a last one: all pass, or the state is left as it was. -/
theorem checks_cases {p q r held : Prop} [Decidable p] [Decidable q] [Decidable r]
    {r₀ x : EStateM.Result ε σ α} {e₁ e₂ e₃ : ε} (hheld : held ↔ ¬ p ∧ ¬ q)
    (h : r₀ = if p then .error e₁ s else if q then .error e₂ s else if r then x else .error e₃ s) :
    (held ∧ r) ∧ r₀ = x ∨ ¬ (held ∧ r) ∧ ∃ e, r₀ = .error e s := by
  rw [hheld, h]
  by_cases hp : p
  · exact .inr ⟨fun hall => hall.1.1 hp, e₁, if_pos hp⟩
  by_cases hq : q
  · exact .inr ⟨fun hall => hall.1.2 hq, e₂, by rw [if_neg hp, if_pos hq]⟩
  rw [if_neg hp, if_neg hq]
  by_cases hr : r
  · exact .inl ⟨⟨⟨hp, hq⟩, hr⟩, if_pos hr⟩
  · exact .inr ⟨fun hall => hr hall.2, e₃, if_neg hr⟩

end DimooRun.Foundation
