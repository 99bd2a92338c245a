/-
  Foundation/Fencing.lean --- a lease with a fencing token, in the abstract.

  A resource is held by at most one holder at a time. Every grant hands out a
  token one larger than the last; taking the resource back (`revoke`) keeps the
  token, so a token identifies a grant and not only a holder. The results are
  about arbitrary sequences of grants and revocations: the tokens handed out
  increase strictly, and the present token is the newest of them.
-/
import Mathlib.Data.List.Basic

set_option autoImplicit false

namespace DimooRun.Foundation.Fencing

variable {W : Type}

/-- Who holds the resource, and the newest token. -/
structure Lease (W : Type) where
  holder : Option W
  token : Int

/-- What can happen to a lease. -/
inductive Action (W : Type) where
  /-- a new grant to a holder -/
  | grant (worker : W)
  /-- the resource is taken back -/
  | revoke
  /-- anything else -/
  | keep

/-- The lease nobody was ever granted. -/
def Lease.fresh : Lease W := { holder := none, token := 0 }

/-- The effect of one action. -/
def Lease.act (l : Lease W) : Action W → Lease W
  | .grant worker => { holder := some worker, token := l.token + 1 }
  | .revoke => { l with holder := none }
  | .keep => l

/-- The effect of a sequence of actions. -/
def Lease.run (l : Lease W) : List (Action W) → Lease W
  | [] => l
  | a :: as => (l.act a).run as

/-- The tokens a sequence of actions hands out, oldest first. -/
def Lease.granted (l : Lease W) : List (Action W) → List Int
  | [] => []
  | .grant worker :: as => (l.token + 1) :: (l.act (.grant worker)).granted as
  | a :: as => (l.act a).granted as

variable (l : Lease W) (as bs : List (Action W))

theorem Lease.run_append : l.run (as ++ bs) = (l.run as).run bs := by
  induction as generalizing l with
  | nil => rfl
  | cons a as ih => exact ih (l.act a)

theorem Lease.granted_append : l.granted (as ++ bs) = l.granted as ++ (l.run as).granted bs := by
  induction as generalizing l with
  | nil => rfl
  | cons a as ih =>
    cases a with
    | _ => simp only [List.cons_append, granted, ih, run]

theorem Lease.token_le_act (a : Action W) : l.token ≤ (l.act a).token := by
  cases a with
  | grant worker =>
    show l.token ≤ l.token + 1
    omega
  | revoke | keep => exact Int.le_refl _

/-- Every token handed out is above the token before. -/
theorem Lease.lt_of_mem_granted {l : Lease W} {as : List (Action W)} {k : Int}
    (h : k ∈ l.granted as) : l.token < k := by
  induction as generalizing l with
  | nil => simp [granted] at h
  | cons a as ih =>
    cases a with
    | grant worker =>
      rcases List.mem_cons.mp h with rfl | h'
      · omega
      · have hlt : l.token + 1 < k := ih h'
        omega
    | revoke =>
      have hlt : (l.act .revoke).token < k := ih h
      exact hlt
    | keep =>
      have hlt : (l.act .keep).token < k := ih h
      exact hlt

/-- Tokens are handed out in strictly increasing order, so no two grants share
one. -/
theorem Lease.granted_pairwise : (l.granted as).Pairwise (· < ·) := by
  induction as generalizing l with
  | nil => exact List.Pairwise.nil
  | cons a as ih =>
    cases a with
    | grant worker =>
      refine List.Pairwise.cons ?_ (ih _)
      intro k hk
      exact lt_of_mem_granted hk
    | revoke | keep => exact ih _

/-- The present token is the newest one handed out. -/
theorem Lease.token_run : (l.run as).token = (l.granted as).getLastD l.token := by
  induction as generalizing l with
  | nil => rfl
  | cons a as ih =>
    cases a with
    | grant worker =>
      show ((l.act (.grant worker)).run as).token = _
      rw [ih, granted, List.getLastD_cons]
      rfl
    | revoke | keep => exact ih _

/-- Where no token was handed out, nobody came to hold the resource. -/
theorem Lease.holder_run_of_granted_eq_nil {l : Lease W} {as : List (Action W)}
    (hl : l.holder = none) (h : l.granted as = []) : (l.run as).holder = none := by
  induction as generalizing l with
  | nil => exact hl
  | cons a as ih =>
    cases a with
    | grant worker => simp [granted] at h
    | revoke => exact ih rfl h
    | keep => exact ih hl h

end DimooRun.Foundation.Fencing
