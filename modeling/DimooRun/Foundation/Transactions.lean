/-
  Foundation/Transactions.lean --- a table written by concurrent transactions.

  Every session has the rows it wrote and has not committed. Nobody else sees them,
  but they are locked: a statement of another session that wants to write such a row
  waits. So no two sessions hold versions of one row, which is a field of the
  structure; a commit moves the session's rows into the table, a rollback drops them.
-/
import DimooRun.Foundation.Dict

set_option autoImplicit false

namespace DimooRun.Foundation

/-- A table and what its sessions wrote but did not commit. -/
structure Transactions (κ ρ : Type) [DecidableEq κ] where
  committed : Dict κ ρ
  pending : Dict Nat (Dict κ ρ)
  exclusive : ∀ s s' w w' k row row', pending.get? s = some w → pending.get? s' = some w' →
    w.get? k = some row → w'.get? k = some row' → s = s'

namespace Transactions

variable {κ ρ : Type} [DecidableEq κ] (t : Transactions κ ρ)

/-- A table without open transactions. -/
def ofTable (table : Dict κ ρ) : Transactions κ ρ where
  committed := table
  pending := Dict.empty
  exclusive := by simp

/-- What a session wrote and did not commit. -/
def writes (s : Nat) : Dict κ ρ := (t.pending.get? s).getD Dict.empty

/-- The rows that a session sees: the table, under its own writes. -/
def visible (s : Nat) : Dict κ ρ := t.committed.merge (t.writes s)

/-- Another session holds an uncommitted version of the row. -/
def Locked (s : Nat) (k : κ) : Prop :=
  ∃ s', s' ≠ s ∧ ∃ row, (t.writes s').get? k = some row

variable {s s' : Nat} {k : κ} {row row' : ρ}

theorem get?_writes_eq_some :
    (t.writes s).get? k = some row ↔ ∃ w, t.pending.get? s = some w ∧ w.get? k = some row := by
  unfold writes
  cases t.pending.get? s with
  | none => simp
  | some w => simp

theorem locked_iff : t.Locked s k ↔ ∃ e ∈ t.pending.entries, e.1 ≠ s ∧ (e.2.get? k).isSome := by
  unfold Locked
  simp only [get?_writes_eq_some, Dict.get?_eq_some_iff t.pending]
  constructor
  · rintro ⟨s', hne, row, w, hmem, hget⟩
    exact ⟨(s', w), hmem, hne, by simp [hget]⟩
  · rintro ⟨⟨s', w⟩, hmem, hne, hsome⟩
    obtain ⟨row, hget⟩ := Option.isSome_iff_exists.mp hsome
    exact ⟨s', hne, row, w, hmem, hget⟩

instance (s : Nat) (k : κ) : Decidable (t.Locked s k) :=
  decidable_of_iff _ (t.locked_iff (s := s) (k := k)).symm

/-- No two sessions hold versions of one row. -/
theorem session_unique (h : (t.writes s).get? k = some row) (h' : (t.writes s').get? k = some row') :
    s = s' := by
  obtain ⟨w, hw, hrow⟩ := t.get?_writes_eq_some.mp h
  obtain ⟨w', hw', hrow'⟩ := t.get?_writes_eq_some.mp h'
  exact t.exclusive _ _ _ _ _ _ _ hw hw' hrow hrow'

/-- Write a row that nobody else holds. -/
def write (s : Nat) (k : κ) (row : ρ) (h : ¬ t.Locked s k) : Transactions κ ρ where
  committed := t.committed
  pending := t.pending.set s ((t.writes s).set k row)
  exclusive := by
    intro s₁ s₂ w₁ w₂ k' row₁ row₂ h₁ h₂ hrow₁ hrow₂
    rcases Dict.get?_set_cases h₁ with ⟨hs₁, rfl⟩ | ⟨hs₁, h₁⟩ <;>
      rcases Dict.get?_set_cases h₂ with ⟨hs₂, rfl⟩ | ⟨hs₂, h₂⟩
    · exact hs₁.trans hs₂.symm
    · have hother := t.get?_writes_eq_some.mpr ⟨w₂, h₂, hrow₂⟩
      rcases Dict.get?_set_cases hrow₁ with ⟨rfl, _⟩ | ⟨_, hrow₁⟩
      · exact absurd ⟨s₂, hs₂, row₂, hother⟩ h
      · exact hs₁.trans (t.session_unique hrow₁ hother)
    · have hother := t.get?_writes_eq_some.mpr ⟨w₁, h₁, hrow₁⟩
      rcases Dict.get?_set_cases hrow₂ with ⟨rfl, _⟩ | ⟨_, hrow₂⟩
      · exact absurd ⟨s₁, hs₁, row₁, hother⟩ h
      · exact (t.session_unique hother hrow₂).trans hs₂.symm
    · exact t.exclusive _ _ _ _ _ _ _ h₁ h₂ hrow₁ hrow₂

/-- Drop what a session wrote. -/
def rollback (s : Nat) : Transactions κ ρ where
  committed := t.committed
  pending := t.pending.erase s
  exclusive := by
    intro s₁ s₂ w₁ w₂ k row₁ row₂ h₁ h₂
    exact t.exclusive _ _ _ _ _ _ _ (Dict.of_get?_erase h₁).2 (Dict.of_get?_erase h₂).2

/-- Move what a session wrote into the table. -/
def commit (s : Nat) : Transactions κ ρ :=
  { t.rollback s with committed := t.visible s }

/-! ## What the operations do -/

section

variable (s s' k row)

theorem get?_visible : (t.visible s).get? k = ((t.writes s).get? k).or (t.committed.get? k) :=
  Dict.get?_merge _ _ _

@[simp] theorem writes_ofTable (table : Dict κ ρ) (s : Nat) :
    (ofTable table).writes s = Dict.empty := rfl

@[simp] theorem committed_write (h : ¬ t.Locked s k) :
    (t.write s k row h).committed = t.committed := rfl

@[simp] theorem committed_rollback : (t.rollback s).committed = t.committed := rfl

@[simp] theorem committed_commit : (t.commit s).committed = t.visible s := rfl

theorem writes_write (h : ¬ t.Locked s k) :
    (t.write s k row h).writes s' = if s' = s then (t.writes s).set k row else t.writes s' := by
  unfold write writes
  simp only [Dict.get?_set]
  split <;> rfl

theorem get?_writes_write (k k' : κ) (row : ρ) (h : ¬ t.Locked s k) :
    ((t.write s k row h).writes s').get? k' =
      if s' = s ∧ k' = k then some row else (t.writes s').get? k' := by
  rw [writes_write]
  by_cases hs : s' = s
  · simp [hs, Dict.get?_set]
  · simp [hs]

theorem get?_visible_write (k k' : κ) (row : ρ) (h : ¬ t.Locked s k) :
    ((t.write s k row h).visible s').get? k' =
      if s' = s ∧ k' = k then some row else (t.visible s').get? k' := by
  rw [get?_visible, get?_writes_write, get?_visible]
  split <;> rfl

theorem writes_rollback :
    (t.rollback s).writes s' = if s' = s then Dict.empty else t.writes s' := by
  unfold rollback writes
  simp only [Dict.get?_erase]
  split <;> rfl

theorem writes_commit : (t.commit s).writes s' = if s' = s then Dict.empty else t.writes s' :=
  t.writes_rollback s s'

end

/-- A row that another session holds is left alone by a commit. -/
theorem get?_commit_of_locked (hs : s' ≠ s) (h : (t.writes s').get? k = some row) :
    (t.commit s).committed.get? k = t.committed.get? k := by
  have hnone : (t.writes s).get? k = none := by
    rw [Option.eq_none_iff_forall_ne_some]
    intro own hown
    exact hs (t.session_unique h hown)
  rw [committed_commit, get?_visible, hnone, Option.none_or]

/-- The row is in the table, or a session is about to put it there. -/
def Stored (k : κ) (row : ρ) : Prop :=
  t.committed.get? k = some row ∨ ∃ s, (t.writes s).get? k = some row

variable {t}

theorem stored_of_visible (h : (t.visible s).get? k = some row) : t.Stored k row := by
  rw [get?_visible, Option.or_eq_some_iff] at h
  rcases h with hwrite | ⟨_, hcommitted⟩
  · exact .inr ⟨s, hwrite⟩
  · exact .inl hcommitted

theorem get?_writes_of_rollback (h : ((t.rollback s).writes s').get? k = some row) :
    (t.writes s').get? k = some row := by
  rw [writes_rollback] at h
  split at h
  · simp at h
  · exact h

theorem Stored.of_rollback (h : (t.rollback s).Stored k row) : t.Stored k row := by
  rcases h with hcommitted | ⟨s', hwrite⟩
  · exact .inl hcommitted
  · exact .inr ⟨s', get?_writes_of_rollback hwrite⟩

theorem Stored.of_commit (h : (t.commit s).Stored k row) : t.Stored k row := by
  rcases h with hcommitted | ⟨s', hwrite⟩
  · exact stored_of_visible hcommitted
  · exact .inr ⟨s', get?_writes_of_rollback hwrite⟩

theorem Stored.of_write {k' : κ} (hfree : ¬ t.Locked s k')
    (h : (t.write s k' row' hfree).Stored k row) : t.Stored k row ∨ k = k' ∧ row = row' := by
  rcases h with hcommitted | ⟨s', hwrite⟩
  · exact .inl (.inl hcommitted)
  · rw [get?_writes_write] at hwrite
    split at hwrite
    · rename_i hsame
      exact .inr ⟨hsame.2, (Option.some.inj hwrite).symm⟩
    · exact .inl (.inr ⟨s', hwrite⟩)

end Transactions

end DimooRun.Foundation
