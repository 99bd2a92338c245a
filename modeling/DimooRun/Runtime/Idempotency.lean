/-
  Runtime/Idempotency.lean --- reservations of idempotency keys.

  Source: runtime/idempotency.py.

  A record belongs to a scope and has a number of its own. `complete` finds a
  record by its number, scanning all of them; that the numbers differ is part of the
  store, so the scan can only end at the record that was reserved.
-/
import DimooRun.Foundation.Dict
import DimooRun.Foundation.Raising

set_option autoImplicit false

namespace DimooRun.Runtime

open Foundation

/-- The key of a record. -/
structure IdempotencyScope where
  tenantId : Int
  projectId : Option Int
  endpoint : String
  idempotencyKey : String
  deriving DecidableEq

/-- `IdempotencyRecord.status`. -/
inductive IdempotencyStatus where
  | pending
  | completed
  deriving DecidableEq

/-- `IdempotencyRecord`, for responses of type `ρ`. -/
structure IdempotencyRecord (ρ : Type) where
  recordId : Int
  requestHash : String
  status : IdempotencyStatus := .pending
  response : Option ρ := none

/-- `IdempotencyReservation`. -/
structure IdempotencyReservation (ρ : Type) where
  recordId : Int
  isReplay : Bool
  response : Option ρ := none

/-- What the store raises. -/
inductive IdempotencyError where
  /-- `IdempotencyConflictError` -/
  | conflict (idempotencyKey : String)
  /-- `KeyError` of an unknown record -/
  | keyError (recordId : Int)
  deriving DecidableEq

/-- `IdempotencyStore`. -/
structure IdempotencyStore (ρ : Type) where
  records : Dict IdempotencyScope (IdempotencyRecord ρ)
  nextId : Int
  lt_nextId : ∀ scope record, records.get? scope = some record → record.recordId < nextId
  distinct : ∀ scope scope' record record', records.get? scope = some record →
    records.get? scope' = some record' → record.recordId = record'.recordId → scope = scope'

namespace IdempotencyStore

variable {ρ : Type}

/-- `IdempotencyStore.__init__`. -/
def init : IdempotencyStore ρ where
  records := Dict.empty
  nextId := 1
  lt_nextId := by simp
  distinct := by simp

/-- A new record for a scope. -/
def add (store : IdempotencyStore ρ) (scope : IdempotencyScope) (requestHash : String) :
    IdempotencyStore ρ where
  records := store.records.set scope { recordId := store.nextId, requestHash := requestHash }
  nextId := store.nextId + 1
  lt_nextId := by
    intro scope' record hrecord
    rcases Dict.get?_set_cases hrecord with ⟨_, rfl⟩ | ⟨_, hold⟩
    · exact Int.lt_succ _
    · exact Int.lt_trans (store.lt_nextId scope' record hold) (Int.lt_succ _)
  distinct := by
    intro scope₁ scope₂ record₁ record₂ h₁ h₂ hsame
    rcases Dict.get?_set_cases h₁ with ⟨hs₁, rfl⟩ | ⟨_, h₁⟩ <;>
      rcases Dict.get?_set_cases h₂ with ⟨hs₂, rfl⟩ | ⟨_, h₂⟩
    · exact hs₁.trans hs₂.symm
    · exact absurd hsame.symm (Int.ne_of_lt (store.lt_nextId _ _ h₂))
    · exact absurd hsame (Int.ne_of_lt (store.lt_nextId _ _ h₁))
    · exact store.distinct _ _ _ _ h₁ h₂ hsame

/-- The record of a scope with its response. -/
def settle (store : IdempotencyStore ρ) (scope : IdempotencyScope) (record : IdempotencyRecord ρ)
    (h : store.records.get? scope = some record) (response : ρ) : IdempotencyStore ρ where
  records := store.records.set scope
    { record with status := .completed, response := some response }
  nextId := store.nextId
  lt_nextId := Dict.forall_get?_set (store.lt_nextId scope record h) store.lt_nextId
  distinct := by
    intro scope₁ scope₂ record₁ record₂ h₁ h₂ hsame
    rcases Dict.get?_set_cases h₁ with ⟨hs₁, rfl⟩ | ⟨_, h₁⟩ <;>
      rcases Dict.get?_set_cases h₂ with ⟨hs₂, rfl⟩ | ⟨_, h₂⟩
    · exact hs₁.trans hs₂.symm
    · exact hs₁.trans (store.distinct _ _ _ _ h h₂ hsame)
    · exact (store.distinct _ _ _ _ h₁ h hsame).trans hs₂.symm
    · exact store.distinct _ _ _ _ h₁ h₂ hsame

/-- `reserve`. -/
def reserve (scope : IdempotencyScope) (requestHash : String) :
    EStateM IdempotencyError (IdempotencyStore ρ) (IdempotencyReservation ρ) := do
  let store ← get
  match store.records.get? scope with
  | some existing =>
      if existing.requestHash ≠ requestHash then
        throw (.conflict scope.idempotencyKey)
      pure
        { recordId := existing.recordId, isReplay := true, response := existing.response }
  | none =>
      set (store.add scope requestHash)
      pure { recordId := store.nextId, isReplay := false }

/-- The scan of `complete`: the first record with the number. -/
def find? (store : IdempotencyStore ρ) (recordId : Int) :
    Option (IdempotencyScope × IdempotencyRecord ρ) :=
  store.records.entries.find? fun e => e.2.recordId = recordId

variable {store : IdempotencyStore ρ} {scope : IdempotencyScope} {record : IdempotencyRecord ρ}

theorem get?_of_find? {recordId : Int} {e : IdempotencyScope × IdempotencyRecord ρ}
    (h : store.find? recordId = some e) : store.records.get? e.1 = some e.2 :=
  (Dict.get?_eq_some_iff _).mpr (List.mem_of_find?_eq_some h)

/-- `complete`. -/
def complete (recordId : Int) (response : ρ) :
    EStateM IdempotencyError (IdempotencyStore ρ) Unit := fun store =>
  match h : store.find? recordId with
  | some e => .ok () (store.settle e.1 e.2 (get?_of_find? h) response)
  | none => .error (.keyError recordId) store

/-! ## What the methods do -/

theorem run_reserve_of_none (h : store.records.get? scope = none) (requestHash : String) :
    (reserve scope requestHash).run store =
      .ok { recordId := store.nextId, isReplay := false } (store.add scope requestHash) := by
  simp only [reserve, EStateM.run_bind, EStateM.run_get, h]
  rfl

section

variable (h : store.records.get? scope = some record)
include h

theorem run_reserve_of_some (requestHash : String) : (reserve scope requestHash).run store =
      if record.requestHash = requestHash then
        .ok { recordId := record.recordId, isReplay := true, response := record.response } store
      else .error (.conflict scope.idempotencyKey) store := by
  simp only [reserve, EStateM.run_bind, EStateM.run_get, h]
  by_cases hsame : record.requestHash = requestHash
  · simp only [hsame, ne_eq, not_true, if_false, if_true]
    rfl
  · simp only [hsame, ne_eq, not_false_iff, if_true, if_false]
    rfl

/-- The scan ends at the record that has the number. -/
theorem find?_eq : store.find? record.recordId = some (scope, record) := by
  have hmem : (scope, record) ∈ store.records.entries := (Dict.get?_eq_some_iff _).mp h
  cases hfind : store.find? record.recordId with
  | none =>
    have hnone := List.find?_eq_none.mp hfind _ hmem
    simp at hnone
  | some e =>
    have hid : e.2.recordId = record.recordId := by simpa using List.find?_some hfind
    have hget := get?_of_find? hfind
    have hscope : e.1 = scope := store.distinct _ _ _ _ hget h hid
    rw [hscope, h] at hget
    rw [← hscope, Option.some.inj hget]

theorem run_complete (response : ρ) : (complete record.recordId response).run store =
      .ok () (store.settle scope record h response) := by
  show complete record.recordId response store = _
  unfold complete
  split
  · rename_i e hfind
    have hsame := hfind.symm.trans (find?_eq h)
    cases hsame
    rfl
  · rename_i hnone
    rw [find?_eq h] at hnone
    cases hnone

end

theorem get?_add (store : IdempotencyStore ρ) (scope scope' : IdempotencyScope)
    (requestHash : String) :
    (store.add scope requestHash).records.get? scope' =
      if scope' = scope then some { recordId := store.nextId, requestHash := requestHash }
      else store.records.get? scope' :=
  Dict.get?_set _ _ _ _

theorem get?_settle (h : store.records.get? scope = some record) (response : ρ)
    (scope' : IdempotencyScope) :
    (store.settle scope record h response).records.get? scope' =
      if scope' = scope then some { record with status := .completed, response := some response }
      else store.records.get? scope' :=
  Dict.get?_set _ _ _ _

end IdempotencyStore

end DimooRun.Runtime
