/-
  Domain/Models.lean --- the rows of the scheduler's tables.

  Source: apps/server/dimoo_run/domain/models.py and persistence/database.py, the
  columns that the SQLAlchemy task backend and its quota policy read or decide by.

  A table hands out its keys in increasing order and never twice. A statement
  without a complete ORDER BY may return its rows in any order, so every call that
  selects rows is given one; it is arbitrary but for being a rearrangement.
-/
import Mathlib.Data.List.Perm.Basic
import DimooRun.Foundation.Json
import DimooRun.Scheduler.Lifecycle

set_option autoImplicit false

namespace DimooRun.Domain

open Foundation DimooRun.Runtime
open Scheduler (Time)

/-! ## Rows -/

/-- `Task`. -/
structure Task where
  id : Int
  runId : Int
  tenantId : Int
  projectId : Int
  status : TaskStatus := .queued
  attempt : Int := 0
  maxAttempts : Int := 3
  queue : String := "default"
  priority : Int := 0
  scheduledAt : Option Time := none
  startedAt : Option Time := none
  finishedAt : Option Time := none
  leasedUntil : Option Time := none
  workerId : Option String := none
  heartbeatAt : Option Time := none
  fencingToken : Int := 0
  error : Option String := none
  deadLetterReason : Option String := none
  metadataJson : PyDict := []
  createdAt : Time
  isDeleted : Bool := false

/-- `Run`. `inputRef` is the value that the stored text encodes. -/
structure Run where
  id : Int
  agentId : Int
  deploymentId : Option Int := none
  status : RunStatus := .pending
  inputRef : Option PyValue := none
  error : Option String := none

/-- `RunAttempt`. -/
structure RunAttempt where
  runId : Int
  taskId : Option Int := none
  attemptNo : Int
  status : RunAttemptStatus := .running
  startedAt : Option Time := none
  finishedAt : Option Time := none
  error : Option String := none
  latencyMs : Option Int := none
  isDeleted : Bool := false

/-- `Event`. -/
structure Event where
  runId : Int
  attemptId : Option Int := none
  tenantId : Int
  projectId : Int
  type : String
  sequence : Int
  eventId : String
  framework : Option String := none
  payloadJson : PyDict := []
  visibilityLevel : String := "internal"
  isDeleted : Bool := false

/-! ## Tables -/

/-- A table with an autoincrement key. -/
structure Table (ρ : Type) where
  rows : Dict Int ρ
  nextId : Int
  lt_nextId : ∀ id ∈ rows.keys, id < nextId

namespace Table

variable {ρ : Type}

/-- No rows yet. -/
def empty : Table ρ := ⟨Dict.empty, 1, by simp [Dict.keys, Dict.empty]⟩

/-- The row of a key. -/
def get? (t : Table ρ) (id : Int) : Option ρ := t.rows.get? id

/-- Store a row under its key, which is there already. -/
def put (t : Table ρ) (id : Int) (row : ρ) (h : ∃ old, t.get? id = some old) : Table ρ where
  rows := t.rows.set id row
  nextId := t.nextId
  lt_nextId := by
    intro id' hid'
    rw [Dict.keys_set_of_mem ((Dict.mem_keys_iff _).mpr h)] at hid'
    exact t.lt_nextId id' hid'

/-- Change the row of a key, if there is one. -/
def update (t : Table ρ) (id : Int) (f : ρ → ρ) : Table ρ :=
  match h : t.get? id with
  | none => t
  | some row => t.put id (f row) ⟨row, h⟩

/-- Add a row under the next key. -/
def insert (t : Table ρ) (row : Int → ρ) : Table ρ where
  rows := t.rows.set t.nextId (row t.nextId)
  nextId := t.nextId + 1
  lt_nextId := by
    intro id hid
    rw [Dict.mem_keys_iff, Dict.get?_set] at hid
    obtain ⟨v, hv⟩ := hid
    split at hv
    · rename_i heq
      omega
    · have hlt := t.lt_nextId id ((Dict.mem_keys_iff _).mpr ⟨v, hv⟩)
      omega

variable (t : Table ρ)

theorem get?_nextId : t.get? t.nextId = none := by
  unfold get?
  rw [Dict.get?_eq_none_iff]
  intro h
  exact absurd (t.lt_nextId _ h) (Int.lt_irrefl _)

theorem get?_insert (row : Int → ρ) (id : Int) :
    (t.insert row).get? id = if id = t.nextId then some (row id) else t.get? id := by
  unfold insert get?
  rw [Dict.get?_set]
  split
  · rename_i h
    rw [h]
  · rfl

theorem get?_put (id id' : Int) (row : ρ) (h : ∃ old, t.get? id = some old) :
    (t.put id row h).get? id' = if id' = id then some row else t.get? id' :=
  Dict.get?_set _ _ _ _

theorem get?_update (id id' : Int) (f : ρ → ρ) :
    (t.update id f).get? id' = if id' = id then (t.get? id).map f else t.get? id' := by
  unfold update
  split
  · rename_i h
    split
    · rename_i heq
      rw [heq, h]
      rfl
    · rfl
  · rename_i row h
    rw [get?_put, h]
    rfl

end Table

/-- An order in which the database may return rows, given by their keys. -/
structure RowOrder where
  arrange : List Int → List Int
  perm : ∀ ids, (arrange ids).Perm ids

/-- The order of the keys in the table. -/
def RowOrder.byKey : RowOrder := ⟨id, fun _ => .refl _⟩

end DimooRun.Domain
