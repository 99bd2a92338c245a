/-
  Scheduler/InMemory.lean --- the in-memory task backend.

  Source: scheduler/in_memory.py.

  A method of the backend is a computation over the backend that may raise; an
  exception keeps the writes made before it, as in the source. Methods on one
  task are written over the task record first (`TaskM`) and lifted to the
  dictionary by `withTask`.

  Times are microseconds of the backend's clock. The clock is an argument of
  every call that reads it, so a run may use any readings at all, also ones that
  go backwards; `lease` reads the clock twice, once itself and once in the reaper
  it starts with.
-/
import DimooRun.Domain.Models

set_option autoImplicit false

namespace DimooRun.Scheduler

open Foundation DimooRun.Runtime
open Domain (RowOrder)

/-- What a backend call raises. -/
inductive TaskError where
  /-- `KeyError` on an unknown task id -/
  | keyError (taskId : Int)
  /-- `KeyError` on a field the enqueued dictionary must have -/
  | missingField (name : String)
  /-- `TaskLeaseError` -/
  | taskLease (taskId : Int) (workerId : String)
  /-- `StaleFencingTokenError` -/
  | staleFencingToken (taskId : Int)
  /-- `InvalidStateTransitionError` -/
  | invalidTransition (error : InvalidStateTransitionError)
  deriving DecidableEq, Repr

/-- `str(exc)`. -/
def TaskError.message : TaskError → String
  | .keyError taskId => toString taskId
  | .missingField name => "'" ++ name ++ "'"
  | .taskLease taskId workerId =>
      "Task " ++ toString taskId ++ " is not leased by " ++ workerId ++ "."
  | .staleFencingToken taskId => toString taskId
  | .invalidTransition error => error.message

/-- The name of the exception's class. -/
def TaskError.className : TaskError → String
  | .keyError _ => "KeyError"
  | .missingField _ => "KeyError"
  | .taskLease _ _ => "TaskLeaseError"
  | .staleFencingToken _ => "StaleFencingTokenError"
  | .invalidTransition _ => "InvalidStateTransitionError"

/-- The dictionary given to `enqueue`: `none` is an absent key. The last three
fields are the part of the payload that the worker reads back from a lease; tenant,
project and the fields after them are read by the SQLAlchemy backend only, the creation
time and whether `scheduled_at` is there as `None` by the Redis backend only. -/
structure TaskInput where
  taskId : Option Int := none
  runId : Option Int := none
  queue : Option String := none
  priority : Option Int := none
  attempt : Option Int := none
  maxAttempts : Option Int := none
  scheduledAt : Option Time := none
  scheduledAtNone : Bool := false
  createdAt : Option Time := none
  tenantId : Option Int := none
  projectId : Option Int := none
  agentId : Option Int := none
  deploymentId : Option Int := none
  resourceClass : Option String := none
  metadata : PyDict := []
  inputData : Option PyValue := none
  overrideConfig : Option PyDict := none
  executionMode : Option String := none

/-- `InMemoryTask`. -/
structure InMemoryTask where
  taskId : Int
  payload : TaskInput
  runId : Int
  queue : String := "default"
  priority : Int := 0
  status : TaskStatus := .queued
  attempt : Int := 0
  maxAttempts : Int := 3
  workerId : Option String := none
  leasedUntil : Option Time := none
  heartbeatAt : Option Time := none
  scheduledAt : Option Time := none
  fencingToken : Int := 0
  error : Option PyDict := none
  createdAt : Time

/-- `InMemoryTask.snapshot`: the payload, overlaid with the scheduling fields. -/
structure TaskSnapshot where
  payload : TaskInput
  taskId : Int
  runId : Int
  queue : String
  priority : Int
  status : TaskStatus
  attempt : Int
  maxAttempts : Int
  workerId : Option String
  leasedUntil : Option Time
  heartbeatAt : Option Time
  scheduledAt : Option Time
  fencingToken : Int

/-- `InMemoryTask.snapshot`. -/
def InMemoryTask.snapshot (task : InMemoryTask) : TaskSnapshot :=
  { payload := task.payload
    taskId := task.taskId
    runId := task.runId
    queue := task.queue
    priority := task.priority
    status := task.status
    attempt := task.attempt
    maxAttempts := task.maxAttempts
    workerId := task.workerId
    leasedUntil := task.leasedUntil
    heartbeatAt := task.heartbeatAt
    scheduledAt := task.scheduledAt
    fencingToken := task.fencingToken }

/-- `InMemoryTaskBackend`. -/
structure InMemoryTaskBackend where
  tasks : Dict Int InMemoryTask
  deadLetters : List (Int × PyDict)
  nextId : Int

/-- `InMemoryTaskBackend.__init__`. -/
def InMemoryTaskBackend.init : InMemoryTaskBackend :=
  { tasks := Dict.empty, deadLetters := [], nextId := 1 }

/-! ## Methods on one task -/

/-- A computation over one task record. -/
abbrev TaskM : Type → Type := EStateM TaskError InMemoryTask

/-- A method of the backend. -/
abbrev BackendM : Type → Type := EStateM TaskError InMemoryTaskBackend

namespace InMemoryTask

/-- `_transition`: check only, the status is assigned by the caller. -/
def transition (target : TaskStatus) : TaskM Unit := do
  let task ← get
  match assertTaskTransition task.status target with
  | .ok _ => pure ()
  | .error e => throw (.invalidTransition e)

/-- `task.status = status`. -/
def setStatus (status : TaskStatus) : TaskM Unit :=
  modify fun task => { task with status := status }

/-- `_assert_fencing_token`. -/
def assertFencingToken (fencingToken : Int) : TaskM Unit := do
  let task ← get
  if task.fencingToken ≠ fencingToken then
    throw (.staleFencingToken task.taskId)

section

variable (workerId : String) (leaseSeconds : Int) (now : Time)

/-- `_assert_owner`. -/
def assertOwner : TaskM Unit := do
  let task ← get
  if task.workerId ≠ some workerId then
    throw (.taskLease task.taskId workerId)

/-- The part of `lease` that follows the choice of the task. -/
def lease : TaskM TaskSnapshot := do
  transition .leased
  setStatus .leased
  modify fun task =>
    { task with
      workerId := some workerId
      leasedUntil := some (now + seconds leaseSeconds)
      heartbeatAt := some now
      fencingToken := task.fencingToken + 1 }
  let task ← get
  pure task.snapshot

/-- `heartbeat`. -/
def heartbeat : TaskM Unit := do
  assertOwner workerId
  modify fun task =>
    { task with heartbeatAt := some now, leasedUntil := some (now + seconds leaseSeconds) }

variable (fencingToken : Int)

/-- `assert_can_complete`. -/
def assertCanComplete : TaskM Unit := do
  assertFencingToken fencingToken
  assertOwner workerId

/-- `complete`. -/
def complete : TaskM Unit := do
  assertCanComplete workerId fencingToken
  transition .succeeded
  setStatus .succeeded

/-- `fail`; the result tells whether the task was dead-lettered. -/
def fail (error : PyDict) : TaskM Bool := do
  assertFencingToken fencingToken
  assertOwner workerId
  if (← get).status = .leased then
    transition .running
    setStatus .running
  transition .failed
  setStatus .failed
  let task ← get
  if task.attempt + 1 ≥ task.maxAttempts then
    transition .deadLetter
  else
    transition .retrying
  modify fun task => { task with error := some error }
  if task.attempt + 1 ≥ task.maxAttempts then
    setStatus .deadLetter
    return true
  modify fun task => { task with attempt := task.attempt + 1 }
  setStatus .retrying
  modify fun task => { task with workerId := none, leasedUntil := none }
  transition .queued
  setStatus .queued
  return false

/-- `cancel`. -/
def cancel : TaskM Unit := do
  if (← get).status = .leased then
    transition .running
    setStatus .running
  transition .cancelled
  setStatus .cancelled

/-- `mark_running`. -/
def markRunning : TaskM Unit := do
  assertOwner workerId
  assertFencingToken fencingToken
  transition .running
  setStatus .running

/-- The test of the reaper's loop. -/
def Expired (task : InMemoryTask) : Prop :=
  (task.status = .leased ∨ task.status = .running) ∧
    ∃ leasedUntil, task.leasedUntil = some leasedUntil ∧ leasedUntil < now

end

instance (now : Time) (task : InMemoryTask) : Decidable (task.Expired now) :=
  match h : task.leasedUntil with
  | none => .isFalse (by simp [Expired, h])
  | some leasedUntil =>
      decidable_of_iff
        ((task.status = .leased ∨ task.status = .running) ∧ leasedUntil < now)
        (by simp [Expired, h])

/-- The body of the reaper's loop. -/
def reap (now : Time) : TaskM Unit := do
  if (← get).Expired now then
    if (← get).status = .running then
      transition .retrying
      setStatus .retrying
    transition .queued
    setStatus .queued
    modify fun task => { task with workerId := none, leasedUntil := none }

/-- The test of the candidate list of `lease`. -/
def Due (queue : String) (now : Time) (task : InMemoryTask) : Prop :=
  task.queue = queue ∧ task.status = .queued ∧
    ∀ scheduledAt, task.scheduledAt = some scheduledAt → scheduledAt ≤ now

instance (queue : String) (now : Time) (task : InMemoryTask) : Decidable (task.Due queue now) :=
  match h : task.scheduledAt with
  | none =>
      decidable_of_iff (task.queue = queue ∧ task.status = .queued) (by simp [Due, h])
  | some scheduledAt =>
      decidable_of_iff (task.queue = queue ∧ task.status = .queued ∧ scheduledAt ≤ now)
        (by simp [Due, h])

/-- The sort key `(-priority, created_at)`, compared lexicographically. -/
def KeyLE (a b : InMemoryTask) : Prop :=
  -a.priority < -b.priority ∨ (-a.priority = -b.priority ∧ a.createdAt ≤ b.createdAt)

instance (a b : InMemoryTask) : Decidable (a.KeyLE b) :=
  inferInstanceAs (Decidable (_ ∨ _))

end InMemoryTask

/-! ## Methods of the backend -/

namespace InMemoryTaskBackend

/-- `self.tasks[task_id]`, then a method on the task. -/
def withTask {α : Type} (taskId : Int) (act : TaskM α) : BackendM α := fun b =>
  match b.tasks.get? taskId with
  | none => .error (.keyError taskId) b
  | some task =>
      match act.run task with
      | .ok a task' => .ok a { b with tasks := b.tasks.set taskId task' }
      | .error e task' => .error e { b with tasks := b.tasks.set taskId task' }

/-- `task.get("task_id") or self._next_id`: an id of zero counts as absent. -/
def idFor (b : InMemoryTaskBackend) (task : TaskInput) : Int :=
  match task.taskId with
  | none => b.nextId
  | some taskId => if taskId = 0 then b.nextId else taskId

/-- `enqueue`. -/
def enqueue (now : Time) (task : TaskInput) : BackendM Int := do
  let taskId := (← get).idFor task
  match task.taskId with
  | none => modify fun b => { b with nextId := b.nextId + 1 }
  | some _ => modify fun b => { b with nextId := max b.nextId (taskId + 1) }
  match task.runId with
  | none => throw (.missingField "run_id")
  | some runId =>
      let item : InMemoryTask :=
        { taskId := taskId
          payload := task
          runId := runId
          queue := task.queue.getD "default"
          priority := task.priority.getD 0
          attempt := task.attempt.getD 0
          maxAttempts := task.maxAttempts.getD 3
          scheduledAt := task.scheduledAt
          createdAt := now }
      modify fun b => { b with tasks := b.tasks.set taskId item }
      pure taskId

/-- The reaper's loop over the task ids. -/
def reapEach (now : Time) : List Int → BackendM Unit
  | [] => pure ()
  | taskId :: rest => do
      withTask taskId (InMemoryTask.reap now)
      reapEach now rest

/-- `reap_expired_leases`. -/
def reapExpiredLeases (now : Time) : BackendM Unit := do
  reapEach now (← get).tasks.keys

/-- `sorted(candidates, key=...)[0]`, by its key in the dictionary. -/
def firstCandidate (queue : String) (now : Time) (b : InMemoryTaskBackend) : Option Int :=
  let candidates := b.tasks.entries.filter fun e => decide (e.2.Due queue now)
  ((candidates.insertionSort fun a b => a.2.KeyLE b.2).head?).map Prod.fst

/-- `lease`. -/
def lease (now reapNow : Time) (queue workerId : String) (leaseSeconds : Int) :
    BackendM (Option TaskSnapshot) := do
  reapExpiredLeases reapNow
  match (← get).firstCandidate queue now with
  | none => pure none
  | some taskId =>
      let snapshot ← withTask taskId (InMemoryTask.lease workerId leaseSeconds now)
      pure (some snapshot)

/-- `heartbeat`. -/
def heartbeat (now : Time) (taskId : Int) (workerId : String) (leaseSeconds : Int) :
    BackendM Unit :=
  withTask taskId (InMemoryTask.heartbeat workerId leaseSeconds now)

variable (taskId : Int) (workerId : String) (fencingToken : Int)

/-- `complete`. -/
def complete : BackendM Unit :=
  withTask taskId (InMemoryTask.complete workerId fencingToken)

/-- `fail`. -/
def fail (error : PyDict) : BackendM Unit := do
  if ← withTask taskId (InMemoryTask.fail workerId fencingToken error) then
    modify fun b => { b with deadLetters := b.deadLetters ++ [(taskId, error)] }

/-- `cancel`. -/
def cancel : BackendM Unit :=
  withTask taskId InMemoryTask.cancel

/-- `mark_running`. -/
def markRunning : BackendM Unit :=
  withTask taskId (InMemoryTask.markRunning workerId fencingToken)

/-- `assert_can_complete`. -/
def assertCanComplete : BackendM Unit :=
  withTask taskId (InMemoryTask.assertCanComplete workerId fencingToken)

/-- `will_retry`. -/
def willRetry : BackendM Bool :=
  withTask taskId do
    let task ← get
    pure (decide (task.attempt + 1 < task.maxAttempts))

end InMemoryTaskBackend

/-! ## What each method does

One equation per method on a task record: which error it raises, and the record
it leaves. Two facts the equations make visible are used everywhere below. A
method that raises leaves the record as it was, although the source assigns
intermediate statuses on the way; and no method but `lease` writes the fencing
token. -/

/-- The error of a refused status change. -/
def refused (current target : TaskStatus) : TaskError :=
  .invalidTransition { entity := "task", current := current.value, target := target.value }

namespace InMemoryTask

/-! ## The checks -/

theorem run_transition (target : TaskStatus) (t : InMemoryTask) : (transition target).run t =
      if target ∈ taskTransitions t.status then .ok () t
      else .error (refused t.status target) t := by
  simp only [transition, assertTaskTransition, assertTransition, EStateM.run_bind, EStateM.run_get]
  split_ifs <;> rfl

@[simp] theorem run_setStatus (s : TaskStatus) (t : InMemoryTask) :
    (setStatus s).run t = .ok () { t with status := s } := rfl

variable (w : String) (k : Int) (now : Time) (t : InMemoryTask)

theorem run_assertFencingToken : (assertFencingToken k).run t =
      if t.fencingToken ≠ k then .error (.staleFencingToken t.taskId) t else .ok () t :=
  run_check t

theorem run_assertOwner : (assertOwner w).run t =
      if t.workerId ≠ some w then .error (.taskLease t.taskId w) t else .ok () t :=
  run_check t

theorem run_assertCanComplete : (assertCanComplete w k).run t =
      if t.fencingToken ≠ k then .error (.staleFencingToken t.taskId) t
      else if t.workerId ≠ some w then .error (.taskLease t.taskId w) t
      else .ok () t := by
  rw [assertCanComplete, run_bind_of_guard (run_assertFencingToken k t), run_assertOwner]

/-! ## The writing methods -/

theorem run_lease (n : Int) (now : Time) (t : InMemoryTask) : (lease w n now).run t =
      if t.status = .queued then
        let t' : InMemoryTask :=
          { t with
            status := .leased
            workerId := some w
            leasedUntil := some (now + seconds n)
            heartbeatAt := some now
            fencingToken := t.fencingToken + 1 }
        .ok t'.snapshot t'
      else .error (refused t.status .leased) t := by
  simp only [lease, EStateM.run_bind, run_transition]
  cases hs : t.status <;> simp [taskTransitions]

theorem run_heartbeat (n : Int) (now : Time) (t : InMemoryTask) : (heartbeat w n now).run t =
      if t.workerId ≠ some w then .error (.taskLease t.taskId w) t
      else
        .ok () { t with heartbeatAt := some now, leasedUntil := some (now + seconds n) } := by
  rw [heartbeat, run_bind_of_guard (run_assertOwner w t)]
  rfl

theorem run_markRunning : (markRunning w k).run t =
      if t.workerId ≠ some w then .error (.taskLease t.taskId w) t
      else if t.fencingToken ≠ k then .error (.staleFencingToken t.taskId) t
      else if t.status = .leased then .ok () { t with status := .running }
      else .error (refused t.status .running) t := by
  rw [markRunning, run_bind_of_guard (run_assertOwner w t),
    run_bind_of_guard (run_assertFencingToken k t), EStateM.run_bind, run_transition]
  cases hs : t.status <;> simp [taskTransitions]

theorem run_complete : (complete w k).run t =
      if t.fencingToken ≠ k then .error (.staleFencingToken t.taskId) t
      else if t.workerId ≠ some w then .error (.taskLease t.taskId w) t
      else if t.status = .running then .ok () { t with status := .succeeded }
      else .error (refused t.status .succeeded) t := by
  rw [complete, assertCanComplete, bind_assoc, run_bind_of_guard (run_assertFencingToken k t),
    run_bind_of_guard (run_assertOwner w t), EStateM.run_bind, run_transition]
  cases hs : t.status <;> simp [taskTransitions]

theorem run_fail (error : PyDict) (t : InMemoryTask) : (fail w k error).run t =
      if t.fencingToken ≠ k then .error (.staleFencingToken t.taskId) t
      else if t.workerId ≠ some w then .error (.taskLease t.taskId w) t
      else if t.status = .leased ∨ t.status = .running then
        if t.attempt + 1 ≥ t.maxAttempts then
          .ok true { t with status := .deadLetter, error := some error }
        else
          .ok false { t with
              status := .queued
              attempt := t.attempt + 1
              workerId := none
              leasedUntil := none
              error := some error }
      else .error (refused t.status .failed) t := by
  rw [fail, run_bind_of_guard (run_assertFencingToken k t), run_bind_of_guard (run_assertOwner w t)]
  -- the retry test is made twice in the source, both times on the same attempt
  by_cases hd : t.attempt + 1 ≥ t.maxAttempts <;>
    cases hs : t.status <;>
      simp [-bind_pure_comp, hs, hd, run_transition, taskTransitions]

theorem run_cancel : cancel.run t =
      if t.status = .queued ∨ t.status = .leased ∨ t.status = .running then
        .ok () { t with status := .cancelled }
      else .error (refused t.status .cancelled) t := by
  simp only [cancel, EStateM.run_bind, EStateM.run_get]
  cases hs : t.status <;> simp [hs, run_transition, taskTransitions]

theorem run_reap : (reap now).run t =
      if t.Expired now then
        .ok () { t with status := .queued, workerId := none, leasedUntil := none }
      else .ok () t := by
  simp only [reap, EStateM.run_bind, EStateM.run_get]
  by_cases h : t.Expired now
  · obtain ⟨hs, _⟩ := id h
    rcases hs with hs | hs <;> simp [h, hs, run_transition, taskTransitions]
  · simp only [if_neg h]
    rfl

/-- The record after the reaper's loop body. -/
def reaped (now : Time) (t : InMemoryTask) : InMemoryTask :=
  if t.Expired now then { t with status := .queued, workerId := none, leasedUntil := none }
  else t

theorem run_reap_eq : (reap now).run t = .ok () (t.reaped now) := by
  rw [run_reap, reaped]
  split <;> rfl

end InMemoryTask

/-! ## The backend -/

namespace InMemoryTaskBackend

variable {b : InMemoryTaskBackend} {id : Int} {t : InMemoryTask}

theorem run_withTask_of_none {α : Type} (act : TaskM α) (h : b.tasks.get? id = none) :
    (withTask id act).run b = .error (.keyError id) b := by
  simp only [withTask, EStateM.run, h]

theorem run_withTask_of_some {α : Type} (act : TaskM α) (h : b.tasks.get? id = some t) :
    (withTask id act).run b =
      match act.run t with
      | .ok a t' => .ok a { b with tasks := b.tasks.set id t' }
      | .error e t' => .error e { b with tasks := b.tasks.set id t' } := by
  cases hact : act t <;> simp only [withTask, EStateM.run, h, hact]

/-- A method that leaves the record as it was leaves the backend as it was. -/
theorem run_withTask_of_error {α : Type} {act : TaskM α} {e : TaskError}
    (h : b.tasks.get? id = some t) (hrun : act.run t = .error e t) :
    (withTask id act).run b = .error e b := by
  rw [run_withTask_of_some act h, hrun]
  simp only [Dict.set_eq_self h]

/-- The tasks after a method on one of them. -/
theorem endState_withTask {α : Type} (act : TaskM α) (h : b.tasks.get? id = some t) :
    endState ((withTask id act).run b) =
      { b with tasks := b.tasks.set id (endState (act.run t)) } := by
  rw [run_withTask_of_some act h]
  cases act.run t <;> rfl

/-- The reaper's loop returns, and has reaped exactly the tasks it visited. -/
theorem run_reapEach (now : Time) :
    ∀ (ids : List Int) (b : InMemoryTaskBackend), ids.Nodup → (∀ id ∈ ids, id ∈ b.tasks.keys) →
      ∃ b', (reapEach now ids).run b = .ok () b' ∧ b'.deadLetters = b.deadLetters ∧
        b'.nextId = b.nextId ∧ b'.tasks.keys = b.tasks.keys ∧
        ∀ id, b'.tasks.get? id =
          if id ∈ ids then (b.tasks.get? id).map (InMemoryTask.reaped now)
          else b.tasks.get? id := by
  intro ids
  induction ids with
  | nil =>
    intro b _ _
    exact ⟨b, rfl, rfl, rfl, rfl, by simp⟩
  | cons id ids ih =>
    intro b hnodup hmem
    obtain ⟨hid, hnodup'⟩ := List.nodup_cons.mp hnodup
    obtain ⟨t, ht⟩ := b.tasks.mem_keys_iff.mp (hmem id List.mem_cons_self)
    have hkeys : (b.tasks.set id (t.reaped now)).keys = b.tasks.keys :=
      Dict.keys_set_of_mem (hmem id List.mem_cons_self)
    obtain ⟨b', hrun, hdead, hnext, hkeys', hget⟩ :=
      ih { b with tasks := b.tasks.set id (t.reaped now) } hnodup' (by
        intro x hx
        simp only [hkeys]
        exact hmem x (List.mem_cons_of_mem _ hx))
    refine ⟨b', ?_, hdead, hnext, hkeys'.trans hkeys, ?_⟩
    · simp only [reapEach, EStateM.run_bind, run_withTask_of_some _ ht, InMemoryTask.run_reap_eq]
      exact hrun
    · intro x
      rw [hget x]
      simp only [Dict.get?_set]
      by_cases hx : x = id
      · subst hx
        simp [hid, ht]
      · simp [hx]

/-- The backend after `reap_expired_leases`: every task is visited once. -/
theorem run_reapExpiredLeases (now : Time) (b : InMemoryTaskBackend) :
    ∃ b', (reapExpiredLeases now).run b = .ok () b' ∧ b'.deadLetters = b.deadLetters ∧
      b'.nextId = b.nextId ∧ b'.tasks.keys = b.tasks.keys ∧
      ∀ id, b'.tasks.get? id = (b.tasks.get? id).map (InMemoryTask.reaped now) := by
  obtain ⟨b', hrun, hdead, hnext, hkeys, hget⟩ :=
    run_reapEach now b.tasks.keys b b.tasks.nodup (fun _ h => h)
  refine ⟨b', hrun, hdead, hnext, hkeys, ?_⟩
  intro id
  rw [hget id]
  split
  · rfl
  · rename_i hid
    rw [(b.tasks.get?_eq_none_iff).mpr hid]
    rfl

/-- The chosen candidate is a queued, due task of the queue. -/
theorem firstCandidate_spec {queue : String} {now : Time} (h : b.firstCandidate queue now = some id) :
    ∃ t, b.tasks.get? id = some t ∧ t.Due queue now := by
  simp only [firstCandidate, Option.map_eq_some_iff] at h
  obtain ⟨⟨id', t⟩, hhead, rfl⟩ := h
  have hmem := List.mem_of_mem_head? (Option.mem_def.mpr hhead)
  rw [List.mem_insertionSort, List.mem_filter] at hmem
  exact ⟨t, b.tasks.get?_eq_some_iff.mpr hmem.1, by simpa using hmem.2⟩

end InMemoryTaskBackend

/-! ## The calls of the durable backends

The two durable backends, sqlalchemy_backend.py and redis_backend.py, have the same
methods. A call carries the clock readings it makes, and the orders in which the database
may answer. -/

/-- One call of a method. `queue` of the reaper is a parameter of the Redis backend
only. -/
inductive DurableCall where
  | enqueue (now : Time) (task : TaskInput)
  | lease (now reapNow : Time) (order reapOrder : RowOrder) (queue workerId : String)
      (leaseSeconds : Int)
  | heartbeat (now : Time) (taskId : Int) (workerId : String) (leaseSeconds : Int)
  | markRunning (now : Time) (taskId : Int) (workerId : String) (fencingToken : Int)
  | complete (now : Time) (taskId : Int) (workerId : String) (fencingToken : Int)
  | fail (now : Time) (taskId : Int) (workerId : String) (fencingToken : Int) (error : PyDict)
  | cancel (now : Time) (taskId : Int)
  | reapExpiredLeases (now : Time) (order : RowOrder) (queue : Option String)

/-- What a call returns; a lease returns a task of the backend's kind. -/
inductive DurableReply (τ : Type) where
  | enqueued (taskId : Int)
  | leased (task : Option τ)
  | done
  | reaped (count : Nat)

/-- `_error_message`; `str` is the text of a value. -/
def errorMessage (str : PyValue → String) (error : PyDict) : String :=
  match error.get? "message" with
  | none => str (.dict error)
  | some .none => str (.dict error)
  | some message => str message

end DimooRun.Scheduler
