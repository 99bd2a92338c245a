/-
  Scheduler/SqlTask.lean --- the SQLAlchemy task backend, one task row at a time.

  Source: scheduler/sqlalchemy_backend.py, the methods that work
  on a task they have loaded, and the conditional claim of `lease`.

  A method reads and assigns the attributes of the row object; what becomes of the
  assignments is the session's business. Every method that succeeds does one
  operation of `Scheduler/Lifecycle.lean` to the scheduling state of the row.
-/
import DimooRun.Scheduler.InMemory

set_option autoImplicit false

namespace DimooRun.Scheduler

open Foundation DimooRun.Runtime
open Domain (Run)

/-- A row of the task table. -/
abbrev TaskRow : Type := Domain.Task

/-- A computation over a loaded row. -/
abbrev RowM : Type → Type := EStateM TaskError TaskRow

namespace TaskRow

/-! ## The methods -/

/-- `assert_task_transition(task.status, target)`. -/
def transition (target : TaskStatus) : RowM Unit := do
  match assertTaskTransition (← get).status target with
  | .ok _ => pure ()
  | .error e => throw (.invalidTransition e)

/-- `task.status = status`. -/
def setStatus (status : TaskStatus) : RowM Unit :=
  modify fun task => { task with status := status }

section

variable (workerId : String) (fencingToken : Int) (message : String) (now : Time)

/-- `_assert_fencing_token`. -/
def assertFencingToken : RowM Unit := do
  let task ← get
  if task.fencingToken ≠ fencingToken then
    throw (.staleFencingToken task.id)

/-- `_assert_owner`. -/
def assertOwner : RowM Unit := do
  let task ← get
  if task.workerId ≠ some workerId then
    throw (.taskLease task.id workerId)

/-- `heartbeat`. -/
def heartbeat (leaseSeconds : Int) (now : Time) : RowM Unit := do
  assertOwner workerId
  modify fun task =>
    { task with heartbeatAt := some now, leasedUntil := some (now + seconds leaseSeconds) }

/-- `assert_can_complete`. -/
def assertCanComplete : RowM Unit := do
  assertFencingToken fencingToken
  assertOwner workerId

/-- A leased task is stepped to running first. -/
def stepToRunning : RowM Unit := do
  if (← get).status = .leased then
    transition .running
    setStatus .running

/-- `complete`. -/
def complete : RowM Unit := do
  assertCanComplete workerId fencingToken
  stepToRunning
  transition .succeeded
  setStatus .succeeded
  modify fun task => { task with finishedAt := some now, leasedUntil := none }

/-- `fail`; `message` is `_error_message(error)`. The result tells whether the task was
dead-lettered. -/
def fail : RowM Bool := do
  assertFencingToken fencingToken
  assertOwner workerId
  stepToRunning
  transition .failed
  setStatus .failed
  modify fun task => { task with error := some message }
  let task ← get
  if task.attempt + 1 ≥ task.maxAttempts then
    transition .deadLetter
    setStatus .deadLetter
    modify fun task =>
      { task with finishedAt := some now, deadLetterReason := task.error, leasedUntil := none }
    return true
  transition .retrying
  setStatus .retrying
  modify fun task =>
    { task with attempt := task.attempt + 1, workerId := none, leasedUntil := none }
  transition .queued
  setStatus .queued
  return false

/-- `cancel`. -/
def cancel : RowM Unit := do
  stepToRunning
  transition .cancelled
  setStatus .cancelled
  modify fun task => { task with finishedAt := some now }

/-- `mark_running`. -/
def markRunning : RowM Unit := do
  assertOwner workerId
  assertFencingToken fencingToken
  transition .running
  setStatus .running
  modify fun task => { task with startedAt := task.startedAt.or (some now) }

/-- The condition of the reaper's SELECT. -/
def Expired (task : TaskRow) : Prop :=
  (task.status = .leased ∨ task.status = .running) ∧
    (∃ leasedUntil, task.leasedUntil = some leasedUntil ∧ leasedUntil < now) ∧
      task.isDeleted = false

end

instance (now : Time) (task : TaskRow) : Decidable (Expired now task) :=
  match h : task.leasedUntil with
  | none => .isFalse (by simp [Expired, h])
  | some leasedUntil =>
      decidable_of_iff
        ((task.status = .leased ∨ task.status = .running) ∧ leasedUntil < now ∧
          task.isDeleted = false)
        (by simp [Expired, h])

/-- The body of the reaper's loop, as far as the task is concerned; the result tells
whether the task was dead-lettered. -/
def reap (now : Time) : RowM Bool := do
  let task ← get
  if task.status = .running then
    if task.attempt + 1 ≥ task.maxAttempts then
      transition .deadLetter
      setStatus .deadLetter
      modify fun task =>
        { task with
          finishedAt := some now
          deadLetterReason := some "lease_expired"
          workerId := none
          leasedUntil := none }
      return true
    transition .retrying
    setStatus .retrying
    modify fun task => { task with attempt := task.attempt + 1 }
  transition .queued
  setStatus .queued
  modify fun task => { task with workerId := none, leasedUntil := none }
  return false

/-- The WHERE of the candidate SELECT. -/
def Candidate (queue : String) (now : Time) (task : TaskRow) : Prop :=
  task.queue = queue ∧ task.status = .queued ∧ task.isDeleted = false ∧
    ∀ scheduledAt, task.scheduledAt = some scheduledAt → scheduledAt ≤ now

instance (queue : String) (now : Time) (task : TaskRow) : Decidable (Candidate queue now task) :=
  match h : task.scheduledAt with
  | none =>
      decidable_of_iff (task.queue = queue ∧ task.status = .queued ∧ task.isDeleted = false)
        (by simp [Candidate, h])
  | some scheduledAt =>
      decidable_of_iff
        (task.queue = queue ∧ task.status = .queued ∧ task.isDeleted = false ∧ scheduledAt ≤ now)
        (by simp [Candidate, h])

/-- The WHERE of the claim. -/
def Claimable (task : TaskRow) : Prop := task.status = .queued ∧ task.isDeleted = false

instance (task : TaskRow) : Decidable (Claimable task) := inferInstanceAs (Decidable (_ ∧ _))

/-- The row after the claim. -/
def claimed (workerId : String) (leasedUntil now : Time) (task : TaskRow) : TaskRow :=
  { task with
    status := .leased
    workerId := some workerId
    leasedUntil := some leasedUntil
    heartbeatAt := some now
    fencingToken := task.fencingToken + 1 }

/-! ## What they do -/

theorem run_transition (target : TaskStatus) (t : TaskRow) : (transition target).run t =
      if target ∈ taskTransitions t.status then .ok () t
      else .error (refused t.status target) t := by
  simp only [transition, assertTaskTransition, assertTransition, EStateM.run_bind, EStateM.run_get]
  split_ifs <;> rfl

@[simp] theorem run_setStatus (s : TaskStatus) (t : TaskRow) :
    (setStatus s).run t = .ok () { t with status := s } := rfl

variable (w : String) (k : Int) (now : Time) (t : TaskRow)

theorem run_assertFencingToken : (assertFencingToken k).run t =
      if t.fencingToken ≠ k then .error (.staleFencingToken t.id) t else .ok () t :=
  run_check t

theorem run_assertOwner : (assertOwner w).run t =
      if t.workerId ≠ some w then .error (.taskLease t.id w) t else .ok () t :=
  run_check t

theorem run_stepToRunning : stepToRunning.run t =
      if t.status = .leased then .ok () { t with status := .running } else .ok () t := by
  simp only [stepToRunning, EStateM.run_bind, EStateM.run_get]
  split
  · rename_i h
    simp [h, run_transition, taskTransitions]
  · rfl

theorem run_heartbeat (n : Int) (now : Time) (t : TaskRow) : (heartbeat w n now).run t =
      if t.workerId ≠ some w then .error (.taskLease t.id w) t
      else
        .ok () { t with heartbeatAt := some now, leasedUntil := some (now + seconds n) } := by
  rw [heartbeat, run_bind_of_guard (run_assertOwner w t)]
  rfl

theorem run_markRunning : (markRunning w k now).run t =
      if t.workerId ≠ some w then .error (.taskLease t.id w) t
      else if t.fencingToken ≠ k then .error (.staleFencingToken t.id) t
      else if t.status = .leased then
        .ok () { t with status := .running, startedAt := t.startedAt.or (some now) }
      else .error (refused t.status .running) t := by
  rw [markRunning, run_bind_of_guard (run_assertOwner w t),
    run_bind_of_guard (run_assertFencingToken k t), EStateM.run_bind, run_transition]
  cases hs : t.status <;> simp [taskTransitions]

theorem run_complete : (complete w k now).run t =
      if t.fencingToken ≠ k then .error (.staleFencingToken t.id) t
      else if t.workerId ≠ some w then .error (.taskLease t.id w) t
      else if t.status = .leased ∨ t.status = .running then
        .ok () { t with status := .succeeded, finishedAt := some now, leasedUntil := none }
      else .error (refused t.status .succeeded) t := by
  rw [complete, assertCanComplete, bind_assoc, run_bind_of_guard (run_assertFencingToken k t),
    run_bind_of_guard (run_assertOwner w t), EStateM.run_bind, run_stepToRunning]
  cases hs : t.status <;> simp [hs, run_transition, taskTransitions]

theorem run_fail (message : String) (now : Time) (t : TaskRow) : (fail w k message now).run t =
      if t.fencingToken ≠ k then .error (.staleFencingToken t.id) t
      else if t.workerId ≠ some w then .error (.taskLease t.id w) t
      else if t.status = .leased ∨ t.status = .running then
        if t.attempt + 1 ≥ t.maxAttempts then
          .ok true { t with
              status := .deadLetter
              error := some message
              finishedAt := some now
              deadLetterReason := some message
              leasedUntil := none }
        else
          .ok false { t with
              status := .queued
              error := some message
              attempt := t.attempt + 1
              workerId := none
              leasedUntil := none }
      else .error (refused t.status .failed) t := by
  rw [fail, run_bind_of_guard (run_assertFencingToken k t), run_bind_of_guard (run_assertOwner w t),
    EStateM.run_bind, run_stepToRunning]
  by_cases hd : t.attempt + 1 ≥ t.maxAttempts <;>
    cases hs : t.status <;>
      simp [-bind_pure_comp, hs, hd, run_transition, taskTransitions]

theorem run_cancel : (cancel now).run t =
      if t.status = .queued ∨ t.status = .leased ∨ t.status = .running then
        .ok () { t with status := .cancelled, finishedAt := some now }
      else .error (refused t.status .cancelled) t := by
  simp only [cancel, EStateM.run_bind, run_stepToRunning]
  cases hs : t.status <;> simp [hs, run_transition, taskTransitions]

/-- The reaper selects rows that are leased or running; the object of such a row may
have been loaded before, with another status. -/
theorem run_reap : (reap now).run t =
      if t.status = .running then
        if t.attempt + 1 ≥ t.maxAttempts then
          .ok true { t with
              status := .deadLetter
              finishedAt := some now
              deadLetterReason := some "lease_expired"
              workerId := none
              leasedUntil := none }
        else
          .ok false { t with
              status := .queued
              attempt := t.attempt + 1
              workerId := none
              leasedUntil := none }
      else if t.status = .leased ∨ t.status = .retrying then
        .ok false { t with status := .queued, workerId := none, leasedUntil := none }
      else .error (refused t.status .queued) t := by
  simp only [reap, EStateM.run_bind, EStateM.run_get]
  by_cases hd : t.attempt + 1 ≥ t.maxAttempts <;>
    cases hs : t.status <;>
      simp [-bind_pure_comp, hs, hd, run_transition, taskTransitions]

end TaskRow

/-! ## Writes -/

/-- A method that works on one loaded row, with its arguments. -/
inductive RowOp where
  | heartbeat (workerId : String) (leaseSeconds : Int) (now : Time)
  | markRunning (workerId : String) (fencingToken : Int) (now : Time)
  | complete (workerId : String) (fencingToken : Int) (now : Time)
  | fail (workerId : String) (fencingToken : Int) (message : String) (now : Time)
  | cancel (now : Time)
  | reap (now : Time)
  deriving DecidableEq, Repr

namespace RowOp

/-- The method; the result tells whether the task was dead-lettered. -/
def act : RowOp → RowM Bool
  | heartbeat workerId leaseSeconds now => do
      TaskRow.heartbeat workerId leaseSeconds now
      pure false
  | markRunning workerId fencingToken now => do
      TaskRow.markRunning workerId fencingToken now
      pure false
  | complete workerId fencingToken now => do
      TaskRow.complete workerId fencingToken now
      pure false
  | fail workerId fencingToken message now => TaskRow.fail workerId fencingToken message now
  | cancel now => do
      TaskRow.cancel now
      pure false
  | reap now => TaskRow.reap now

end RowOp

namespace TaskRow

/-- Two versions of one task: the columns that no method assigns. -/
structure SameTask (t t' : TaskRow) : Prop where
  id : t'.id = t.id
  runId : t'.runId = t.runId
  tenantId : t'.tenantId = t.tenantId
  projectId : t'.projectId = t.projectId
  maxAttempts : t'.maxAttempts = t.maxAttempts
  queue : t'.queue = t.queue
  priority : t'.priority = t.priority
  scheduledAt : t'.scheduledAt = t.scheduledAt
  createdAt : t'.createdAt = t.createdAt
  isDeleted : t'.isDeleted = t.isDeleted

theorem SameTask.refl (t : TaskRow) : SameTask t t :=
  ⟨rfl, rfl, rfl, rfl, rfl, rfl, rfl, rfl, rfl, rfl⟩

theorem SameTask.trans {t t' t'' : TaskRow} (h : SameTask t t') (h' : SameTask t' t'') :
    SameTask t t'' :=
  ⟨h'.id.trans h.id, h'.runId.trans h.runId, h'.tenantId.trans h.tenantId,
    h'.projectId.trans h.projectId, h'.maxAttempts.trans h.maxAttempts, h'.queue.trans h.queue,
    h'.priority.trans h.priority, h'.scheduledAt.trans h.scheduledAt,
    h'.createdAt.trans h.createdAt, h'.isDeleted.trans h.isDeleted⟩

variable (loaded assigned stored : TaskRow)

/-- No attribute differs from what was loaded; then there is no UPDATE. -/
def Unchanged : Prop :=
  assigned.status = loaded.status ∧ assigned.attempt = loaded.attempt ∧
    assigned.startedAt = loaded.startedAt ∧ assigned.finishedAt = loaded.finishedAt ∧
    assigned.leasedUntil = loaded.leasedUntil ∧ assigned.workerId = loaded.workerId ∧
    assigned.heartbeatAt = loaded.heartbeatAt ∧ assigned.fencingToken = loaded.fencingToken ∧
    assigned.error = loaded.error ∧ assigned.deadLetterReason = loaded.deadLetterReason

instance (loaded assigned : TaskRow) : Decidable (Unchanged loaded assigned) :=
  inferInstanceAs (Decidable (_ ∧ _))

/-- The value of a column after the UPDATE: an attribute that was not changed is not
written. -/
def column {α : Type} [DecidableEq α] (loaded assigned stored : α) : α :=
  if assigned = loaded then stored else assigned

@[simp] theorem column_unchanged {α : Type} [DecidableEq α] (loaded stored : α) :
    column loaded loaded stored = stored := if_pos rfl

/-- The UPDATE of a flush: the columns in which the row object differs from what was
loaded are written to the stored row. -/
def flush : TaskRow :=
  { stored with
    status := column loaded.status assigned.status stored.status
    attempt := column loaded.attempt assigned.attempt stored.attempt
    startedAt := column loaded.startedAt assigned.startedAt stored.startedAt
    finishedAt := column loaded.finishedAt assigned.finishedAt stored.finishedAt
    leasedUntil := column loaded.leasedUntil assigned.leasedUntil stored.leasedUntil
    workerId := column loaded.workerId assigned.workerId stored.workerId
    heartbeatAt := column loaded.heartbeatAt assigned.heartbeatAt stored.heartbeatAt
    fencingToken := column loaded.fencingToken assigned.fencingToken stored.fencingToken
    error := column loaded.error assigned.error stored.error
    deadLetterReason :=
      column loaded.deadLetterReason assigned.deadLetterReason stored.deadLetterReason }

theorem sameTask_flush : SameTask stored (flush loaded assigned stored) :=
  ⟨rfl, rfl, rfl, rfl, rfl, rfl, rfl, rfl, rfl, rfl⟩

theorem sameTask_claimed (workerId : String) (leasedUntil now : Time) (t : TaskRow) :
    SameTask t (claimed workerId leasedUntil now t) :=
  ⟨rfl, rfl, rfl, rfl, rfl, rfl, rfl, rfl, rfl, rfl⟩

end TaskRow

/-- The scheduling state of the row. -/
def TaskRow.schedule (t : TaskRow) : TaskState :=
  { status := t.status
    attempt := t.attempt
    maxAttempts := t.maxAttempts
    workerId := t.workerId
    leasedUntil := t.leasedUntil
    fencingToken := t.fencingToken }

namespace RowOp

/-- What the method does to the scheduling state. -/
def taskOp : RowOp → TaskOp
  | heartbeat workerId leaseSeconds now => .heartbeat workerId (now + seconds leaseSeconds)
  | markRunning workerId fencingToken _ => .markRunning workerId fencingToken
  | complete workerId fencingToken _ => .complete workerId fencingToken
  | fail workerId fencingToken _ _ => .fail workerId fencingToken
  | cancel _ => .cancel
  | reap now => .expire now

/-- What a method writes: another version of the task, with the same token. -/
structure Writes (t t' : TaskRow) : Prop extends t.SameTask t' where
  fencingToken : t'.fencingToken = t.fencingToken

theorem heldBy_iff (t : TaskRow) (w : String) (k : Int) :
    t.schedule.HeldBy w k ↔ ¬ t.fencingToken ≠ k ∧ ¬ t.workerId ≠ some w :=
  (and_congr not_not not_not).symm

/-- Every method does its operation or raises; the reaper's, on the rows it takes. -/
theorem refines (t : TaskRow) (op : RowOp)
    (hreap : ∀ now, op = .reap now → t.schedule.Expired now) :
    op.taskOp.Refines op.act t t.schedule fun _ t' state => t'.schedule = state ∧ Writes t t' := by
  have hsame : Writes t t := ⟨.refl t, rfl⟩
  cases op with
  | heartbeat w n now =>
    exact .returning (.heartbeat not_not.symm (TaskRow.run_heartbeat w n now t)
      ⟨rfl, { hsame with }⟩)
  | markRunning w k now =>
    exact .returning (.of_held rfl ((heldBy_iff t w k).trans and_comm) (fun _ => Iff.rfl)
      (TaskRow.run_markRunning w k now t) fun _ => ⟨rfl, { hsame with }⟩)
  | complete w k now =>
    exact .returning (.of_held rfl (heldBy_iff t w k) (fun _ => Iff.rfl)
      (TaskRow.run_complete w k now t) fun _ => ⟨rfl, { hsame with }⟩)
  | fail w k message now =>
    exact .fail (heldBy_iff t w k) Iff.rfl Int.not_lt.symm (TaskRow.run_fail w k message now t)
      ⟨rfl, { hsame with }⟩ ⟨rfl, { hsame with }⟩
  | cancel now =>
    exact .returning (.cancel Iff.rfl (TaskRow.run_cancel now t) ⟨rfl, { hsame with }⟩)
  | reap now =>
    exact .expire (hreap now rfl) (TaskRow.run_reap now t) ⟨rfl, { hsame with }⟩
      ⟨rfl, { hsame with }⟩ ⟨rfl, { hsame with }⟩

/-- The reaper's method on any row: the row may have been loaded before it was selected. -/
theorem run_reap (now : Time) (t : TaskRow) :
    (∃ dead t', (reap now).act.run t = .ok dead t' ∧ Writes t t' ∧
      (t'.status = .queued ∨ t'.status = .deadLetter)) ∨ ∃ e, (reap now).act.run t = .error e t := by
  have hsame : Writes t t := ⟨.refl t, rfl⟩
  simp only [act, TaskRow.run_reap]
  split_ifs
  · exact .inl ⟨_, _, rfl, { hsame with }, .inr rfl⟩
  · exact .inl ⟨_, _, rfl, { hsame with }, .inl rfl⟩
  · exact .inl ⟨_, _, rfl, { hsame with }, .inl rfl⟩
  · exact .inr ⟨_, rfl⟩

/-- A method succeeds and writes the row, or raises and leaves the row alone. -/
theorem run_act (op : RowOp) (t : TaskRow) :
    (∃ dead t', op.act.run t = .ok dead t' ∧ Writes t t') ∨ ∃ e, op.act.run t = .error e t := by
  by_cases hreap : ∃ now, op = .reap now
  · obtain ⟨now, rfl⟩ := hreap
    rcases run_reap now t with ⟨dead, t', hrun, hwrites, _⟩ | hraised
    · exact .inl ⟨dead, t', hrun, hwrites⟩
    · exact .inr hraised
  · have hrefines := refines t op fun now heq => absurd ⟨now, heq⟩ hreap
    cases hrun : op.act.run t with
    | ok dead t' =>
      obtain ⟨_, _, _, hwrites⟩ := hrefines.of_ok hrun
      exact .inl ⟨dead, t', rfl, hwrites⟩
    | error e t' =>
      obtain ⟨_, rfl⟩ := hrefines.of_error hrun
      exact .inr ⟨e, rfl⟩

end RowOp

/-! ## Quotas: scheduler/quota.py

A quota limits how many tasks may be leased or running in a tenant, in a project, for
an agent and for a deployment. The policy counts rows of the session it is given, so
every method takes the rows that this session sees. What the policy is for is said
over `QuotaScope`: a task may be leased if every limited scope it belongs to has room. -/

/-- The `scope` of a `QuotaExceededError`. -/
inductive QuotaScopeName where
  | tenant
  | project
  | agent
  | deployment
  deriving DecidableEq, Repr

/-- The text of the scope. -/
def QuotaScopeName.value : QuotaScopeName → String
  | .tenant => "tenant"
  | .project => "project"
  | .agent => "agent"
  | .deployment => "deployment"

/-- `QuotaExceededError`. -/
structure QuotaExceededError where
  scope : QuotaScopeName
  limit : Int
  current : Int
  deriving DecidableEq, Repr

/-- `error_code`. -/
def QuotaExceededError.errorCode : String := "runtime_quota_exceeded"

/-- `RuntimeQuota`. -/
structure RuntimeQuota where
  tenantMaxRunningTasks : Option Int := none
  projectMaxRunningTasks : Option Int := none
  agentMaxRunningTasks : Option Int := none
  deploymentMaxRunningTasks : Option Int := none
  deriving DecidableEq, Repr

/-- The task counts against the quotas. -/
def TaskRow.Counted (task : TaskRow) : Prop :=
  (task.status = .leased ∨ task.status = .running) ∧ task.isDeleted = false

instance (task : TaskRow) : Decidable (task.Counted) :=
  inferInstanceAs (Decidable (_ ∧ _))

namespace SQLAlchemyQuotaPolicy

section

variable (quota : RuntimeQuota) (rows : Dict Int TaskRow) (runs : Dict Int Run)
  (tenantId projectId : Int) (agentId deploymentId : Option Int)

/-- `_count_running`. -/
def countRunning (projectId : Option Int) : Int :=
  (rows.values.filter fun task =>
    task.tenantId = tenantId ∧ task.Counted ∧
      ∀ id, projectId = some id → task.projectId = id).length

/-- The conditions of `_count_running_for_run_binding` on the run of a task. -/
def Bound (task : TaskRow) : Prop :=
  ∃ run, runs.get? task.runId = some run ∧ (∀ id, agentId = some id → run.agentId = id) ∧
    ∀ id, deploymentId = some id → run.deploymentId = some id

instance (agentId deploymentId : Option Int) (task : TaskRow) :
    Decidable (Bound runs agentId deploymentId task) :=
  match h : runs.get? task.runId with
  | none => .isFalse (by simp [Bound, h])
  | some run =>
      decidable_of_iff
        ((∀ id, agentId = some id → run.agentId = id) ∧
          ∀ id, deploymentId = some id → run.deploymentId = some id)
        (by simp [Bound, h])

/-- `_count_running_for_run_binding`. -/
def countRunningForRunBinding :
    Int :=
  (rows.values.filter fun task =>
    task.tenantId = tenantId ∧ task.projectId = projectId ∧ task.Counted ∧
      Bound runs agentId deploymentId task).length

/-- One quota: a limit, if there is one, and the present count. -/
def check (scope : QuotaScopeName) (limit : Option Int) (current : Int) :
    Except QuotaExceededError Unit :=
  match limit with
  | none => .ok ()
  | some limit => if current ≥ limit then .error ⟨scope, limit, current⟩ else .ok ()

/-- `assert_can_enqueue`. -/
def assertCanEnqueue : Except QuotaExceededError Unit := do
  check .tenant quota.tenantMaxRunningTasks (countRunning rows tenantId none)
  check .project quota.projectMaxRunningTasks (countRunning rows tenantId (some projectId))
  if agentId.isSome then
    check .agent quota.agentMaxRunningTasks
      (countRunningForRunBinding rows runs tenantId projectId agentId none)
  if deploymentId.isSome then
    check .deployment quota.deploymentMaxRunningTasks
      (countRunningForRunBinding rows runs tenantId projectId none deploymentId)

/-- `assert_can_lease`, that is `_assert_task_within_quota`. -/
def assertCanLease (task : TaskRow) : Except QuotaExceededError Unit := do
  assertCanEnqueue quota rows runs task.tenantId task.projectId none none
  match runs.get? task.runId with
  | none => .ok ()
  | some run =>
      check .agent quota.agentMaxRunningTasks
        (countRunningForRunBinding rows runs task.tenantId task.projectId (some run.agentId) none)
      if run.deploymentId.isSome then
        check .deployment quota.deploymentMaxRunningTasks
          (countRunningForRunBinding rows runs task.tenantId task.projectId none run.deploymentId)

end

end SQLAlchemyQuotaPolicy

/-! ## What the quotas are for -/

/-- Whose tasks a quota limits. -/
inductive QuotaScope where
  | tenant (tenantId : Int)
  | project (tenantId projectId : Int)
  | agent (tenantId projectId agentId : Int)
  | deployment (tenantId projectId deploymentId : Int)
  deriving DecidableEq, Repr

namespace QuotaScope

open SQLAlchemyQuotaPolicy

/-- The configured limit. -/
def limit (quota : RuntimeQuota) : QuotaScope → Option Int
  | tenant _ => quota.tenantMaxRunningTasks
  | project _ _ => quota.projectMaxRunningTasks
  | agent _ _ _ => quota.agentMaxRunningTasks
  | deployment _ _ _ => quota.deploymentMaxRunningTasks

/-- The task is one of the scope. -/
def Covers (runs : Dict Int Run) (task : TaskRow) : QuotaScope → Prop
  | tenant tenantId => task.tenantId = tenantId
  | project tenantId projectId => task.tenantId = tenantId ∧ task.projectId = projectId
  | agent tenantId projectId agentId =>
      task.tenantId = tenantId ∧ task.projectId = projectId ∧
        ∃ run ∈ runs.get? task.runId, run.agentId = agentId
  | deployment tenantId projectId deploymentId =>
      task.tenantId = tenantId ∧ task.projectId = projectId ∧
        ∃ run ∈ runs.get? task.runId, run.deploymentId = some deploymentId

instance (runs : Dict Int Run) (task : TaskRow) : DecidablePred (Covers runs task)
  | tenant _ => inferInstanceAs (Decidable (_ = _))
  | project _ _ => inferInstanceAs (Decidable (_ ∧ _))
  | agent _ _ _ => inferInstanceAs (Decidable (_ ∧ _ ∧ _))
  | deployment _ _ _ => inferInstanceAs (Decidable (_ ∧ _ ∧ _))

/-- How many tasks of the scope are leased or running. -/
def load (runs : Dict Int Run) (rows : Dict Int TaskRow) (scope : QuotaScope) : Nat :=
  (rows.values.filter fun task => scope.Covers runs task ∧ task.Counted).length

theorem length_filter_eq {p q : TaskRow → Prop} [DecidablePred p] [DecidablePred q]
    (rows : List TaskRow) (h : ∀ task, p task ↔ q task) :
    ((rows.filter fun task => p task).length : Int) = (rows.filter fun task => q task).length := by
  have hfilter : (rows.filter fun task => decide (p task)) = rows.filter fun task => q task :=
    List.filter_congr fun task _ => decide_eq_decide.mpr (h task)
  rw [hfilter]

variable (runs : Dict Int Run) (rows : Dict Int TaskRow) (tenantId projectId agentId : Int)

theorem countRunning_none : countRunning rows tenantId none = (tenant tenantId).load runs rows := by
  apply length_filter_eq
  simp [Covers]

theorem countRunning_some :
    countRunning rows tenantId (some projectId) = (project tenantId projectId).load runs rows := by
  apply length_filter_eq
  simp only [Covers, Option.some.injEq, forall_eq']
  tauto

theorem countRunningForRunBinding_agent :
    countRunningForRunBinding rows runs tenantId projectId (some agentId) none =
      (agent tenantId projectId agentId).load runs rows := by
  apply length_filter_eq
  simp only [Covers, Bound, Option.some.injEq, forall_eq', reduceCtorEq, false_implies,
    implies_true, and_true]
  tauto

theorem countRunningForRunBinding_deployment (tenantId projectId deploymentId : Int) :
    countRunningForRunBinding rows runs tenantId projectId none (some deploymentId) =
      (deployment tenantId projectId deploymentId).load runs rows := by
  apply length_filter_eq
  simp only [Covers, Bound, Option.some.injEq, forall_eq', reduceCtorEq, false_implies,
    implies_true, true_and]
  tauto

/-- Every limited scope of the task has room for one more. -/
def Room (quota : RuntimeQuota) (runs : Dict Int Run) (rows : Dict Int TaskRow)
    (task : TaskRow) : Prop :=
  ∀ (scope : QuotaScope) (l : Int), scope.Covers runs task → scope.limit quota = some l →
    (scope.load runs rows : Int) < l

end QuotaScope

namespace SQLAlchemyQuotaPolicy

theorem check_eq_ok {scope : QuotaScopeName} {limit : Option Int} {current : Int} :
    check scope limit current = .ok () ↔ ∀ l, limit = some l → current < l := by
  unfold check
  cases limit with
  | none => simp
  | some l =>
    by_cases h : current ≥ l
    · simp only [if_pos h, reduceCtorEq, false_iff]
      intro hall
      have := hall l rfl
      omega
    · simp only [if_neg h, Option.some.injEq, true_iff]
      omega

theorem ok_bind_eq_ok {m : Except QuotaExceededError Unit} {m' : Except QuotaExceededError Unit} :
    (m >>= fun _ => m') = .ok () ↔ m = .ok () ∧ m' = .ok () := by
  cases m with
  | error e => simp [bind, Except.bind]
  | ok u => simp [bind, Except.bind]

variable {tenantId projectId : Int}
  {quota : RuntimeQuota} {rows : Dict Int TaskRow} {runs : Dict Int Run}

theorem assertCanEnqueue_eq_ok :
    assertCanEnqueue quota rows runs tenantId projectId none none = .ok () ↔
      (∀ l, quota.tenantMaxRunningTasks = some l →
        ((QuotaScope.tenant tenantId).load runs rows : Int) < l) ∧
      ∀ l, quota.projectMaxRunningTasks = some l →
        ((QuotaScope.project tenantId projectId).load runs rows : Int) < l := by
  simp [assertCanEnqueue, ok_bind_eq_ok, check_eq_ok, QuotaScope.countRunning_none runs,
    QuotaScope.countRunning_some runs]

/-- The checks on the run's agent and deployment. -/
theorem assertBindings_eq_ok {run : Run} : (do
      check .agent quota.agentMaxRunningTasks
        (countRunningForRunBinding rows runs tenantId projectId (some run.agentId) none)
      if run.deploymentId.isSome then
        check .deployment quota.deploymentMaxRunningTasks
          (countRunningForRunBinding rows runs tenantId projectId none run.deploymentId)) =
        Except.ok () ↔
      (∀ l, quota.agentMaxRunningTasks = some l →
        ((QuotaScope.agent tenantId projectId run.agentId).load runs rows : Int) < l) ∧
      ∀ deploymentId, run.deploymentId = some deploymentId →
        ∀ l, quota.deploymentMaxRunningTasks = some l →
          ((QuotaScope.deployment tenantId projectId deploymentId).load runs rows : Int) < l := by
  rw [ok_bind_eq_ok, check_eq_ok, QuotaScope.countRunningForRunBinding_agent]
  cases run.deploymentId with
  | none => simp [pure, Except.pure]
  | some deploymentId =>
    simp [check_eq_ok, QuotaScope.countRunningForRunBinding_deployment]

/-- A task may be leased if its scopes have room. -/
theorem assertCanLease_eq_ok {task : TaskRow} :
    assertCanLease quota rows runs task = .ok () ↔ QuotaScope.Room quota runs rows task := by
  unfold assertCanLease
  rw [ok_bind_eq_ok, assertCanEnqueue_eq_ok]
  constructor
  · rintro ⟨⟨htenant, hproject⟩, hbound⟩ scope l hcovers hlimit
    cases scope with
    | tenant tenantId =>
      cases hcovers
      exact htenant l hlimit
    | project tenantId projectId =>
      obtain ⟨rfl, rfl⟩ := hcovers
      exact hproject l hlimit
    | agent tenantId projectId agentId =>
      obtain ⟨rfl, rfl, run, hrun, rfl⟩ := hcovers
      rw [Option.mem_def.mp hrun] at hbound
      exact (assertBindings_eq_ok.mp hbound).1 l hlimit
    | deployment tenantId projectId deploymentId =>
      obtain ⟨rfl, rfl, run, hrun, hdeployment⟩ := hcovers
      rw [Option.mem_def.mp hrun] at hbound
      exact (assertBindings_eq_ok.mp hbound).2 deploymentId hdeployment l hlimit
  · intro hroom
    refine ⟨⟨fun l hl => hroom (.tenant _) l rfl hl,
      fun l hl => hroom (.project _ _) l ⟨rfl, rfl⟩ hl⟩, ?_⟩
    cases hrun : runs.get? task.runId with
    | none => rfl
    | some run =>
      apply assertBindings_eq_ok.mpr
      refine ⟨fun l hl => hroom (.agent _ _ _) l ⟨rfl, rfl, run, hrun, rfl⟩ hl, ?_⟩
      intro deploymentId hdeployment l hl
      exact hroom (.deployment _ _ _) l ⟨rfl, rfl, run, hrun, hdeployment⟩ hl

end SQLAlchemyQuotaPolicy

end DimooRun.Scheduler
