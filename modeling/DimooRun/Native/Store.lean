/-
  Native/Store.lean --- the in-memory store of the native runtime API.

  Source: api/native/runtime.py, `NativeRuntimeStore`: creation
  and cancellation of runs and tasks.

  `create_task_run` is cut where another caller may come in between: the reservation
  of the idempotency key, the creation of run and task, and the completion of the
  reservation. The hash of a request body is that of its JSON text with sorted keys;
  the digest itself is a parameter. Agents and versions are passed in by the callers
  and are not kept here; creation times are read by nobody.
-/
import DimooRun.Runtime.Idempotency
import DimooRun.Scheduler.Lifecycle
import DimooRun.Streaming.ReplayBuffer

set_option autoImplicit false

namespace DimooRun.Native

open Foundation DimooRun.Runtime Streaming
open Scheduler (Time)

/-- `NativeRun`. -/
structure NativeRun where
  id : Int
  tenantId : Int
  projectId : Int
  agentId : Int
  agentVersionId : Int
  deploymentId : Option Int
  status : RunStatus
  input : PyDict
  output : Option PyDict := none
  error : Option PyDict := none
  threadId : Option String := none
  idempotencyKey : Option String := none
  updatedAt : Time

/-- `NativeTask`. -/
structure NativeTask where
  id : Int
  runId : Int
  tenantId : Int
  projectId : Int
  status : TaskStatus
  workerId : Option String := none
  queue : String := "default"
  priority : Int := 0
  attempt : Int := 0
  maxAttempts : Int := 3
  idempotencyKey : Option String := none
  error : Option PyDict := none
  deadLetterReason : Option String := none
  partitionKey : Option String := none
  resourceClass : Option String := none
  quotaBlockingReason : Option PyDict := none
  updatedAt : Time

/-- The response kept with a reservation: `{"run_id": ..., "task_id": ...}`. -/
structure TaskRunIds where
  runId : Int
  taskId : Int
  deriving DecidableEq

/-- `NativeRuntimeStore`. -/
structure NativeRuntimeStore where
  runs : Dict Int NativeRun := Dict.empty
  tasks : Dict Int NativeTask := Dict.empty
  nextRunId : Int := 1
  nextTaskId : Int := 1
  idempotency : IdempotencyStore TaskRunIds := .init
  replayBuffer : ReplayBuffer := {}

/-- What the store raises. -/
inductive NativeError where
  /-- `TypeError` of the JSON encoder -/
  | typeError (cls : String)
  /-- what the idempotency store raises -/
  | idempotency (error : IdempotencyError)
  /-- `KeyError` of an unknown run or task -/
  | keyError (id : Int)
  /-- `InvalidStateTransitionError` -/
  | invalidTransition (error : InvalidStateTransitionError)
  deriving DecidableEq

/-- A method of the store. -/
abbrev NativeM : Type → Type := EStateM NativeError NativeRuntimeStore

/-- The arguments of `create_task_run`, and the times at which run and task are made. -/
structure CreateTaskRun where
  tenantId : Int
  projectId : Int
  agentId : Int
  agentVersionId : Int
  inputData : PyDict
  threadId : Option String
  idempotencyKey : Option String
  endpoint : String
  requestBody : PyDict
  deploymentId : Option Int := none
  runAt : Time
  taskAt : Time

/-- The scope that the call reserves, if it has a key that is not empty. -/
def CreateTaskRun.scope (call : CreateTaskRun) : Option IdempotencyScope :=
  match call.idempotencyKey with
  | none => none
  | some key =>
      if key = "" then none
      else
        some
          { tenantId := call.tenantId
            projectId := some call.projectId
            endpoint := call.endpoint
            idempotencyKey := key }

/-- The canonical JSON text of the request body. -/
def CreateTaskRun.canonical (call : CreateTaskRun) : Except String (List Char) :=
  PyValue.dumps (.dict call.requestBody)

namespace NativeRuntimeStore

section

variable (sha256 : List Char → String)

/-- `_stable_hash` of the request body. -/
def stableHash (call : CreateTaskRun) : Except NativeError String :=
  match call.canonical with
  | .error cls => .error (.typeError cls)
  | .ok text => .ok (sha256 text)

/-- Run a method of the idempotency store. -/
def withIdempotency {α : Type} (m : EStateM IdempotencyError (IdempotencyStore TaskRunIds) α) :
    NativeM α :=
  zoom NativeRuntimeStore.idempotency
    (fun idempotency store => { store with idempotency := idempotency })
    (raiseAs NativeError.idempotency m)

/-- The first part of `create_task_run`: reserve the key. -/
def reserveKey (call : CreateTaskRun) : NativeM (Option (IdempotencyReservation TaskRunIds)) :=
  match call.scope with
  | none => pure none
  | some scope => do
      let requestHash ← orRaise (stableHash sha256 call)
      let reservation ← withIdempotency (IdempotencyStore.reserve scope requestHash)
      pure (some reservation)

/-- `self.runs[run_id]`. -/
def runById (runId : Int) : NativeM NativeRun := do
  match (← get).runs.get? runId with
  | none => throw (.keyError runId)
  | some run => pure run

/-- `self.tasks[task_id]`. -/
def taskById (taskId : Int) : NativeM NativeTask := do
  match (← get).tasks.get? taskId with
  | none => throw (.keyError taskId)
  | some task => pure task

variable {store : NativeRuntimeStore} {runId : Int}

theorem run_runById_of_some {run : NativeRun} (h : store.runs.get? runId = some run) :
    (runById runId).run store = .ok run store := by
  simp only [runById, EStateM.run_bind, EStateM.run_get, h]
  rfl

theorem run_runById_of_none (h : store.runs.get? runId = none) :
    (runById runId).run store = .error (.keyError runId) store := by
  simp only [runById, EStateM.run_bind, EStateM.run_get, h]
  rfl

theorem run_taskById_of_some {taskId : Int} {task : NativeTask}
    (h : store.tasks.get? taskId = some task) : (taskById taskId).run store = .ok task store := by
  simp only [taskById, EStateM.run_bind, EStateM.run_get, h]
  rfl

/-- `self.replay_buffer.append`. -/
def appendEvent (runId : Int) (event : AgentEvent) : NativeM Unit := do
  let store ← get
  match store.replayBuffer.append runId none event with
  | .error cls => throw (.typeError cls)
  | .ok (_, buffer) => set { store with replayBuffer := buffer }

/-- An event with an encodable payload goes into the buffer; nothing else changes. -/
theorem run_appendEvent (event : AgentEvent) (h : (PyValue.dict event.payload).Encodable)
    (runId : Int) (store : NativeRuntimeStore) :
    ∃ buffer, (appendEvent runId event).run store =
      .ok () { store with replayBuffer := buffer } := by
  obtain ⟨stored, buffer, hstored⟩ :=
    ReplayBuffer.append_of_encodable event h store.replayBuffer runId none
  refine ⟨buffer, ?_⟩
  simp only [appendEvent, EStateM.run_bind, EStateM.run_get, hstored]
  rfl

theorem encodable_taskId (taskId : Int) : (PyValue.dict [("task_id", .int taskId)]).Encodable := by
  rw [PyValue.encodable_dict_iff]
  rintro kv hmem
  cases List.mem_singleton.mp hmem
  rfl

/-- The run that a call creates. -/
def newRun (call : CreateTaskRun) (runId : Int) : NativeRun :=
  { id := runId
    tenantId := call.tenantId
    projectId := call.projectId
    agentId := call.agentId
    agentVersionId := call.agentVersionId
    deploymentId := call.deploymentId
    status := .pending
    input := call.inputData
    threadId := call.threadId
    idempotencyKey := call.idempotencyKey
    updatedAt := call.runAt }

/-- The task that a call creates. -/
def newTask (call : CreateTaskRun) (runId taskId : Int) : NativeTask :=
  { id := taskId
    runId := runId
    tenantId := call.tenantId
    projectId := call.projectId
    status := .queued
    idempotencyKey := call.idempotencyKey
    updatedAt := call.taskAt }

/-- The second part of `create_task_run`: create the run and its task. -/
def createRunAndTask (call : CreateTaskRun) : NativeM (NativeRun × NativeTask) := do
  let store ← get
  let run := newRun call store.nextRunId
  let task := newTask call run.id store.nextTaskId
  set
    { store with
      nextRunId := store.nextRunId + 1
      nextTaskId := store.nextTaskId + 1
      runs := store.runs.set run.id run
      tasks := store.tasks.set task.id task }
  appendEvent run.id { type := "run.created", payload := [("task_id", .int task.id)] }
  appendEvent run.id { type := "task.queued", payload := [("task_id", .int task.id)] }
  pure (run, task)

section

variable (reservation : Option (IdempotencyReservation TaskRunIds))

/-- The third part of `create_task_run`: complete the reservation. -/
def completeKey (run : NativeRun) (task : NativeTask) : NativeM Unit :=
  match reservation with
  | none => pure ()
  | some reservation =>
      withIdempotency (IdempotencyStore.complete reservation.recordId ⟨run.id, task.id⟩)

/-- `reservation.response`, if the reservation is a replay. -/
def replayOf : Option TaskRunIds :=
  match reservation with
  | none => none
  | some reservation => if reservation.isReplay then reservation.response else none

/-- `replayed`, when the call goes on to create. -/
def replayed : Bool :=
  match reservation with
  | none => false
  | some reservation => reservation.isReplay

end

/-- `create_task_run`. -/
def createTaskRun (call : CreateTaskRun) : NativeM (NativeRun × NativeTask × Bool) := do
  let reservation ← reserveKey sha256 call
  match replayOf reservation with
  | some response =>
      let run ← runById response.runId
      let task ← taskById response.taskId
      pure (run, task, true)
  | none =>
      let (run, task) ← createRunAndTask call
      completeKey reservation run task
      pure (run, task, replayed reservation)

end

/-! ## Cancellation -/

/-- Assign to a record of the store. -/
def putRun (runId : Int) (run : NativeRun) : NativeM Unit :=
  modify fun store => { store with runs := store.runs.set runId run }

/-- Assign to a record of the store. -/
def putTask (taskId : Int) (task : NativeTask) : NativeM Unit :=
  modify fun store => { store with tasks := store.tasks.set taskId task }

/-- `assert_run_transition`. -/
def checkRun (current target : RunStatus) : NativeM Unit :=
  orRaise ((assertRunTransition current target).mapError .invalidTransition)

/-- `assert_task_transition`. -/
def checkTask (current target : TaskStatus) : NativeM Unit :=
  orRaise ((assertTaskTransition current target).mapError .invalidTransition)

/-- `cancellable_statuses`. -/
def Cancellable (status : TaskStatus) : Prop :=
  status = .queued ∨ status = .leased ∨ status = .running

instance (status : TaskStatus) : Decidable (Cancellable status) :=
  inferInstanceAs (Decidable (_ ∨ _ ∨ _))

/-- The loop of `cancel_run` over the tasks. -/
def cancelTasks (runId : Int) (updatedAt : Time) : List (Int × NativeTask) → NativeM Unit
  | [] => pure ()
  | (taskId, task) :: rest => do
      if task.runId = runId ∧ Cancellable task.status then
        checkTask task.status .cancelled
        putTask taskId { task with status := .cancelled, updatedAt := updatedAt }
      cancelTasks runId updatedAt rest

/-- `cancel_run` of a run of the store. -/
def cancelRun (run : NativeRun) (now : Time) : NativeM NativeRun := do
  if run.status = .cancelled then
    return run
  checkRun run.status .cancelled
  let run := { run with status := .cancelled, updatedAt := now }
  putRun run.id run
  cancelTasks run.id run.updatedAt (← get).tasks.entries
  appendEvent run.id { type := "run.cancelled", payload := [] }
  pure run

/-- `cancel_task` of a task of the store. -/
def cancelTask (task : NativeTask) (now : Time) : NativeM NativeTask := do
  if task.status = .cancelled then
    return task
  checkTask task.status .cancelled
  let task := { task with status := .cancelled, updatedAt := now }
  putTask task.id task
  let run ← runById task.runId
  checkRun run.status .cancelled
  putRun task.runId { run with status := .cancelled, updatedAt := task.updatedAt }
  appendEvent run.id { type := "task.cancelled", payload := [("task_id", .int task.id)] }
  pure task

end NativeRuntimeStore

/-! ## Cancellations that leave no trace of failure

`cancel_run` assigns to the run before it checks the tasks, and `cancel_task` assigns
to the task before it looks at the run, so an error that comes after the first
assignment leaves the store changed. The status tables decide which errors those
are: a leased task has no transition to cancelled, and neither has a run that is
over. -/

namespace NativeRuntimeStore

/-- The run has a transition to cancelled. -/
def Open (status : RunStatus) : Prop :=
  status = .pending ∨ status = .running ∨ status = .interrupted

instance (status : RunStatus) : Decidable (Open status) :=
  inferInstanceAs (Decidable (_ ∨ _ ∨ _))

/-! ## The checks -/

theorem run_checkRun_cancelled (status : RunStatus) (store : NativeRuntimeStore) :
    (checkRun status .cancelled).run store =
      if Open status then .ok () store
      else .error (.invalidTransition ⟨"run", status.value, "cancelled"⟩) store := by
  cases status <;> rfl

theorem run_checkTask_cancelled (status : TaskStatus) (store : NativeRuntimeStore) :
    (checkTask status .cancelled).run store =
      if status = .queued ∨ status = .running then .ok () store
      else .error (.invalidTransition ⟨"task", status.value, "cancelled"⟩) store := by
  cases status <;> rfl

theorem encodable_nil : (PyValue.dict []).Encodable := by decide

/-! ## The loop over the tasks -/

/-- The tasks after the loop, if it runs to its end. -/
def cancelledIn (runId : Int) (updatedAt : Time) (tasks : Dict Int NativeTask) :
    List (Int × NativeTask) → Dict Int NativeTask
  | [] => tasks
  | (taskId, task) :: rest =>
      cancelledIn runId updatedAt
        (if task.runId = runId ∧ Cancellable task.status then
          tasks.set taskId { task with status := .cancelled, updatedAt := updatedAt }
        else tasks) rest

section

variable (runId : Int) (updatedAt : Time) (entries : List (Int × NativeTask))

/-- The loop runs to its end if none of the run's tasks is leased, and raises otherwise; it does
not touch the runs. -/
theorem run_cancelTasks_cases : ∀ store : NativeRuntimeStore,
      (∀ e ∈ entries, e.2.runId = runId → e.2.status ≠ .leased) ∧
          (cancelTasks runId updatedAt entries).run store =
            .ok () { store with tasks := cancelledIn runId updatedAt store.tasks entries } ∨
        ¬ (∀ e ∈ entries, e.2.runId = runId → e.2.status ≠ .leased) ∧
          ∃ error tasks, (cancelTasks runId updatedAt entries).run store =
            .error error { store with tasks := tasks } := by
  induction entries with
  | nil => exact fun store => .inl ⟨by simp, rfl⟩
  | cons e rest ih =>
    obtain ⟨taskId, task⟩ := e
    intro store
    have hcheck := run_checkTask_cancelled task.status store
    rw [List.forall_mem_cons]
    unfold cancelTasks cancelledIn
    by_cases hleased : task.runId = runId ∧ task.status = .leased
    · obtain ⟨hrun, hleased⟩ := hleased
      simp only [if_pos (show task.runId = runId ∧ Cancellable task.status from
        ⟨hrun, .inr (.inl hleased)⟩)]
      rw [if_neg (by simp [hleased])] at hcheck
      exact .inr ⟨fun h => h.1 hrun hleased, _, store.tasks, run_bind_of_error hcheck⟩
    · rw [and_iff_right (not_and.mp hleased)]
      by_cases hcancel : task.runId = runId ∧ Cancellable task.status
      · simp only [if_pos hcancel]
        rw [if_pos (by simpa [Cancellable, not_and.mp hleased hcancel.1] using hcancel.2)] at hcheck
        rw [run_bind_of_ok hcheck]
        exact ih _
      · simp only [if_neg hcancel]
        exact ih store

/-- When all that is to be cancelled is ahead of the loop, nothing is left after it. -/
theorem not_cancellable_of_cancelledIn : ∀ tasks : Dict Int NativeTask,
      (∀ taskId task, tasks.get? taskId = some task → task.runId = runId →
        Cancellable task.status → (taskId, task) ∈ entries) → ∀ taskId task,
        (cancelledIn runId updatedAt tasks entries).get? taskId = some task →
          task.runId = runId → ¬ Cancellable task.status := by
  induction entries with
  | nil =>
    intro tasks hahead taskId task hget hrun hcancellable
    exact List.not_mem_nil (hahead taskId task hget hrun hcancellable)
  | cons e rest ih =>
    obtain ⟨taskId₀, task₀⟩ := e
    intro tasks hahead
    refine ih _ fun taskId task hget hrun hcancellable => ?_
    split at hget
    · rcases Dict.get?_set_cases hget with ⟨_, rfl⟩ | ⟨hne, hget⟩
      · simp [Cancellable] at hcancellable
      · refine (List.mem_cons.mp (hahead taskId task hget hrun hcancellable)).resolve_left ?_
        exact fun heq => hne (congrArg Prod.fst heq)
    · next hskip =>
      refine (List.mem_cons.mp (hahead taskId task hget hrun hcancellable)).resolve_left ?_
      rintro ⟨⟩
      exact hskip ⟨hrun, hcancellable⟩

end

/-! ## The two calls -/

/-- None of the run's tasks is leased. -/
def NoLease (store : NativeRuntimeStore) (runId : Int) : Prop :=
  ∀ taskId task, store.tasks.get? taskId = some task → task.runId = runId → task.status ≠ .leased

/-- None of the run's tasks is queued, leased or running. -/
def NoneLeft (store : NativeRuntimeStore) (runId : Int) : Prop :=
  ∀ taskId task, store.tasks.get? taskId = some task → task.runId = runId →
    ¬ Cancellable task.status

section

variable {store : NativeRuntimeStore}

section

variable {run : NativeRun}

/-- `cancel_run` of a run that is not open changes nothing. -/
theorem run_cancelRun_of_not_open (h : ¬ Open run.status) (now : Time) :
    (∃ run', (cancelRun run now).run store = .ok run' store) ∨
      ∃ error, (cancelRun run now).run store = .error error store := by
  unfold cancelRun
  by_cases hcancelled : run.status = .cancelled
  · rw [if_pos hcancelled]
    exact .inl ⟨run, rfl⟩
  · rw [if_neg hcancelled]
    have hcheck := run_checkRun_cancelled run.status store
    rw [if_neg h] at hcheck
    exact .inr ⟨_, run_bind_of_error hcheck⟩

/-- What `cancel_run` does to an open run, up to the loop. -/
theorem run_cancelRun_of_open (h : Open run.status) (now : Time) : (cancelRun run now).run store =
      (do
        cancelTasks run.id now store.tasks.entries
        appendEvent run.id { type := "run.cancelled", payload := [] }
        pure { run with status := .cancelled, updatedAt := now } : NativeM NativeRun).run
        { store with
          runs := store.runs.set run.id { run with status := .cancelled, updatedAt := now } } := by
  have hnot : run.status ≠ .cancelled := by
    intro hcancelled
    rw [hcancelled] at h
    simp [Open] at h
  have hcheck := run_checkRun_cancelled run.status store
  rw [if_pos h] at hcheck
  unfold cancelRun
  rw [if_neg hnot]
  exact run_bind_of_ok hcheck

/-- `cancel_run` of an open run leaves nothing to cancel; but if a task is leased it raises, and
the run is cancelled. -/
theorem cancelRun_of_open (hrun : store.runs.get? run.id = some run) (h : Open run.status)
    (now : Time) :
    (store.NoLease run.id ∧ ∃ run' store', (cancelRun run now).run store = .ok run' store' ∧
        store'.NoneLeft run.id) ∨
      ¬ store.NoLease run.id ∧
        ∃ error store', (cancelRun run now).run store = .error error store' ∧ store' ≠ store := by
  have hmem : ∀ taskId task, store.tasks.get? taskId = some task ↔
      (taskId, task) ∈ store.tasks.entries := fun _ _ => Dict.get?_eq_some_iff _
  have hfree : store.NoLease run.id ↔
      ∀ e ∈ store.tasks.entries, e.2.runId = run.id → e.2.status ≠ .leased := by
    simp only [NoLease, hmem, Prod.forall]
  rw [run_cancelRun_of_open h now, hfree]
  rcases run_cancelTasks_cases run.id now store.tasks.entries
      { store with
        runs := store.runs.set run.id { run with status := .cancelled, updatedAt := now } } with
    ⟨hnone, hloop⟩ | ⟨hleased, error, tasks, hloop⟩
  · obtain ⟨buffer, hevent⟩ := run_appendEvent { type := "run.cancelled", payload := [] }
      encodable_nil run.id _
    refine .inl ⟨hnone, _, _, (run_bind_of_ok hloop).trans (run_bind_of_ok hevent), ?_⟩
    exact not_cancellable_of_cancelledIn run.id now store.tasks.entries store.tasks
      fun taskId task hget _ _ => (hmem taskId task).mp hget
  · refine .inr ⟨hleased, error, _, run_bind_of_error hloop, fun hsame => ?_⟩
    have hruns := congrArg (fun store => (store.runs.get? run.id).map NativeRun.status) hsame
    simp only [Dict.get?_set_self, hrun, Option.map_some, Option.some.injEq] at hruns
    rw [← hruns] at h
    simp [Open] at h

end

/-- `cancel_task` raises after it changed the task unless the run of the task is open. -/
theorem cancelTask_error_iff {task : NativeTask} (htask : store.tasks.get? task.id = some task)
    (now : Time) :
    (∀ error store', (cancelTask task now).run store = .error error store' → store' = store) ↔
      (task.status = .queued ∨ task.status = .running →
        ∃ run, store.runs.get? task.runId = some run ∧ Open run.status) := by
  have hcheck := run_checkTask_cancelled task.status store
  by_cases hstatus : task.status = .queued ∨ task.status = .running
  · rw [if_pos hstatus] at hcheck
    have hnot : task.status ≠ .cancelled := by
      rintro hcancelled
      rw [hcancelled] at hstatus
      simp at hstatus
    -- the task is cancelled before the run is looked at
    let cancelled : NativeTask := { task with status := .cancelled, updatedAt := now }
    let store₁ : NativeRuntimeStore :=
      { store with tasks := store.tasks.set task.id cancelled }
    have hchanged : store₁ ≠ store := by
      intro hsame
      have htasks := congrArg (fun store => (store.tasks.get? task.id).map NativeTask.status) hsame
      simp only [store₁, Dict.get?_set_self, htask, Option.map_some, Option.some.injEq] at htasks
      exact hnot htasks.symm
    have hrest : (cancelTask task now).run store =
        (do
          let run ← runById task.runId
          checkRun run.status .cancelled
          putRun task.runId { run with status := .cancelled, updatedAt := now }
          appendEvent run.id { type := "task.cancelled", payload := [("task_id", .int task.id)] }
          pure cancelled : NativeM NativeTask).run store₁ := by
      unfold cancelTask
      rw [if_neg hnot]
      exact run_bind_of_ok hcheck
    have hcases : (∃ run, store.runs.get? task.runId = some run ∧ Open run.status) ∧
          (∃ task' store', (cancelTask task now).run store = .ok task' store') ∨
        ¬ (∃ run, store.runs.get? task.runId = some run ∧ Open run.status) ∧
          ∃ error, (cancelTask task now).run store = .error error store₁ := by
      rw [hrest]
      cases hrun : store.runs.get? task.runId with
      | none => exact .inr ⟨by simp, _, run_bind_of_error (run_runById_of_none hrun)⟩
      | some run =>
        have hfound : (runById task.runId).run store₁ = .ok run store₁ := run_runById_of_some hrun
        have hcheckRun := run_checkRun_cancelled run.status store₁
        rw [run_bind_of_ok hfound]
        by_cases hopen : Open run.status
        · rw [if_pos hopen] at hcheckRun
          obtain ⟨buffer, hevent⟩ := run_appendEvent
            { type := "task.cancelled", payload := [("task_id", .int task.id)] }
            (encodable_taskId task.id) run.id _
          exact .inl ⟨⟨run, rfl, hopen⟩, _, _,
            (run_bind_of_ok hcheckRun).trans (run_bind_of_ok hevent)⟩
        · rw [if_neg hopen] at hcheckRun
          exact .inr ⟨by simpa using hopen, _, run_bind_of_error hcheckRun⟩
    rcases hcases with ⟨hopen, task', store', hok⟩ | ⟨hnone, error, herror⟩
    · refine iff_of_true (fun error store'' herror => ?_) fun _ => hopen
      cases hok.symm.trans herror
    · exact iff_of_false (fun h => hchanged (h _ _ herror)) fun h => hnone (h hstatus)
  · rw [if_neg hstatus] at hcheck
    refine iff_of_true ?_ fun h => absurd h hstatus
    intro error store' herror
    unfold cancelTask at herror
    split at herror
    · cases herror
    · rw [run_bind_of_error hcheck] at herror
      cases herror
      rfl

end

/-- Cancelling a run of the store is complete and atomic exactly when no task of an open run is
leased, and cancelling a task is atomic exactly when the run of a queued or running task is open. -/
theorem cancellation_complete_and_atomic_iff (store : NativeRuntimeStore) (now : Time) :
    (∀ run, store.runs.get? run.id = some run →
      (((Open run.status → ∃ run' store', (cancelRun run now).run store = .ok run' store' ∧
            store'.NoneLeft run.id) ∧
          ∀ error store', (cancelRun run now).run store = .error error store' → store' = store) ↔
        (Open run.status → store.NoLease run.id))) ∧
    ∀ task, store.tasks.get? task.id = some task →
      ((∀ error store', (cancelTask task now).run store = .error error store' → store' = store) ↔
        (task.status = .queued ∨ task.status = .running →
          ∃ run, store.runs.get? task.runId = some run ∧ Open run.status)) := by
  refine ⟨fun run hrun => ⟨?_, fun hfree => ?_⟩, fun task htask => cancelTask_error_iff htask now⟩
  · rintro ⟨hcomplete, _⟩ hopen
    obtain ⟨run', store', hok, _⟩ := hcomplete hopen
    rcases cancelRun_of_open hrun hopen now with ⟨hfree, _⟩ | ⟨_, error, store'', herror, _⟩
    · exact hfree
    · cases hok.symm.trans herror
  · have hcomplete := fun hopen => ((cancelRun_of_open hrun hopen now).resolve_right
      fun hleased => hleased.1 (hfree hopen)).2
    refine ⟨hcomplete, ?_⟩
    intro error store' herror
    by_cases hopen : Open run.status
    · obtain ⟨run', store'', hok, _⟩ := hcomplete hopen
      cases hok.symm.trans herror
    · rcases run_cancelRun_of_not_open hopen now with ⟨run', hok⟩ | ⟨error', herror'⟩
      · exact absurd (hok.symm.trans herror) (by simp)
      · cases herror'.symm.trans herror
        rfl

/-- A run, for a store with one run. -/
def someRun (status : RunStatus) : NativeRun :=
  { id := 1, tenantId := 1, projectId := 1, agentId := 1, agentVersionId := 1
    deploymentId := none, status := status, input := [], updatedAt := 0 }

/-- A task of it. -/
def someTask (id : Int) (status : TaskStatus) : NativeTask :=
  { id := id, runId := 1, tenantId := 1, projectId := 1, status := status, updatedAt := 0 }

/-- A store with one run and two tasks of it. -/
def twoTasks (status : RunStatus) (first second : TaskStatus) : NativeRuntimeStore :=
  { runs := Dict.empty.set 1 (someRun status)
    tasks := (Dict.empty.set 1 (someTask 1 first)).set 2 (someTask 2 second) }

theorem cancellation_complete_and_atomic_queued :
    (∃ run' store', (cancelRun (someRun .running) 5).run (twoTasks .running .running .queued) =
        .ok run' store' ∧ store'.NoneLeft 1) ∧
      ∀ error store', (cancelTask (someTask 2 .queued) 5).run
        (twoTasks .running .running .queued) = .error error store' →
          store' = twoTasks .running .running .queued := by
  have hnoLease : (twoTasks .running .running .queued).NoLease 1 := by
    intro taskId task hget _
    have hmem : (taskId, task) ∈ [(1, someTask 1 .running), (2, someTask 2 .queued)] :=
      (Dict.get?_eq_some_iff _).mp hget
    simp only [List.mem_cons, List.not_mem_nil, or_false] at hmem
    rcases hmem with ⟨_, rfl⟩ | ⟨_, rfl⟩ <;> decide
  obtain ⟨hruns, htasks⟩ :=
    cancellation_complete_and_atomic_iff (twoTasks .running .running .queued) 5
  exact ⟨((hruns (someRun .running) rfl).mpr fun _ => hnoLease).1 (by decide),
    (htasks (someTask 2 .queued) rfl).mpr fun _ => ⟨someRun .running, rfl, by decide⟩⟩

/-- What is left of a store after a call, and whether the call raised. -/
def summary {α : Type} (result : EStateM.Result NativeError NativeRuntimeStore α) :
    Bool × Option RunStatus × Option TaskStatus × Option TaskStatus :=
  let store := endState result
  ((report result).toBool, (store.runs.get? 1).map NativeRun.status,
    (store.tasks.get? 1).map NativeTask.status, (store.tasks.get? 2).map NativeTask.status)

/-- With a leased task `cancel_run` raises when the run and an earlier task are cancelled
already; with a run that is over `cancel_task` raises when the task is. -/
theorem cancellation_half_done :
    summary ((cancelRun (someRun .running) 5).run (twoTasks .running .queued .leased)) =
        (false, some .cancelled, some .cancelled, some .leased) ∧
      summary ((cancelTask (someTask 1 .queued) 5).run (twoTasks .failed .queued .leased)) =
        (false, some .failed, some .cancelled, some .leased) := by
  decide

end NativeRuntimeStore

end DimooRun.Native
