/-
  Scheduler/SqlBackend.lean --- the SQLAlchemy task backend, one call after the other.

  Source: scheduler/sqlalchemy_backend.py.

  Here every call runs to its end before the next one, so there is one version of every
  row. A statement without a complete ORDER BY returns its rows in an order that comes
  with the call. A call that raises leaves what it has assigned so far, unless its
  caller rolls the session back; after a violated constraint there is nothing else the
  caller can do.
-/
import DimooRun.Persistence.Events
import DimooRun.Scheduler.SqlSessions

set_option autoImplicit false

namespace DimooRun.Scheduler

open Foundation DimooRun.Runtime
open Domain (Run RunAttempt Event RowOrder)
open Persistence (EventKey)

/-- What a call of the SQLAlchemy backend raises. -/
inductive SqlError where
  | task (error : TaskError)
  | quota (error : QuotaExceededError)
  /-- `TypeError`: the encoder refuses the metadata -/
  | encoding
  /-- the database refuses a row: `IntegrityError` for the constraint on run and sequence of an
  event or for a foreign key, `DataError` for a number that its column does not hold -/
  | integrity
  deriving DecidableEq, Repr

/-- The dictionary that `lease` returns. -/
structure SqlSnapshot where
  taskId : Int
  runId : Int
  tenantId : Int
  projectId : Int
  queue : String
  priority : Int
  status : TaskStatus
  attempt : Int
  maxAttempts : Int
  workerId : Option String
  leasedUntil : Option Time
  heartbeatAt : Option Time
  scheduledAt : Option Time
  fencingToken : Int
  inputData : PyDict
  partitionKey : Option PyValue
  resourceClass : Option PyValue
  quotaBlockingReason : Option PyValue

/-- What the database checks besides: that numbers fit their columns, and PostgreSQL that foreign
keys name rows, among them those of the tenants and the projects. -/
inductive Database where
  | sqlite
  | postgresql (tenants projects : List Int)

/-- The largest number of an Integer column. -/
def Database.top : Database → Int
  | .sqlite => 9223372036854775807
  | .postgresql _ _ => 2147483647

/-- The latency fits its column. -/
def Database.holds (database : Database) (attempt : RunAttempt) : Bool :=
  attempt.latencyMs.all fun ms => -database.top - 1 ≤ ms ∧ ms ≤ database.top

/-- The foreign keys of a task name rows. -/
def Database.refers (runs : Dict Int Run) (runId tenantId projectId : Int) : Database → Bool
  | .sqlite => true
  | .postgresql tenants projects =>
      (runs.get? runId).isSome && tenants.contains tenantId && projects.contains projectId

/-- The tables, and the attributes of the backend. -/
structure SqlBackend where
  tasks : Domain.Table TaskRow
  runs : Dict Int Run
  attempts : Dict Int RunAttempt
  events : Dict EventKey Event
  deadLetters : List (Int × PyDict)
  lastQuotaError : Option QuotaExceededError
  database : Database := .sqlite

/-- A method. -/
abbrev SqlM : Type → Type := EStateM SqlError SqlBackend

namespace SqlBackend

/-- Empty tables. -/
def empty : SqlBackend := ⟨.empty, .empty, .empty, .empty, [], none, .sqlite⟩

/-! ## Enqueue -/

/-- `task[name]`. -/
def field (name : String) (value : Option Int) : SqlM Int :=
  match value with
  | some value => pure value
  | none => throw (.task (.missingField name))

/-- `metadata.setdefault(key, value)`. -/
def setdefault (metadata : PyDict) (key : String) (value : PyValue) : PyDict :=
  match metadata.get? key with
  | some _ => metadata
  | none => metadata ++ [(key, value)]

/-- `_task_metadata`. -/
def taskMetadata (input : TaskInput) (tenantId projectId : Int) : PyDict :=
  let metadata :=
    setdefault input.metadata "partition_key"
      (.str (toString tenantId ++ ":" ++ toString projectId))
  let metadata :=
    setdefault metadata "resource_class" (.str (input.resourceClass.getD "default"))
  let metadata :=
    match input.agentId with
    | some agentId => setdefault metadata "agent_id" (.int agentId)
    | none => metadata
  match input.deploymentId with
  | some deploymentId => setdefault metadata "deployment_id" (.int deploymentId)
  | none => metadata

section

variable (now : Time) (taskId : Int) (workerId : String) (fencingToken : Int)
  (quota : Option RuntimeQuota) (input : TaskInput)

/-- The row that `enqueue` adds. -/
def newTask (runId tenantId projectId id : Int) : TaskRow :=
  { id := id
    runId := runId
    tenantId := tenantId
    projectId := projectId
    queue := input.queue.getD "default"
    priority := input.priority.getD 0
    attempt := input.attempt.getD 0
    maxAttempts := input.maxAttempts.getD 3
    scheduledAt := input.scheduledAt
    metadataJson := taskMetadata input tenantId projectId
    createdAt := now }

/-- `quota_policy.assert_can_enqueue`, if there is a policy. -/
def assertCanEnqueue : SqlM Unit :=
  match quota with
  | none => pure ()
  | some quota => do
      let tenantId ← field "tenant_id" input.tenantId
      let projectId ← field "project_id" input.projectId
      let b ← get
      orRaise
        ((SQLAlchemyQuotaPolicy.assertCanEnqueue quota b.tasks.rows b.runs tenantId projectId
          input.agentId input.deploymentId).mapError .quota)

/-- `enqueue`. -/
def enqueue (now : Time) (input : TaskInput) : SqlM Int := do
  assertCanEnqueue quota input
  let runId ← field "run_id" input.runId
  let tenantId ← field "tenant_id" input.tenantId
  let projectId ← field "project_id" input.projectId
  let b ← get
  if ¬ (PyValue.dict (taskMetadata input tenantId projectId)).Encodable then throw .encoding
  else if ¬ b.database.refers b.runs runId tenantId projectId then throw .integrity
  else do
    set { b with tasks := b.tasks.insert (newTask now input runId tenantId projectId) }
    pure b.tasks.nextId

/-! ## Methods on one task -/

/-- `_task`, then a method on the row. -/
def withTask (op : RowOp) : SqlM Bool := fun b =>
  match b.tasks.get? taskId with
  | none => .error (.task (.keyError taskId)) b
  | some row =>
      match op.act.run row with
      | .ok dead row' => .ok dead { b with tasks := b.tasks.update taskId fun _ => row' }
      | .error e row' => .error (.task e) { b with tasks := b.tasks.update taskId fun _ => row' }

/-- `heartbeat`. -/
def heartbeat (leaseSeconds : Int) : SqlM Unit := do
  let _ ← withTask taskId (.heartbeat workerId leaseSeconds now)

/-- `complete`. -/
def complete : SqlM Unit := do
  let _ ← withTask taskId (.complete workerId fencingToken now)

/-- `fail`; `message` is `_error_message(error)`. -/
def fail (error : PyDict) (message : String) : SqlM Unit := do
  let dead ← withTask taskId (.fail workerId fencingToken message now)
  if dead then
    modify fun b => { b with deadLetters := b.deadLetters ++ [(taskId, error)] }

/-- `cancel`. -/
def cancel : SqlM Unit := do
  let _ ← withTask taskId (.cancel now)

/-- `mark_running`. -/
def markRunning : SqlM Unit := do
  let _ ← withTask taskId (.markRunning workerId fencingToken now)

/-! ## The reaper -/

/-- `_latest_attempt`, with its id. -/
def latestAttempt (b : SqlBackend) (order : RowOrder) (taskId : Int) : Option (Int × RunAttempt) :=
  (((order.arrange b.attempts.keys).filterMap fun id =>
    ((b.attempts.get? id).filter fun attempt =>
      attempt.taskId = some taskId ∧ attempt.isDeleted = false).map (id, ·)).insertionSort
        fun attempt attempt' => attempt.2.attemptNo ≥ attempt'.2.attemptNo).head?

/-- The attempt when the reaper has failed it; the latency is in milliseconds, cut off. -/
def failedAttempt (attempt : RunAttempt) : RunAttempt :=
  { attempt with
    status := .failed
    error := some "lease_expired"
    finishedAt := some now
    latencyMs :=
      match attempt.startedAt with
      | some startedAt => some ((now - startedAt).tdiv 1000)
      | none => attempt.latencyMs }

/-- `_fail_attempt_for_reaper`; the result is the attempt that is to be flushed. -/
def failAttemptForReaper (latest : Option (Int × RunAttempt)) : SqlM (Option RunAttempt) :=
  match latest with
  | none => pure none
  | some (id, attempt) =>
      if attempt.status ≠ .running then pure none
      else
        match assertRunAttemptTransition attempt.status .failed with
        | .error e => throw (.task (.invalidTransition e))
        | .ok _ => do
            modify fun b => { b with attempts := b.attempts.set id (failedAttempt now attempt) }
            pure (some (failedAttempt now attempt))

/-- The run of a task that is dead-lettered by the reaper. -/
def failRunForReaper (runId : Int) : SqlM Unit := do
  match (← get).runs.get? runId with
  | none => pure ()
  | some run =>
      if run.status = .failed then pure ()
      else
        -- a pending run is stepped to running first, which is always allowed
        let status : RunStatus := if run.status = .pending then .running else run.status
        modify fun b => { b with runs := b.runs.set runId { run with status := status } }
        match assertRunTransition status .failed with
        | .error e => throw (.task (.invalidTransition e))
        | .ok _ =>
            modify fun b =>
              { b with
                runs := b.runs.set runId
                  { run with status := .failed, error := some "lease_expired" } }

/-- `_append_reaper_event`. -/
def appendReaperEvent (task : TaskRow) (type : String) (payload : PyDict) : SqlM Unit := fun b =>
  let event :=
    Persistence.EventRepository.newEvent
      { runId := task.runId
        tenantId := task.tenantId
        projectId := task.projectId
        type := type
        payload := some payload }
      (Persistence.EventRepository.nextSequence b.events task.runId)
  match b.events.get? (Persistence.EventTable.keyOf event) with
  | some _ => .error .integrity b
  | none =>
      if event.sequence ≤ b.database.top then
        .ok () { b with events := b.events.set (Persistence.EventTable.keyOf event) event }
      else .error .integrity b

/-- The payload of the reaper's events. -/
def leaseExpired : PyDict :=
  [("task_id", .int taskId), ("reason", .str "lease_expired")]

/-- The flush of what the reaper has failed, before the first event is stored. -/
def flushFailed (failed : Option RunAttempt) : SqlM Unit := do
  let b ← get
  match failed with
  | some attempt => if b.database.holds attempt then pure () else throw .integrity
  | none => pure ()

/-- What the reaper does besides, to the run and to the events of the task. -/
def reapRun (task : TaskRow) (latest : Option (Int × RunAttempt)) (failed : Option RunAttempt)
    (taskId : Int) (dead : Bool) : SqlM Unit :=
  if dead then do
    failRunForReaper task.runId
    flushFailed failed
    appendReaperEvent task "attempt.failed" (leaseExpired taskId)
    appendReaperEvent task "task.dead_letter" (leaseExpired taskId)
    appendReaperEvent task "run.failed" (leaseExpired taskId)
    appendReaperEvent task "stream.failed" (leaseExpired taskId)
  else do
    flushFailed failed
    (if task.status = .running then
      appendReaperEvent task "attempt.failed" (leaseExpired taskId)
    else pure ())
    appendReaperEvent task (if latest.isSome then "task.retrying" else "task.lease_expired")
      [("task_id", .int taskId), ("status", .str "queued"), ("reason", .str "lease_expired")]

/-- The body of the reaper's loop. -/
def reapTask (order : RowOrder) (taskId : Int) : SqlM Unit := do
  let b ← get
  match b.tasks.get? taskId with
  | none => pure ()
  | some task => do
      let latest := b.latestAttempt order taskId
      let failed ← (if task.status = .running then failAttemptForReaper now latest else pure none)
      let dead ← withTask taskId (.reap now)
      reapRun task latest failed taskId dead

end

/-- The reaper's loop. -/
def reapEach (now : Time) (order : RowOrder) : List Int → SqlM Nat
  | [] => pure 0
  | taskId :: rest => do
      reapTask now order taskId
      let count ← reapEach now order rest
      pure (count + 1)

section

variable (b : SqlBackend) (now : Time) (order : RowOrder)

/-- The rows of the reaper's SELECT. -/
def expired : List Int :=
  (order.arrange b.tasks.rows.keys).filter fun taskId =>
    match b.tasks.get? taskId with
    | some task => task.Expired now
    | none => False

/-- `reap_expired_leases`. -/
def reapExpiredLeases : SqlM Nat := do
  reapEach now order ((← get).expired now order)

/-! ## Lease -/

/-- `_active_partition_count`. -/
def activePartitionCount (task : TaskRow) : Nat :=
  (b.tasks.rows.values.filter fun other =>
    other.tenantId = task.tenantId ∧ other.projectId = task.projectId ∧ other.Counted).length

/-- The sort key `(active_partition_count, -priority, created_at)`, compared
lexicographically. -/
def CandidateLE (task task' : TaskRow) : Prop :=
  b.activePartitionCount task < b.activePartitionCount task' ∨
    (b.activePartitionCount task = b.activePartitionCount task' ∧
      (-task.priority < -task'.priority ∨
        (-task.priority = -task'.priority ∧ task.createdAt ≤ task'.createdAt)))

instance (b : SqlBackend) (task task' : TaskRow) : Decidable (b.CandidateLE task task') :=
  inferInstanceAs (Decidable (_ ∨ _))

/-- The candidates of a lease. The ORDER BY of the SELECT is part of the key they are then
sorted by, so only the order among equals is left of what the database returned. -/
def candidates (queue : String) : List TaskRow :=
  (((order.arrange b.tasks.rows.keys).filterMap b.tasks.get?).filter fun task =>
    TaskRow.Candidate queue now task).insertionSort b.CandidateLE

/-- `quota_policy.assert_can_lease`, if there is a policy. -/
def assertCanLease (quota : Option RuntimeQuota) (task : TaskRow) :
    Except QuotaExceededError Unit :=
  match quota with
  | none => .ok ()
  | some quota => SQLAlchemyQuotaPolicy.assertCanLease quota b.tasks.rows b.runs task

/-- `_decode_ref` of the input of a run. -/
def inputData (run : Option Run) : PyDict :=
  match run with
  | none => []
  | some run =>
      match run.inputRef with
      | some (.dict items) => items
      | _ => []

/-- `_snapshot`. -/
def snapshot (task : TaskRow) : SqlSnapshot :=
  { taskId := task.id
    runId := task.runId
    tenantId := task.tenantId
    projectId := task.projectId
    queue := task.queue
    priority := task.priority
    status := task.status
    attempt := task.attempt
    maxAttempts := task.maxAttempts
    workerId := task.workerId
    leasedUntil := task.leasedUntil
    heartbeatAt := task.heartbeatAt
    scheduledAt := task.scheduledAt
    fencingToken := task.fencingToken
    inputData := inputData (b.runs.get? task.runId)
    partitionKey := task.metadataJson.get? "partition_key"
    resourceClass := task.metadataJson.get? "resource_class"
    quotaBlockingReason := task.metadataJson.get? "quota_blocking_reason" }

end

/-- `_claim_queued_task`. -/
def claimQueuedTask (taskId : Int) (workerId : String) (leasedUntil now : Time) :
    SqlM (Option TaskRow) := fun b =>
  match b.tasks.get? taskId with
  | none => .ok none b
  | some task =>
      match assertTaskTransition task.status .leased with
      | .error e => .error (.task (.invalidTransition e)) b
      | .ok _ =>
          if task.Claimable then
            .ok (some (task.claimed workerId leasedUntil now))
              { b with tasks := b.tasks.update taskId (TaskRow.claimed workerId leasedUntil now) }
          else .ok none b

/-- The loop of `lease` over the candidates. -/
def leaseEach (quota : Option RuntimeQuota) (workerId : String) (leasedUntil now : Time) :
    List TaskRow → Option QuotaExceededError → SqlM (Option SqlSnapshot)
  | [], lastQuotaError => do
      modify fun b => { b with lastQuotaError := lastQuotaError }
      pure none
  | candidate :: rest, lastQuotaError => do
      match (← get).assertCanLease quota candidate with
      | .error e => do
          modify fun b =>
            { b with tasks := b.tasks.update candidate.id fun row => SqlTasks.blocked row e }
          leaseEach quota workerId leasedUntil now rest (some e)
      | .ok _ => do
          match ← claimQueuedTask candidate.id workerId leasedUntil now with
          | none => leaseEach quota workerId leasedUntil now rest lastQuotaError
          | some task => do
              modify fun b => { b with lastQuotaError := none }
              pure (some ((← get).snapshot task))

variable (quota : Option RuntimeQuota) (str : PyValue → String)

/-- `lease`. -/
def lease (now reapNow : Time) (order reapOrder : RowOrder)
    (queue workerId : String) (leaseSeconds : Int) : SqlM (Option SqlSnapshot) := do
  let _ ← reapExpiredLeases reapNow reapOrder
  match (← get).candidates now order queue with
  | [] => pure none
  | candidate :: rest =>
      leaseEach quota workerId (now + seconds leaseSeconds) now (candidate :: rest) none

/-! ## Calls -/

/-- The method behind a call; `str` is the text of a value. -/
def method : DurableCall → SqlM (DurableReply SqlSnapshot)
  | .enqueue now input => do
      let taskId ← enqueue quota now input
      pure (.enqueued taskId)
  | .lease now reapNow order reapOrder queue workerId leaseSeconds => do
      let leased ← lease quota now reapNow order reapOrder queue workerId leaseSeconds
      pure (.leased leased)
  | .heartbeat now taskId workerId leaseSeconds => do
      heartbeat now taskId workerId leaseSeconds
      pure .done
  | .markRunning now taskId workerId fencingToken => do
      markRunning now taskId workerId fencingToken
      pure .done
  | .complete now taskId workerId fencingToken => do
      complete now taskId workerId fencingToken
      pure .done
  | .fail now taskId workerId fencingToken error => do
      fail now taskId workerId fencingToken error (errorMessage str error)
      pure .done
  | .cancel now taskId => do
      cancel now taskId
      pure .done
  | .reapExpiredLeases now order _ => do
      let count ← reapExpiredLeases now order
      pure (.reaped count)

/-- The tables as they were before the call, with the attributes of the backend. -/
def rollback (before b : SqlBackend) : SqlBackend :=
  { before with deadLetters := b.deadLetters, lastQuotaError := b.lastQuotaError }

/-- A call, and whether its caller rolls back when it raises; or what the rest of the runtime
does to the other tables. -/
inductive Step where
  | call (rollback : Bool) (call : DurableCall)
  | runtime (runs : Dict Int Run) (attempts : Dict Int RunAttempt) (events : Dict EventKey Event)

/-- One step. -/
def exec (b : SqlBackend) : Step → Except SqlError (DurableReply SqlSnapshot) × SqlBackend
  | .call rolledBack call =>
      match (method quota str call).run b with
      | .ok reply b' => (.ok reply, b')
      | .error e b' =>
          (.error e, if rolledBack ∨ e = .integrity then rollback b b' else b')
  | .runtime runs attempts events =>
      (.ok .done, { b with runs := runs, attempts := attempts, events := events })

end SqlBackend

end DimooRun.Scheduler
