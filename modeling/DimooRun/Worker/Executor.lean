/-
  Worker/Executor.lean --- one execution of a leased task.

  Source: worker/executor.py, with the governance bundle of
  runtime/run_manager.py.

  `execute_once` gives up control only where it awaits adapter code: `load`,
  `invoke`, the opening of a stream, and each step of the stream; the in-memory
  stores never suspend. So a call is a first segment (`start`) that runs up to
  the first of these points, and one segment (`resume`) for every answer of the
  adapter. Each segment is a computation over the stores and the private fields
  of the executor that may raise; a `try` block that spans several segments is
  `guarded` around each of them.

  A timeout set by `asyncio.wait_for` reaches the code as a `TimeoutError` raised
  at the point it waits at, which is one of the adapter's answers here. The field
  `appended` is a history variable: the program does not have it, nothing reads
  it, and it records which events were appended on whose behalf.
-/
import DimooRun.Observability.Otel
import DimooRun.Runtime.RunManager
import DimooRun.Scheduler.InMemory
import DimooRun.Streaming.ReplayBuffer

set_option autoImplicit false

namespace DimooRun.Worker

open Foundation Observability DimooRun.Runtime Scheduler Streaming

/-! ## Exceptions -/

/-- The classes of exceptions that the handlers tell apart. -/
inductive ExceptionKind where
  /-- `StaleFencingTokenError` -/
  | staleFencingToken
  /-- `TimeoutError` and its subclasses -/
  | timeout
  /-- any other `Exception` -/
  | ordinary
  /-- a `BaseException` that no handler catches -/
  | base
  deriving DecidableEq, Repr

/-- An exception, as far as the handlers look at it. -/
structure PyException where
  kind : ExceptionKind
  className : String
  message : String
  deriving DecidableEq, Repr

/-- An exception of the task backend. -/
def PyException.ofTask (e : TaskError) : PyException :=
  { kind :=
      match e with
      | .staleFencingToken _ => .staleFencingToken
      | _ => .ordinary
    className := e.className
    message := e.message }

/-- An exception of the run store. -/
def PyException.ofStore : StoreError → PyException
  | .keyError id => { kind := .ordinary, className := "KeyError", message := toString id }
  | .invalidTransition e =>
      { kind := .ordinary, className := "InvalidStateTransitionError", message := e.message }

/-- `json.dumps` on an instance of a class it does not know. -/
def PyException.notSerializable (cls : String) : PyException :=
  { kind := .ordinary
    className := "TypeError"
    message := "Object of type " ++ cls ++ " is not JSON serializable" }

/-- `RuntimeError(message)`. -/
def PyException.runtimeError (message : String) : PyException :=
  { kind := .ordinary, className := "RuntimeError", message := message }

/-- A value of an unexpected class is used as another. -/
def PyException.unexpected (className message : String) : PyException :=
  { kind := .ordinary, className := className, message := message }

/-! ## Configuration of an executor -/

/-- `AgentRuntimeSpec`, without what is only handed to the adapter. -/
structure AgentRuntimeSpec where
  adapter : String
  runtimeConfig : PyDict

/-- An adapter, by what the executor itself reads of it. -/
structure Adapter where
  framework : Option String := none

/-- `RuntimeGovernanceBundle`. -/
structure RuntimeGovernanceBundle where
  secretProvider : Option PyValue := none
  modelGateway : Option PyValue := none
  toolGateway : Option PyValue := none

/-- `RuntimeGovernanceBundle.apply`. -/
def RuntimeGovernanceBundle.apply (bundle : RuntimeGovernanceBundle) (runtimeConfig : PyDict) :
    PyDict :=
  let governance : List (String × Option PyValue) :=
    [("secrets", bundle.secretProvider), ("model_gateway", bundle.modelGateway),
      ("tools", bundle.toolGateway)]
  let services : PyDict := governance.filterMap fun kv => kv.2.map fun v => (kv.1, v)
  if services = [] then runtimeConfig
  else PyDict.update runtimeConfig [("governance", .dict services)]

/-- `WorkerExecutor`, without its mutable fields. `float` is the builtin of that
name, as far as `asyncio.wait_for` looks at its value: whether it is positive. -/
structure WorkerExecutor where
  workerId : String
  adapters : String → Option Adapter
  agentSpecs : Int → Option AgentRuntimeSpec
  runtimeSpecResolver : Option (RuntimeRun → Except PyException AgentRuntimeSpec) := none
  governanceBundleFactory :
    Option
      (RuntimeRun → RuntimeContext → PyDict →
        Except PyException (Option RuntimeGovernanceBundle)) := none
  float : PyValue → Except PyException Bool

namespace WorkerExecutor

variable (ex : WorkerExecutor) (run : RuntimeRun)

/-- `_agent_spec`. -/
def agentSpec (agentVersionId : Int) : Except PyException AgentRuntimeSpec :=
  match ex.agentSpecs agentVersionId with
  | none => .error (.runtimeError "worker_agent_version_not_found")
  | some spec => .ok spec

/-- `_agent_spec_for_run`. -/
def agentSpecForRun : Except PyException AgentRuntimeSpec :=
  match ex.runtimeSpecResolver with
  | some resolver => resolver run
  | none => ex.agentSpec run.agentVersionId

/-- `_adapter`. -/
def adapter (adapterName : String) : Except PyException Adapter :=
  match ex.adapters adapterName with
  | none => .error (.runtimeError "worker_adapter_not_found")
  | some adapter => .ok adapter

/-- `_governance_bundle`. -/
def governanceBundle (context : RuntimeContext)
    (runtimeConfig : PyDict) : Except PyException (Option RuntimeGovernanceBundle) :=
  match ex.governanceBundleFactory with
  | none => .ok none
  | some factory => factory run context runtimeConfig

end WorkerExecutor

/-- `_runtime_environment`. -/
def runtimeEnvironment (runtimeConfig : PyDict) : Option String :=
  match runtimeConfig.get? "environment" with
  | some (.str environment) => if environment = "" then none else some environment
  | _ => none

/-- `runtime_config.get("timeout_seconds") or runtime_config.get("timeout")`, with
an absent key as `None`. -/
def timeoutSeconds (runtimeConfig : PyDict) : PyValue :=
  (PyDict.get runtimeConfig "timeout_seconds").orElse (PyDict.get runtimeConfig "timeout")

/-! ## The state of an executor -/

/-- The stores all executors share. -/
structure Stores where
  backend : InMemoryTaskBackend
  runStore : InMemoryRunStore
  replayBuffer : ReplayBuffer

/-- The mutable fields `_active_task_id`, `_active_worker_id`,
`_active_fencing_token` and `_active_context`. -/
structure Active where
  taskId : Option Int := none
  workerId : Option String := none
  fencingToken : Option Int := none
  context : Option RuntimeContext := none

/-- Whose event it is that the executor appends. -/
inductive Origin where
  | executor
  | adapter
  deriving DecidableEq, Repr

/-- The record of one append. -/
structure Append where
  origin : Origin
  taskId : Option Int
  runId : Int
  attemptId : Int
  type : String
  deriving DecidableEq, Repr

/-- What a segment works on. -/
structure ExecState where
  stores : Stores
  active : Active
  /-- history variable: every append, oldest first -/
  appended : List Append

/-- A segment of an execution. -/
abbrev ExecM : Type → Type := EStateM PyException ExecState

/-- A method of the task backend. -/
def taskBackend {α : Type} (m : BackendM α) : ExecM α :=
  zoom (fun s => s.stores.backend) (fun b s => { s with stores := { s.stores with backend := b } })
    (raiseAs PyException.ofTask m)

/-- A method of the run store. -/
def runStore {α : Type} (m : StoreM α) : ExecM α :=
  zoom (fun s => s.stores.runStore)
    (fun r s => { s with stores := { s.stores with runStore := r } })
    (raiseAs PyException.ofStore m)

/-- `_assert_active_fencing`. -/
def assertActiveFencing : ExecM Unit := do
  let active := (← get).active
  match active.taskId, active.workerId, active.fencingToken with
  | some taskId, some workerId, some fencingToken =>
      taskBackend (InMemoryTaskBackend.assertCanComplete taskId workerId fencingToken)
  | _, _, _ => pure ()

/-- `_clear_active_lease`. -/
def clearActiveLease : ExecM Unit :=
  modify fun s => { s with active := {} }

namespace WorkerExecutor

variable (ex : WorkerExecutor)

/-- The payload `_append` stores. -/
def tracedPayload (active : Active) (payload : PyDict) : PyDict :=
  match active.context with
  | none => payload
  | some context => attachTraceFields payload (traceContextFromRuntime context ex.workerId)

/-- `_append`, for an event of the given origin. -/
def append (ex : WorkerExecutor) (origin : Origin) (runId attemptId : Int) (event : AgentEvent) :
    ExecM Unit := do
  assertActiveFencing
  let s ← get
  let event : AgentEvent := { event with payload := ex.tracedPayload s.active event.payload }
  match s.stores.replayBuffer.append runId (some attemptId) event with
  | .error cls => throw (.notSerializable cls)
  | .ok (_, replayBuffer) =>
      set
        { s with
          stores := { s.stores with replayBuffer := replayBuffer }
          appended :=
            s.appended ++ [Append.mk origin s.active.taskId runId attemptId event.type] }

/-- An event of the executor itself. -/
def emit (runId attemptId : Int) (type : String) (payload : PyDict) : ExecM Unit :=
  ex.append .executor runId attemptId { type := type, payload := payload }

/-- `for event in result.events: self._append(...)`. -/
def appendEvents (ex : WorkerExecutor) (runId attemptId : Int) : List AgentEvent → ExecM Unit
  | [] => pure ()
  | event :: events => do
      ex.append .adapter runId attemptId event
      ex.appendEvents runId attemptId events

/-! ## The parts of `execute_once` -/

/-- Lines of the `try` block that compute the context and the effective
configuration. They read the run and the configuration, and write nothing. -/
def runtimeContext (run : RuntimeRun) (leased : TaskSnapshot)
    (attemptId : Int) : Except PyException (RuntimeContext × PyDict) := do
  let spec ← ex.agentSpecForRun run
  let adapter ← ex.adapter spec.adapter
  let runtimeConfig := PyDict.update spec.runtimeConfig (leased.payload.overrideConfig.getD [])
  let context : RuntimeContext :=
    { tenantId := run.tenantId
      projectId := run.projectId
      runId := run.runId
      taskId := some leased.taskId
      agentId := run.agentId
      agentVersionId := run.agentVersionId
      deploymentId := run.deploymentId
      threadId := run.threadId
      environment := runtimeEnvironment runtimeConfig
      framework := some (adapter.framework.getD spec.adapter)
      adapter := some spec.adapter }
  let bundle ← ex.governanceBundle run context runtimeConfig
  let runtimeConfig :=
    match bundle with
    | none => runtimeConfig
    | some bundle => bundle.apply runtimeConfig
  let trace := traceContextFromRuntime context ex.workerId
  pure
    ({ context with
        requestId := some trace.requestId
        attemptId := some attemptId
        traceId := some trace.traceId
        correlationId := some trace.correlationId
        environment := runtimeEnvironment runtimeConfig },
      runtimeConfig)

end WorkerExecutor

/-- `WorkerExecutionResult.status`. -/
inductive ExecutionStatus where
  | succeeded
  | failed
  | timeout
  deriving DecidableEq, Repr

/-- `WorkerExecutionResult`. -/
structure WorkerExecutionResult where
  taskId : Int
  runId : Int
  attemptId : Int
  status : ExecutionStatus
  deriving DecidableEq, Repr

/-- The local variables that live across an await. -/
structure Locals where
  leased : TaskSnapshot
  attemptId : Int

/-- Where an execution waits for the adapter. -/
inductive Pc where
  | load (context : RuntimeContext) (runtimeConfig : PyDict)
  | invoke (context : RuntimeContext)
  | openStream (context : RuntimeContext)
  | nextEvent (context : RuntimeContext)

/-- How far a segment got: `execute_once` returned, or waits again. -/
inductive Progress where
  | returned (result : Option WorkerExecutionResult)
  | awaiting (locals : Locals) (pc : Pc)

/-- How far a segment got inside the `try` block. -/
inductive Body where
  | suspended (pc : Pc)
  | result (result : AgentResult)

/-- What adapter code answers: an exception, or a value. -/
inductive AdapterReply where
  | raised (e : PyException)
  /-- the agent returned by `load` -/
  | agent
  /-- the result of `invoke` -/
  | result (result : AgentResult)
  /-- the stream returned by `stream` -/
  | stream
  /-- one event of a stream -/
  | event (event : AgentEvent)
  /-- the end of a stream -/
  | exhausted

namespace WorkerExecutor

variable (ex : WorkerExecutor)

section

variable (locals : Locals) (e : PyException)

/-- The common shape of the two handlers that give an attempt up: end the attempt,
end the run unless the task will be retried, and fail the task. -/
def giveUp (error : PyDict)
    (endAttempt endRun : Int → PyDict → StoreM Unit) (attemptEvent runEvent : String)
    (status : ExecutionStatus) : ExecM Progress := do
  let taskId := locals.leased.taskId
  let runId := locals.leased.runId
  assertActiveFencing
  runStore (endAttempt locals.attemptId error)
  ex.emit runId locals.attemptId attemptEvent error
  let willRetry ← taskBackend (InMemoryTaskBackend.willRetry taskId)
  if willRetry = false then
    runStore (endRun runId error)
    ex.emit runId locals.attemptId runEvent error
    ex.emit runId locals.attemptId "stream.failed" error
  else
    ex.emit runId locals.attemptId "task.retrying" error
  taskBackend (InMemoryTaskBackend.fail taskId ex.workerId locals.leased.fencingToken error)
  clearActiveLease
  pure
    (.returned
      (some
        { taskId := taskId, runId := runId, attemptId := locals.attemptId, status := status }))

/-- The error recorded by the handler of `TimeoutError`. -/
def timeoutError : PyDict :=
  [("message", .str "run timed out"), ("type", .str e.className),
    ("error_code", .str "runtime_timeout")]

/-- The error recorded by the handler of `Exception`. -/
def failureError : PyDict :=
  [("message", .str e.message), ("type", .str e.className)]

/-- `except TimeoutError`. -/
def onTimeout : ExecM Progress :=
  ex.giveUp locals (timeoutError e) InMemoryRunStore.timeoutAttempt InMemoryRunStore.timeoutRun
    "attempt.timeout" "run.timeout" .timeout

/-- `except Exception`. -/
def onException : ExecM Progress :=
  ex.giveUp locals (failureError e) InMemoryRunStore.failAttempt InMemoryRunStore.failRun
    "attempt.failed" "run.failed" .failed

/-- The `except` clauses of the `try` block, in their order. -/
def handle : ExecM Progress :=
  match e.kind with
  | .staleFencingToken => do
      clearActiveLease
      throw e
  | .timeout => ex.onTimeout locals e
  | .ordinary => ex.onException locals e
  | .base => throw e

/-- What follows the `try` block. -/
def finish (result : AgentResult) : ExecM Progress := do
  let taskId := locals.leased.taskId
  let runId := locals.leased.runId
  assertActiveFencing
  runStore (InMemoryRunStore.completeRun runId result.output)
  runStore (InMemoryRunStore.completeAttempt locals.attemptId)
  ex.emit runId locals.attemptId "run.completed" [("output", .dict result.output)]
  ex.emit runId locals.attemptId "stream.completed" []
  taskBackend (InMemoryTaskBackend.complete taskId ex.workerId locals.leased.fencingToken)
  clearActiveLease
  pure
    (.returned
      (some
        { taskId := taskId
          runId := runId
          attemptId := locals.attemptId
          status := .succeeded }))

end

/-- A piece of the `try` block, with the handlers, and what follows the block. -/
def guarded (locals : Locals) (body : ExecM Body) : ExecM Progress := do
  match ← attempt body with
  | .ok (.suspended pc) => pure (.awaiting locals pc)
  | .ok (.result result) => ex.finish locals result
  | .error e => ex.handle locals e

/-- The `try` block up to the first await. -/
def prepare (locals : Locals) : ExecM Body := do
  let run ← runStore (InMemoryRunStore.getRun locals.leased.runId)
  let (context, runtimeConfig) ← orRaise (ex.runtimeContext run locals.leased locals.attemptId)
  modify fun s => { s with active := { s.active with context := some context } }
  pure (.suspended (.load context runtimeConfig))

/-- `execute_once` from the lease to the first await. -/
def begin (leased : TaskSnapshot) : ExecM Progress := do
  taskBackend (InMemoryTaskBackend.markRunning leased.taskId ex.workerId leased.fencingToken)
  modify fun s =>
    { s with
      active :=
        { s.active with
          taskId := some leased.taskId
          workerId := some ex.workerId
          fencingToken := some leased.fencingToken } }
  let attempt ← runStore (InMemoryRunStore.createAttempt leased.runId leased.taskId ex.workerId)
  ex.emit leased.runId attempt.attemptId "attempt.started" []
  let locals : Locals := { leased := leased, attemptId := attempt.attemptId }
  ex.guarded locals (ex.prepare locals)

/-- `execute_once` up to the first await. -/
def start (now reapNow : Time) (queue : String) (leaseSeconds : Int) : ExecM Progress := do
  match ← taskBackend (InMemoryTaskBackend.lease now reapNow queue ex.workerId leaseSeconds) with
  | none => pure (.returned none)
  | some leased => ex.begin leased

/-- The start of the execution under `asyncio.wait_for`, if a timeout is set: a
timeout that is not positive has passed before the execution begins. -/
def armTimeout (runtimeConfig : PyDict) : Except PyException Unit :=
  match timeoutSeconds runtimeConfig with
  | .none => .ok ()
  | value =>
      match ex.float value with
      | .error e => .error e
      | .ok true => .ok ()
      | .ok false => .error { kind := .timeout, className := "TimeoutError", message := "" }

/-- From the loaded agent to the first await of `_execute_agent`. -/
def enter (leased : TaskSnapshot) (context : RuntimeContext)
    (runtimeConfig : PyDict) : Except PyException Pc :=
  match ex.armTimeout runtimeConfig, leased.payload.inputData with
  | .error e, _ => .error e
  | .ok _, none => .error (.unexpected "KeyError" "'input_data'")
  | .ok _, some _ =>
      if leased.payload.executionMode ≠ some "stream" then
        .ok (.invoke context)
      else
        .ok (.openStream context)

/-- The `try` block from one answer of the adapter to the next await. -/
def continueBody (locals : Locals) (pc : Pc) (reply : AdapterReply) : ExecM Body :=
  match pc, reply with
  | _, .raised e => throw e
  | .load context runtimeConfig, _ => do
      let pc ← orRaise (ex.enter locals.leased context runtimeConfig)
      pure (.suspended pc)
  | .invoke context, .result result => do
      ex.appendEvents context.runId locals.attemptId result.events
      pure (.result result)
  | .invoke _, _ => throw (.unexpected "AttributeError" "object has no attribute 'events'")
  | .openStream context, .stream => pure (.suspended (.nextEvent context))
  | .openStream _, _ =>
      throw (.unexpected "TypeError" "'async for' requires an object with __aiter__ method")
  | .nextEvent context, .event event => do
      ex.append .adapter context.runId locals.attemptId event
      pure (.suspended (.nextEvent context))
  | .nextEvent _, .exhausted =>
      pure (.result { output := [("streamed", .bool true)] })
  | .nextEvent _, _ => do
      assertActiveFencing
      throw (.unexpected "AttributeError" "object has no attribute 'payload'")

/-- One answer of the adapter, up to the next await. -/
def resume (locals : Locals) (pc : Pc) (reply : AdapterReply) : ExecM Progress :=
  ex.guarded locals (ex.continueBody locals pc reply)

end WorkerExecutor

end DimooRun.Worker
