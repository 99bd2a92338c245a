/-
  Observability/Otel.lean --- the trace fields of an execution.

  Source: observability/otel.py and core/context.py.

  Of a runtime context the fields are kept that the trace is computed from and
  those the executor sets from the run; what is only handed to the adapter is
  left out. The fallback to a random id in `trace_context_from_runtime` is never
  taken, because `ensure_trace_context` has filled the field by then.
-/
import DimooRun.Foundation.Json

set_option autoImplicit false

namespace DimooRun.Observability

open Foundation

/-- `RuntimeContext`. -/
structure RuntimeContext where
  tenantId : Int
  projectId : Int
  runId : Int
  taskId : Option Int
  agentId : Int
  agentVersionId : Int
  deploymentId : Option Int
  threadId : Option String := none
  requestId : Option String := none
  attemptId : Option Int := none
  traceId : Option String := none
  correlationId : Option String := none
  environment : Option String := none
  framework : Option String := none
  adapter : Option String := none

/-- `RuntimeTraceContext`. -/
structure RuntimeTraceContext where
  requestId : String
  traceId : String
  correlationId : String
  workerId : String

/-- `text or default`: the empty text counts as absent. -/
def orDefault (text : Option String) (default : String) : String :=
  match text with
  | none => default
  | some s => if s = "" then default else s

/-- `context.task_id or context.run_id`: a task id of zero counts as absent. -/
def taskOrRun (context : RuntimeContext) : Int :=
  match context.taskId with
  | none => context.runId
  | some taskId => if taskId = 0 then context.runId else taskId

/-- `trace_context_from_runtime`. -/
def traceContextFromRuntime (context : RuntimeContext) (workerId : String) :
    RuntimeTraceContext :=
  { requestId := orDefault context.requestId ("req_run_" ++ toString context.runId)
    traceId := orDefault context.traceId ("trace_run_" ++ toString context.runId)
    correlationId :=
      orDefault context.correlationId ("corr_task_" ++ toString (taskOrRun context))
    workerId := workerId }

variable (payload : PyDict) (trace : RuntimeTraceContext)

/-- `RuntimeTraceContext.as_payload_fields`. -/
def RuntimeTraceContext.asPayloadFields : PyDict :=
  [("request_id", .str trace.requestId), ("trace_id", .str trace.traceId),
    ("correlation_id", .str trace.correlationId), ("worker_id", .str trace.workerId)]

/-- `attach_trace_fields`. -/
def attachTraceFields : PyDict :=
  PyDict.update payload trace.asPayloadFields

/-- `TRACE_KEYS`, in the order the fields are attached. -/
def traceKeys : List String := ["request_id", "trace_id", "correlation_id", "worker_id"]

/-- With its trace fields attached, a payload is encodable when its other values
are; what it held under the trace keys itself does not matter. -/
theorem encodable_attachTraceFields_iff :
    (PyValue.dict (attachTraceFields payload trace)).Encodable ↔
      ∀ kv ∈ payload, kv.1 ∉ traceKeys → kv.2.Encodable := by
  have hfields : ∀ kv ∈ trace.asPayloadFields, kv.2.Encodable := by
    intro kv hkv
    simp only [RuntimeTraceContext.asPayloadFields, List.mem_cons, List.not_mem_nil,
      or_false] at hkv
    rcases hkv with rfl | rfl | rfl | rfl <;> exact PyValue.encodable_str _
  have hlookup : ∀ key, trace.asPayloadFields.lookup key = none ↔ key ∉ traceKeys := by
    simp [RuntimeTraceContext.asPayloadFields, traceKeys]
  unfold attachTraceFields
  rw [PyDict.encodable_update_iff hfields]
  simp only [hlookup]

end DimooRun.Observability
