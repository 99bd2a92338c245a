/-
  Tools/Gateway.lean --- tool calls under the policy engine.

  Sources: tools/gateway.py and core/context.py.

  A call of the gateway runs the handler, asks for an approval or raises. The state is
  what a call can change: the records given to the audit sink, the human tasks, and the
  handlers that were run. The human-task service is a parameter, as in the source.
-/
import DimooRun.Hitl.Service

set_option autoImplicit false

namespace DimooRun.Tools

open Foundation Policy Hitl

/-- The part of a `RuntimeContext` that the gateways read. -/
structure RuntimeContext where
  tenantId : Int
  projectId : Option Int
  runId : Int
  taskId : Option Int := none
  userId : Option Int := none
  serviceAccountId : Option Int := none
  environment : Option String := none
  secrets : Dict String String := Dict.empty

/-- A handler returns or raises, which is told by a text. -/
abbrev Handler : Type := PyDict → Except String PyDict

structure ToolDefinition where
  id : Int
  tenantId : Int
  projectId : Option Int
  name : String
  riskLevel : String
  handler : Handler

inductive ToolCallResult where
  | succeeded (output : PyDict)
  | approvalRequired (humanTaskId : Nat)

inductive ToolError where
  | keyError (key : PyValue)
  /-- `ToolScopeMismatchError` -/
  | toolScopeMismatch (toolId : Int)
  | permissionError (message : String)
  /-- what the handler raised -/
  | handler (error : String)

/-- What a call can change. -/
structure Effects (σ : Type) where
  audit : List AuditRecord
  humanTasks : σ
  /-- the tools whose handlers were run, with their arguments -/
  handled : List (Int × PyDict)

section

variable (tool : ToolDefinition) (arguments : PyDict) (context : RuntimeContext)
  (actorId : Option String)

/-- `"user" if actor_id else "agent"`. -/
def actorType : String :=
  if actorId.any (· != "") then "user" else "agent"

/-- The request that the gateway makes of the engine; it names no environment. -/
def toolRequest : PolicyRequest where
  tenantId := context.tenantId
  projectId := context.projectId
  actorId := actorId
  actorType := actorType actorId
  resourceType := "tool"
  resourceId := some tool.id
  action := "call"
  riskLevel := some tool.riskLevel

/-- The record of a call. -/
def callRecord (result : String) : AuditRecord where
  tenantId := context.tenantId
  projectId := context.projectId
  actorId := actorId
  actorType := actorType actorId
  resourceType := "tool"
  resourceId := some tool.id
  action := "call"
  result := result
  metadata := [("tool_name", .str tool.name), ("risk_level", .str tool.riskLevel)]

/-- An optional number as a value. -/
def optionalInt : Option Int → PyValue
  | none => .none
  | some n => .int n

/-- The approval that the gateway asks for. -/
def approvalOf : CreateApproval where
  tenantId := context.tenantId
  projectId := context.projectId
  runId := some context.runId
  attemptId := none
  taskId := context.taskId
  payload := [("tool_id", .int tool.id), ("arguments", .dict arguments),
    ("risk_level", .str tool.riskLevel)]
  requestedBy := actorId

/-- The tool belongs to the tenant and the project of the run. -/
def ToolDefinition.inScope : Bool :=
  tool.tenantId == context.tenantId && tool.projectId == context.projectId

end

section

variable {σ : Type} (py : Builtins) (createApproval : CreateApproval → σ → HumanTaskRecord × σ)
  (rules : List StaticPolicyRule)

/-- `ToolGateway.call`, after the tool was looked up. -/
def callTool (tool : ToolDefinition) (arguments : PyDict) (context : RuntimeContext)
    (actorId : Option String) (s : Effects σ) : Except ToolError ToolCallResult × Effects σ :=
  let request := toolRequest tool context actorId
  if !tool.inScope context then
    (.error (.toolScopeMismatch tool.id),
      { s with
        audit := s.audit ++ [violationRecord request "tool_scope_mismatch"
          [("tool_tenant_id", .int tool.tenantId),
            ("tool_project_id", optionalInt tool.projectId)]] })
  else
    let (decision, records) := evaluate py rules request
    let audit := s.audit ++ records
    match decision.decision with
    | .deny =>
        (.error (.permissionError
            ((decision.reason.filter (· != "")).getD "tool_call_denied")), { s with audit := audit })
    | .requireApproval =>
        let (humanTask, humanTasks) :=
          createApproval (approvalOf tool arguments context actorId) s.humanTasks
        (.ok (.approvalRequired humanTask.id),
          { s with
            audit := audit ++ [callRecord tool context actorId "approval_required"]
            humanTasks := humanTasks })
    -- every other decision lets the handler run
    | _ =>
        let handled := s.handled ++ [(tool.id, arguments)]
        match tool.handler arguments with
        | .error e => (.error (.handler e), { s with audit := audit, handled := handled })
        | .ok output =>
            (.ok (.succeeded output),
              { s with
                audit := audit ++ [callRecord tool context actorId "allow"]
                handled := handled })

/-- `ToolGateway.call`. -/
def call (tools : Dict Int ToolDefinition) (toolId : Int) (arguments : PyDict)
    (context : RuntimeContext) (actorId : Option String) (s : Effects σ) :
    Except ToolError ToolCallResult × Effects σ :=
  match tools.get? toolId with
  | none => (.error (.keyError (.int toolId)), s)
  | some tool => callTool py createApproval rules tool arguments context actorId s

/-- A row of `tools`. -/
structure ToolRow where
  tenantId : Int
  projectId : Option Int
  name : String
  riskLevel : String
  status : String
  isDeleted : Bool

/-- The tool that a stored row and a handler make. -/
def ToolRow.definition (row : ToolRow) (id : Nat) (handler : Handler) : ToolDefinition where
  id := id
  tenantId := row.tenantId
  projectId := row.projectId
  name := row.name
  riskLevel := row.riskLevel
  handler := handler

/-- The query of `call_by_name`. -/
def ToolRow.named (row : ToolRow) (name : String) (context : RuntimeContext) : Bool :=
  row.tenantId == context.tenantId && row.projectId == context.projectId && row.name == name &&
    row.status == "active" && !row.isDeleted

/-- `SQLAlchemyToolGateway.call_by_name`. -/
def callByName (tools : Table ToolRow) (name : String) (arguments : PyDict)
    (context : RuntimeContext) (actorId : Option String) (handler : Handler) (s : Effects σ) :
    Except ToolError ToolCallResult × Effects σ :=
  match tools.find? fun row => row.named name context with
  | none => (.error (.keyError (.str name)), s)
  | some (id, row) =>
      let tool := row.definition id handler
      call py createApproval rules (Dict.empty.set tool.id tool) tool.id arguments context actorId s

/-! ## When the handler runs -/

variable {tool : ToolDefinition} {context : RuntimeContext} {row : ToolRow} {name : String}

/-- The handler runs exactly when the tool is in scope and the engine neither denies nor wants an
approval. -/
theorem handled_callTool_ne_iff (arguments : PyDict) (actorId : Option String) (s : Effects σ) :
    (callTool py createApproval rules tool arguments context actorId s).2.handled ≠ s.handled ↔
      tool.inScope context = true ∧
        (evaluate py rules (toolRequest tool context actorId)).1.decision ≠ .deny ∧
        (evaluate py rules (toolRequest tool context actorId)).1.decision ≠ .requireApproval := by
  unfold callTool
  cases tool.inScope context with
  | false => simp
  | true =>
    simp only [Bool.not_true, Bool.false_eq_true, if_false]
    generalize evaluate py rules (toolRequest tool context actorId) = result
    obtain ⟨decision, records⟩ := result
    cases decision.decision with
    | deny | requireApproval => simp
    | _ => cases tool.handler arguments <;> simp

/-- In scope, a call is refused without running the handler exactly when the engine denies. -/
theorem callTool_refused_iff (h : tool.inScope context = true) (arguments : PyDict)
    (actorId : Option String) (s : Effects σ) :
    ((∃ e, (callTool py createApproval rules tool arguments context actorId s).1 = .error e) ∧
        (callTool py createApproval rules tool arguments context actorId s).2.handled = s.handled) ↔
      (evaluate py rules (toolRequest tool context actorId)).1.decision = .deny := by
  unfold callTool
  simp only [h, Bool.not_true, Bool.false_eq_true, if_false]
  generalize evaluate py rules (toolRequest tool context actorId) = result
  obtain ⟨decision, records⟩ := result
  cases decision.decision with
  | deny | requireApproval => simp
  | _ => cases tool.handler arguments <;> simp

/-- A tool that is found by name is of the scope of the run. -/
theorem inScope_of_named (h : row.named name context = true) (id : Nat) (handler : Handler) :
    (row.definition id handler).inScope context = true := by
  simp only [ToolRow.named, Bool.and_eq_true] at h
  simp only [ToolDefinition.inScope, Bool.and_eq_true]
  exact h.1.1.1

/-- A tool that is found by name is called as it is stored. -/
theorem callByName_of_find? {tools : Table ToolRow} {id : Nat}
    (h : (tools.find? fun row => row.named name context) = some (id, row)) (arguments : PyDict)
    (actorId : Option String) (handler : Handler) (s : Effects σ) :
    callByName py createApproval rules tools name arguments context actorId handler s =
      callTool py createApproval rules (row.definition id handler) arguments context actorId s := by
  unfold callByName call
  rw [h]
  simp only [Dict.get?_set_self]

end

end DimooRun.Tools
