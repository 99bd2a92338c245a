/-
  Hitl/Service.lean --- approvals by people: the services and the endpoint that decides.

  Sources: hitl/service.py and api/admin/router.py,
  `_record_human_decision`.

  The in-memory service keeps its own records. The durable one keeps a human task and an
  approval request for it, and the endpoint writes the same human tasks. Every method
  checks before it writes, so that one that raises leaves everything as it was.
-/
import DimooRun.Foundation.Table
import DimooRun.Policy.Engine

set_option autoImplicit false

namespace DimooRun.Hitl

open Foundation Policy

/-- The statuses that are written. -/
inductive HumanTaskStatus where
  | pending
  | approved
  | rejected
  deriving DecidableEq, Repr

namespace HumanTaskStatus

def text : HumanTaskStatus → String
  | pending => "pending"
  | approved => "approved"
  | rejected => "rejected"

/-- `"approved" if approved else "rejected"`. -/
def decided (approved : Bool) : HumanTaskStatus :=
  if approved then .approved else .rejected

@[simp] theorem decided_ne_pending (approved : Bool) : decided approved ≠ .pending := by
  cases approved <;> decide

end HumanTaskStatus

structure HumanTaskRecord where
  id : Nat
  tenantId : Int
  projectId : Option Int
  runId : Option Int
  attemptId : Option Int
  taskId : Option Int
  type : String
  status : HumanTaskStatus
  payload : PyDict
  requestedBy : Option String
  assigneeUserId : Option String := none
  assigneeRole : Option String := none
  expiresAt : Option Instant := none
  createdAt : Instant
  updatedAt : Option Instant := none

/-- The arguments of `create_approval`. -/
structure CreateApproval where
  tenantId : Int
  projectId : Option Int
  runId : Option Int
  attemptId : Option Int
  taskId : Option Int
  payload : PyDict
  requestedBy : Option String
  assigneeRole : Option String := none
  expiresAt : Option Instant := none

/-- The arguments of `decide`. -/
structure Decide where
  taskId : Nat
  actorId : String
  approved : Bool
  payload : Option PyDict := none

/-- What `decide` raises. -/
inductive HumanTaskError where
  | keyError (taskId : Nat)
  | permissionError (message : String)
  deriving DecidableEq, Repr

/-! ## Audit records -/

/-- The record that `create_approval` writes. -/
def createRecord (data : CreateApproval) (id : Nat) : AuditRecord where
  tenantId := data.tenantId
  projectId := data.projectId
  actorId := data.requestedBy
  actorType := if data.requestedBy.any (· != "") then "user" else "system"
  resourceType := "human_task"
  resourceId := some id
  action := "create"
  result := "allow"
  metadata := [("type", .str "approval"), ("status", .str "pending")]

section

variable (id : Nat) (tenantId : Int) (projectId : Option Int) (call : Decide)

/-- The record that `decide` writes. -/
def decideRecord : AuditRecord where
  tenantId := tenantId
  projectId := projectId
  actorId := some call.actorId
  actorType := "user"
  resourceType := "human_task"
  resourceId := some call.taskId
  action := "decide"
  result := (HumanTaskStatus.decided call.approved).text
  metadata := [("approved", .bool call.approved)]

/-- A record of a decision on a human task. -/
def recordsDecision (record : AuditRecord) : Bool :=
  record.resourceType == "human_task" && record.action == "decide" &&
    record.resourceId == some (id : Int)

@[simp] theorem recordsDecision_decideRecord :
    recordsDecision id (decideRecord tenantId projectId call) = decide (call.taskId = id) := by
  rw [Bool.eq_iff_iff]
  simp only [recordsDecision, decideRecord, beq_self_eq_true, Bool.true_and, beq_iff_eq,
    Option.some.injEq, decide_eq_true_eq]
  omega

end

/-! ## The service in memory -/

/-- `HumanTaskService`: its records and what its audit sink was given. -/
structure HumanTaskService where
  tasks : Table HumanTaskRecord := {}
  audit : List AuditRecord := []

namespace HumanTaskService

variable (now : Instant) (data : CreateApproval)

/-- The record of a new approval. -/
def newRecord (id : Nat) : HumanTaskRecord where
  id := id
  tenantId := data.tenantId
  projectId := data.projectId
  runId := data.runId
  attemptId := data.attemptId
  taskId := data.taskId
  type := "approval"
  status := .pending
  payload := data.payload
  requestedBy := data.requestedBy
  assigneeRole := data.assigneeRole
  expiresAt := data.expiresAt
  createdAt := now

def createApproval (s : HumanTaskService) : HumanTaskRecord × HumanTaskService :=
  let task := newRecord now data s.tasks.nextId
  (task,
    { tasks := s.tasks.insert task
      audit := s.audit ++ [createRecord data task.id] })

/-- The record after a decision. -/
def decidedRecord (call : Decide) (task : HumanTaskRecord) : HumanTaskRecord :=
  { task with
    status := HumanTaskStatus.decided call.approved
    payload := PyDict.set task.payload "decision" (.dict (call.payload.getD []))
    updatedAt := some now }

def decide (call : Decide) (s : HumanTaskService) :
    Except HumanTaskError HumanTaskRecord × HumanTaskService :=
  match s.tasks.get? call.taskId with
  | none => (.error (.keyError call.taskId), s)
  | some task =>
      if task.requestedBy = some call.actorId then
        (.error (.permissionError "approval_self_review_denied"), s)
      else if task.status ≠ .pending then
        (.error (.permissionError "human_task_not_pending"), s)
      else
        (.ok (decidedRecord now call task),
          { tasks := s.tasks.modify call.taskId (decidedRecord now call)
            audit := s.audit ++ [decideRecord task.tenantId task.projectId call] })

end HumanTaskService

/-! ## The durable service -/

/-- A row of `human_tasks`. -/
structure HumanTaskRow where
  tenantId : Int
  projectId : Option Int
  runId : Option Int := none
  attemptId : Option Int := none
  taskId : Option Int := none
  type : String
  status : HumanTaskStatus
  assigneeUserId : Option Int := none
  assigneeRole : Option String := none
  payloadRef : Option String := none
  decisionRef : Option String := none
  expiresAt : Option Instant := none
  createdAt : Instant
  updatedAt : Option Instant
  isDeleted : Bool := false

/-- A row of `approval_requests`. -/
structure ApprovalRequestRow where
  tenantId : Int
  projectId : Option Int
  humanTaskId : Nat
  requestedBy : Option String
  status : HumanTaskStatus
  decisionRef : Option String := none
  metadata : PyDict

/-- The tables, and what the audit sink of the service was given. -/
structure ApprovalTables where
  tasks : Table HumanTaskRow := {}
  approvals : Table ApprovalRequestRow := {}
  audit : List AuditRecord := []

namespace ApprovalTables

variable (now : Instant) (data : CreateApproval) (db : ApprovalTables)

/-- The last approval request for a human task. -/
def latestApproval (taskId : Nat) : Option (Nat × ApprovalRequestRow) :=
  db.approvals.entries.reverse.find? fun e => e.2.humanTaskId = taskId

/-- The human task of a new approval. -/
def newTask : HumanTaskRow where
  tenantId := data.tenantId
  projectId := data.projectId
  runId := data.runId
  attemptId := data.attemptId
  taskId := data.taskId
  type := "approval"
  status := .pending
  assigneeRole := data.assigneeRole
  payloadRef := some "inline:payload"
  expiresAt := data.expiresAt
  createdAt := now
  updatedAt := some now

/-- The approval request of a new approval. -/
def newApproval (humanTaskId : Nat) : ApprovalRequestRow where
  tenantId := data.tenantId
  projectId := data.projectId
  humanTaskId := humanTaskId
  requestedBy := data.requestedBy
  status := .pending
  metadata := [("payload", .dict data.payload)]

/-- The record that the service returns. -/
def recordOf (id : Nat) (task : HumanTaskRow) (payload : PyDict) (requestedBy : Option String) :
    HumanTaskRecord where
  id := id
  tenantId := task.tenantId
  projectId := task.projectId
  runId := task.runId
  attemptId := task.attemptId
  taskId := task.taskId
  type := task.type
  status := task.status
  payload := payload
  requestedBy := requestedBy
  assigneeUserId := (task.assigneeUserId.filter (· != 0)).map toString
  assigneeRole := task.assigneeRole
  expiresAt := task.expiresAt
  createdAt := task.createdAt
  updatedAt := task.updatedAt

/-- `create_approval`. -/
def createApproval : HumanTaskRecord × ApprovalTables :=
  let id := db.tasks.nextId
  let task := newTask now data
  (recordOf id task data.payload data.requestedBy,
    { tasks := db.tasks.insert task
      approvals := db.approvals.insert (newApproval data id)
      audit := db.audit ++ [createRecord data id] })

variable (call : Decide)

/-- The human task after a decision of the service. -/
def decidedTask (task : HumanTaskRow) : HumanTaskRow :=
  { task with
    status := HumanTaskStatus.decided call.approved
    decisionRef := some "inline:decision"
    updatedAt := some now }

/-- The approval request after a decision. -/
def decidedApproval (approval : ApprovalRequestRow) : ApprovalRequestRow :=
  { approval with
    status := HumanTaskStatus.decided call.approved
    decisionRef := some "inline:decision"
    metadata := PyDict.set approval.metadata "decision" (.dict (call.payload.getD [])) }

/-- The approval requests after a decision. -/
def decidedApprovals : Table ApprovalRequestRow :=
  match db.latestApproval call.taskId with
  | none => db.approvals
  | some (id, _) => db.approvals.modify id (decidedApproval call)

/-- The payload that is returned with a decision. -/
def payloadData : Option (Nat × ApprovalRequestRow) → PyDict
  | none => []
  | some (_, approval) =>
      let payload := ((PyDict.get approval.metadata "payload").dict?).getD []
      if (call.payload.getD []).isEmpty then payload
      else payload.set "decision" (.dict (call.payload.getD []))

/-- `decide`. -/
def decide (db : ApprovalTables) : Except HumanTaskError HumanTaskRecord × ApprovalTables :=
  match db.tasks.get? call.taskId with
  | none => (.error (.keyError call.taskId), db)
  | some task =>
      let approval := db.latestApproval call.taskId
      let requestedBy := approval.bind fun e => e.2.requestedBy
      if requestedBy = some call.actorId then
        (.error (.permissionError "approval_self_review_denied"), db)
      else if task.status ≠ .pending then
        (.error (.permissionError "human_task_not_pending"), db)
      else
        (.ok (recordOf call.taskId (decidedTask now call task) (payloadData call approval)
            requestedBy),
          { tasks := db.tasks.modify call.taskId (decidedTask now call)
            approvals := db.decidedApprovals call
            audit := db.audit ++ [decideRecord task.tenantId task.projectId call] })

end ApprovalTables

/-! ## The endpoint -/

/-- The body and status code of an error of the admin API, without the request id. -/
structure AdminError where
  statusCode : Nat
  errorCode : String
  message : String
  details : PyDict

/-- `_resource_not_found`. -/
def resourceNotFound (collection : String) (id : Nat) : AdminError where
  statusCode := 404
  errorCode := "resource_not_found"
  message := "Resource was not found."
  details := [("collection", .str collection), ("id", .int id)]

/-- `_scope_conflict`. -/
def scopeConflict (collection : String) : AdminError where
  statusCode := 409
  errorCode := "resource_conflict"
  message := "Resource violates a unique scope constraint."
  details := [("collection", .str collection)]

def decisionCommentRequired (taskId : Nat) : AdminError where
  statusCode := 400
  errorCode := "decision_comment_required"
  message := "Approval comment is required for human task decisions."
  details := [("field", .str "decision_payload.comment"), ("task_id", .int taskId)]

def humanTaskDecisionConflict (taskId : Nat) (current : HumanTaskStatus) : AdminError where
  statusCode := 409
  errorCode := "human_task_decision_conflict"
  message := "Human task was already decided and must be reloaded before acting again."
  details := [("task_id", .int taskId), ("current_status", .str current.text)]

/-- A request to approve or to reject. -/
structure DecisionRequest where
  taskId : Nat
  approved : Bool
  payload : PyDict
  tenantId : Option Int
  projectId : Option Int

/-- What the endpoint answers: the id and the row of the task, an error, or an exception. -/
inductive DecisionReply where
  | item (id : Nat) (task : HumanTaskRow)
  | refused (error : AdminError)
  | raised (error : PyError)

namespace DecisionRequest

variable (py : Builtins) (now : Instant) (request : DecisionRequest)

/-- `dict((payload or {}).get("decision_payload") or {})`. -/
def decisionPayload : Except PyError PyDict :=
  PyDict.ofValue ((PyDict.get request.payload "decision_payload").orElse (.dict []))

/-- `str(decision_payload.get("comment") or "").strip()`. -/
def comment (decisionPayload : PyDict) : String :=
  stripText (py.str ((decisionPayload.get "comment").orElse (.str "")))

/-- `_db_record_in_scope`; a human task has no environment. -/
def inScope (task : HumanTaskRow) : Bool :=
  (match request.tenantId with
    | none => true
    | some tenantId => task.tenantId == tenantId) &&
  (match request.projectId with
    | none => true
    | some projectId => task.projectId == some projectId)

/-- The human task that the endpoint makes when there is none with the id. -/
def newTask (tenantId : Int) : HumanTaskRow where
  tenantId := tenantId
  projectId := request.projectId
  type := py.str ((PyDict.get request.payload "type").orElse (.str "approval"))
  status := HumanTaskStatus.decided request.approved
  decisionRef := some "inline:decision"
  createdAt := now
  updatedAt := some now

/-- A human task after a decision of the endpoint. -/
def decidedTask (task : HumanTaskRow) :
    HumanTaskRow :=
  { task with
    status := HumanTaskStatus.decided request.approved
    decisionRef := some "inline:decision"
    updatedAt := some now }

end DecisionRequest

namespace ApprovalTables

open DecisionRequest in
/-- `_record_human_decision`. -/
def recordHumanDecision (py : Builtins) (now : Instant) (request : DecisionRequest)
    (db : ApprovalTables) : DecisionReply × ApprovalTables :=
  let task := db.tasks.get? request.taskId
  if task.any fun task => task.isDeleted || !request.inScope task then
    (.refused (resourceNotFound "human_tasks" request.taskId), db)
  else
    match request.decisionPayload with
    | .error e => (.raised e, db)
    | .ok decisionPayload =>
        if comment py decisionPayload = "" then
          (.refused (decisionCommentRequired request.taskId), db)
        else
          match task with
          | none =>
              match request.tenantId with
              -- the column is not nullable
              | none => (.refused (scopeConflict "human_tasks"), db)
              | some tenantId =>
                  let made := request.newTask py now tenantId
                  (.item db.tasks.nextId made, { db with tasks := db.tasks.insert made })
          | some task =>
              if task.status ≠ .pending then
                (.refused (humanTaskDecisionConflict request.taskId task.status), db)
              else
                (.item request.taskId (request.decidedTask now task),
                  { db with tasks := db.tasks.modify request.taskId (request.decidedTask now) })

end ApprovalTables

end DimooRun.Hitl
