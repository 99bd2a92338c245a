/-
  Hitl/Decisions.lean --- approvals over whole runs.

  Approvals are made and decided through the service in memory, the durable service and
  the endpoint, in any order. A decision is a sound one when it is the first on an
  approval that was made, is not the requester's own, is not late and is recorded once.
  The services take only sound decisions, but for the time: neither looks at
  `expires_at`. The endpoint takes none: it writes no audit record, leaves the approval
  request behind and decides tasks that were never made.
-/
import DimooRun.Foundation.Trace
import DimooRun.Hitl.Service

set_option autoImplicit false

namespace DimooRun.Hitl

open Foundation Policy

/-- Which service keeps an approval. -/
inductive ApprovalStore where
  | memory
  | durable
  deriving DecidableEq, Repr

/-- What is asked. -/
inductive ApprovalCall where
  | create (store : ApprovalStore) (data : CreateApproval)
  | decide (store : ApprovalStore) (call : Decide)
  /-- the endpoints `approve_human_task` and `reject_human_task` -/
  | admin (request : DecisionRequest)

/-- What is answered. -/
inductive ApprovalReply where
  | created (record : HumanTaskRecord)
  | decided (record : Except HumanTaskError HumanTaskRecord)
  | admin (reply : DecisionReply)

/-- A call, at a time. -/
structure TimedCall where
  now : Instant
  call : ApprovalCall

/-- Both services. -/
structure ApprovalSystem where
  memory : HumanTaskService := {}
  tables : ApprovalTables := {}

/-- An approval as both services know it. -/
structure Approval where
  status : HumanTaskStatus
  requestedBy : Option String
  expiresAt : Option Instant

namespace ApprovalSystem

section

variable (py : Builtins) (s : ApprovalSystem) (timed : TimedCall)

/-- One call. -/
def exec : ApprovalReply × ApprovalSystem :=
  match timed.call with
  | .create .memory data =>
      let r := s.memory.createApproval timed.now data
      (.created r.1, { s with memory := r.2 })
  | .create .durable data =>
      let r := s.tables.createApproval timed.now data
      (.created r.1, { s with tables := r.2 })
  | .decide .memory call =>
      let r := s.memory.decide timed.now call
      (.decided r.1, { s with memory := r.2 })
  | .decide .durable call =>
      let r := s.tables.decide timed.now call
      (.decided r.1, { s with tables := r.2 })
  | .admin request =>
      let r := s.tables.recordHumanDecision py timed.now request
      (.admin r.1, { s with tables := r.2 })

/-- The approval with an id. -/
def approval? (store : ApprovalStore) (id : Nat) : Option Approval :=
  match store with
  | .memory =>
      (s.memory.tasks.get? id).map fun task =>
        { status := task.status, requestedBy := task.requestedBy, expiresAt := task.expiresAt }
  | .durable =>
      (s.tables.tasks.get? id).map fun task =>
        { status := task.status
          requestedBy := (s.tables.latestApproval id).bind fun e => e.2.requestedBy
          expiresAt := task.expiresAt }

/-- The records that the audit sink of a service was given. -/
def audit : ApprovalStore → List AuditRecord
  | .memory => s.memory.audit
  | .durable => s.tables.audit

/-- The records of decisions on an approval. -/
def decisionRecords (store : ApprovalStore) (id : Nat) : List AuditRecord :=
  (s.audit store).filter (recordsDecision id)

/-- A human task and its approval request have the same status. -/
def StatusesAgree : Prop :=
  ∀ id approval, s.tables.approvals.get? id = some approval →
    ∃ task, s.tables.tasks.get? approval.humanTaskId = some task ∧ task.status = approval.status

/-- The tables as the calls make them: a human task has at most one approval request. -/
structure Consistent : Prop where
  agree : s.StatusesAgree
  unique : ∀ id id' approval approval', s.tables.approvals.get? id = some approval →
    s.tables.approvals.get? id' = some approval' →
    approval.humanTaskId = approval'.humanTaskId → id = id'

/-! ## Decisions -/

/-- A decision that was taken. -/
structure Taken where
  store : ApprovalStore
  id : Nat
  /-- who decided, as far as it is said -/
  actor : Option String
  now : Instant

/-- `decision_payload.get("decided_by")`, if it is a text. -/
def decidedBy (request : DecisionRequest) : Option String :=
  match request.decisionPayload with
  | .ok decisionPayload => (decisionPayload.get "decided_by").str?
  | .error _ => none

/-- The decision that a call took. -/
def taken (e : Entry ApprovalSystem TimedCall ApprovalReply) : Option Taken :=
  match e.call.call, e.reply with
  | .decide store call, .decided (.ok _) => some ⟨store, call.taskId, some call.actorId, e.call.now⟩
  | .admin request, .admin (.item ..) =>
      some ⟨.durable, request.taskId, decidedBy request, e.call.now⟩
  | _, _ => none

/-- A decision on an approval that was made and is pending, by somebody else than its
requester, not later than it expires, and recorded once. -/
structure Sound (before after : ApprovalSystem) (d : Taken) : Prop where
  pending : ∃ approval, before.approval? d.store d.id = some approval ∧
    approval.status = .pending ∧
    (∀ actor, d.actor = some actor → approval.requestedBy ≠ some actor) ∧
    (∀ expiresAt, approval.expiresAt = some expiresAt → d.now ≤ expiresAt)
  recorded : (after.decisionRecords d.store d.id).length =
    (before.decisionRecords d.store d.id).length + 1

/-- Every decision of a run is sound, no approval is decided twice, and after every call
human tasks and approval requests agree. -/
structure DecidedOnce (run : List (Entry ApprovalSystem TimedCall ApprovalReply)) : Prop where
  sound : ∀ e ∈ run, ∀ d, taken e = some d → Sound e.before e.after d
  once : ((run.filterMap taken).map fun d => (d.store, d.id)).Nodup
  agree : ∀ e ∈ run, e.after.StatusesAgree

/-- The endpoint has a reason to refuse. -/
def Refusable (request : DecisionRequest) : Prop :=
  (∃ task, s.tables.tasks.get? request.taskId = some task ∧
    (task.isDeleted = true ∨ request.inScope task = false ∨ task.status ≠ .pending)) ∨
  (∀ decisionPayload, request.decisionPayload = .ok decisionPayload →
    DecisionRequest.comment py decisionPayload = "") ∨
  (s.tables.tasks.get? request.taskId = none ∧ request.tenantId = none)

/-- The calls after which nothing is lost: a service is not asked to decide a pending approval
after it expired, and the endpoint has a reason to refuse. -/
def Careful : Prop :=
  match timed.call with
  | .create _ _ => True
  | .decide store call =>
      ∀ approval expiresAt, s.approval? store call.taskId = some approval →
        approval.status = .pending → approval.requestedBy ≠ some call.actorId →
        approval.expiresAt = some expiresAt → timed.now ≤ expiresAt
  | .admin request => s.Refusable py request

end

/-! ## One call -/

section

variable {py : Builtins} {s : ApprovalSystem} (now : Instant)
  {m : HumanTaskService} {call : Decide} {db : ApprovalTables} {store : ApprovalStore}
  {approval : Approval} {request : DecisionRequest} {taskId : Nat} {timed : TimedCall}

/-! ### What is decided stays decided -/

/-- The approval is decided. -/
def Settled (s : ApprovalSystem) (store : ApprovalStore) (id : Nat) : Prop :=
  ∃ approval, s.approval? store id = some approval ∧ approval.status ≠ .pending

variable {id : Nat}

section

variable {ρ : Type} {status : ρ → HumanTaskStatus} {t : Table ρ} {id : Nat}

/-- A row is decided. -/
def Decided (status : ρ → HumanTaskStatus) (t : Table ρ) (id : Nat) : Prop :=
  ∃ task, t.get? id = some task ∧ status task ≠ .pending

theorem decided_insert (row : ρ) (h : Decided status t id) : Decided status (t.insert row) id := by
  obtain ⟨task, hget, hstatus⟩ := h
  exact ⟨task, Table.get?_insert_of_some hget row, hstatus⟩

variable {f : ρ → ρ} {approved : Bool}

/-- What is decided is decided. -/
theorem decided_modify_self {row : ρ} (hget : t.get? id = some row)
    (hf : ∀ row, status (f row) = .decided approved) : Decided status (t.modify id f) id := by
  refine ⟨f row, ?_, hf row ▸ HumanTaskStatus.decided_ne_pending _⟩
  rw [Table.get?_modify, if_pos rfl, hget]
  rfl

/-- Decisions do not undo decisions. -/
theorem decided_modify (id' : Nat) (h : Decided status t id)
    (hf : ∀ row, status (f row) = .decided approved) : Decided status (t.modify id' f) id := by
  obtain ⟨task, hget, hstatus⟩ := h
  by_cases hid : id = id'
  · exact hid ▸ decided_modify_self hget hf
  · exact ⟨task, by rw [Table.get?_modify, if_neg hid, hget], hstatus⟩

end

theorem settled_memory :
    s.Settled .memory id ↔ Decided HumanTaskRecord.status s.memory.tasks id := by
  simp [Settled, Decided, approval?]

theorem settled_durable :
    s.Settled .durable id ↔ Decided HumanTaskRow.status s.tables.tasks id := by
  simp [Settled, Decided, approval?]

/-! ### What the services and the endpoint do -/

/-- The service in memory decides what is pending for anybody but the requester, and refuses
everything else. -/
theorem decide_memory (m : HumanTaskService) (call : Decide) :
    (∃ task, m.tasks.get? call.taskId = some task ∧ task.requestedBy ≠ some call.actorId ∧
      task.status = .pending ∧ m.decide now call =
        (.ok (HumanTaskService.decidedRecord now call task),
          { tasks := m.tasks.modify call.taskId (HumanTaskService.decidedRecord now call)
            audit := m.audit ++ [decideRecord task.tenantId task.projectId call] })) ∨
    (∀ task, m.tasks.get? call.taskId = some task → task.requestedBy ≠ some call.actorId →
      task.status ≠ .pending) ∧ ∃ e, m.decide now call = (.error e, m) := by
  unfold HumanTaskService.decide
  cases hget : m.tasks.get? call.taskId with
  | none => exact .inr ⟨by simp, _, rfl⟩
  | some task =>
    dsimp only
    split
    · rename_i hself
      exact .inr ⟨by simp [hself], _, rfl⟩
    · rename_i hother
      split
      · rename_i hdecided
        exact .inr ⟨by simpa using fun _ => hdecided, _, rfl⟩
      · rename_i hpending
        exact .inl ⟨task, rfl, hother, not_not.mp hpending, rfl⟩

/-- So does the durable service. -/
theorem decide_tables (db : ApprovalTables) (call : Decide) :
    (∃ task, db.tasks.get? call.taskId = some task ∧
      ((db.latestApproval call.taskId).bind fun e => e.2.requestedBy) ≠ some call.actorId ∧
      task.status = .pending ∧ db.decide now call =
        (.ok (ApprovalTables.recordOf call.taskId (ApprovalTables.decidedTask now call task)
            (ApprovalTables.payloadData call (db.latestApproval call.taskId))
            ((db.latestApproval call.taskId).bind fun e => e.2.requestedBy)),
          { tasks := db.tasks.modify call.taskId (ApprovalTables.decidedTask now call)
            approvals := db.decidedApprovals call
            audit := db.audit ++ [decideRecord task.tenantId task.projectId call] })) ∨
    (∀ task, db.tasks.get? call.taskId = some task →
      ((db.latestApproval call.taskId).bind fun e => e.2.requestedBy) ≠ some call.actorId →
      task.status ≠ .pending) ∧ ∃ e, db.decide now call = (.error e, db) := by
  unfold ApprovalTables.decide
  cases hget : db.tasks.get? call.taskId with
  | none => exact .inr ⟨by simp, _, rfl⟩
  | some task =>
    dsimp only
    split
    · rename_i hself
      exact .inr ⟨by simp [hself], _, rfl⟩
    · rename_i hother
      split
      · rename_i hdecided
        exact .inr ⟨by simpa using fun _ => hdecided, _, rfl⟩
      · rename_i hpending
        exact .inl ⟨task, rfl, hother, not_not.mp hpending, rfl⟩

/-- A service decides a pending approval for anybody but its requester, and records it. -/
theorem decide_cases (py : Builtins) (s : ApprovalSystem) (store : ApprovalStore) (call : Decide) :
    (∃ approval record tenantId projectId s', s.approval? store call.taskId = some approval ∧
      approval.requestedBy ≠ some call.actorId ∧ approval.status = .pending ∧
      exec py s ⟨now, .decide store call⟩ = (.decided (.ok record), s') ∧
      s'.audit store = s.audit store ++ [decideRecord tenantId projectId call] ∧
      s'.Settled store call.taskId) ∨
    (∀ approval, s.approval? store call.taskId = some approval →
      approval.requestedBy ≠ some call.actorId → approval.status ≠ .pending) ∧
      ∃ e, exec py s ⟨now, .decide store call⟩ = (.decided (.error e), s) := by
  cases store with
  | memory =>
    have hexec : exec py s ⟨now, .decide .memory call⟩ =
      (.decided (s.memory.decide now call).1, { s with memory := (s.memory.decide now call).2 }) :=
      rfl
    rcases decide_memory now s.memory call with ⟨task, hget, hother, hpending, hdecide⟩ |
      ⟨hnone, e, hdecide⟩ <;> rw [hdecide] at hexec
    · refine .inl ⟨⟨task.status, task.requestedBy, task.expiresAt⟩, _, _, _, _,
        by simp [approval?, hget], hother, hpending, hexec, rfl, settled_memory.mpr ?_⟩
      exact decided_modify_self hget fun _ => rfl
    · exact .inr ⟨by simpa [approval?] using hnone, e, hexec⟩
  | durable =>
    have hexec : exec py s ⟨now, .decide .durable call⟩ =
      (.decided (s.tables.decide now call).1, { s with tables := (s.tables.decide now call).2 }) :=
      rfl
    rcases decide_tables now s.tables call with ⟨task, hget, hother, hpending, hdecide⟩ |
      ⟨hnone, e, hdecide⟩ <;> rw [hdecide] at hexec
    · refine .inl ⟨⟨task.status, _, task.expiresAt⟩, _, _, _, _,
        by simp [approval?, hget]; rfl, hother, hpending, hexec, rfl, settled_durable.mpr ?_⟩
      exact decided_modify_self hget fun _ => rfl
    · exact .inr ⟨by simpa [approval?] using hnone, e, hexec⟩

/-- With a reason to refuse, the endpoint changes nothing. Without one it takes a decision,
which leaves decided what was decided and is not recorded. -/
theorem recordHumanDecision_cases (py : Builtins) (s : ApprovalSystem) (request : DecisionRequest) :
    (s.Refusable py request ∧ ∃ reply, s.tables.recordHumanDecision py now request =
      (reply, s.tables) ∧ ∀ id task, reply ≠ .item id task) ∨
    ¬ s.Refusable py request ∧ ∃ id task tasks, s.tables.recordHumanDecision py now request =
      (.item id task, { s.tables with tasks := tasks }) ∧
      ∀ id, Decided HumanTaskRow.status s.tables.tasks id →
        Decided HumanTaskRow.status tasks id := by
  unfold ApprovalTables.recordHumanDecision
  dsimp only
  split
  · rename_i hout
    refine .inl ⟨.inl ?_, _, rfl, by simp⟩
    obtain ⟨task, hget, hreason⟩ := (Option.any_eq_true _ _).mp hout
    refine ⟨task, hget, ?_⟩
    simpa [or_assoc] using Or.inl (b := task.status ≠ .pending) hreason
  · rename_i hscope
    cases hpayload : request.decisionPayload with
    | error e =>
      exact .inl ⟨.inr (.inl (by simp [hpayload])), _, rfl, by simp⟩
    | ok decisionPayload =>
      dsimp only
      split
      · rename_i hempty
        exact .inl ⟨.inr (.inl (by simpa [hpayload] using hempty)), _, rfl, by simp⟩
      · rename_i hcomment
        cases hget : s.tables.tasks.get? request.taskId with
        | none =>
          cases htenant : request.tenantId with
          | none =>
            exact .inl ⟨.inr (.inr ⟨hget, htenant⟩), _, rfl, by simp⟩
          | some tenantId =>
            exact .inr ⟨by simp [Refusable, hget, hpayload, hcomment, htenant], _, _, _, rfl,
              fun id => decided_insert _⟩
        | some task =>
          dsimp only
          split
          · rename_i hdecided
            exact .inl ⟨.inl ⟨task, hget, .inr (.inr hdecided)⟩, _, rfl, by simp⟩
          · exact .inr ⟨by simp_all [Refusable], _, _, _, rfl,
              fun id h => decided_modify request.taskId h fun _ => rfl⟩

/-- No call takes a decision back. -/
theorem settled_exec (timed : TimedCall) (h : s.Settled store id) :
    (exec py s timed).2.Settled store id := by
  obtain ⟨now, call⟩ := timed
  cases store with
  | memory =>
    rw [settled_memory] at h ⊢
    match call with
    | .create .memory data => exact decided_insert _ h
    | .create .durable data | .decide .durable call | .admin request => exact h
    | .decide .memory call =>
      rcases decide_memory now s.memory call with ⟨_, _, _, _, hdecide⟩ | ⟨_, e, hdecide⟩
      · simp only [exec, hdecide]
        exact decided_modify call.taskId h fun _ => rfl
      · simpa only [exec, hdecide] using h
  | durable =>
    rw [settled_durable] at h ⊢
    match call with
    | .create .memory data | .decide .memory call => exact h
    | .create .durable data => exact decided_insert _ h
    | .decide .durable call =>
      rcases decide_tables now s.tables call with ⟨_, _, _, _, hdecide⟩ | ⟨_, e, hdecide⟩
      · simp only [exec, hdecide]
        exact decided_modify call.taskId h fun _ => rfl
      · simpa only [exec, hdecide] using h
    | .admin request =>
      rcases recordHumanDecision_cases now py s request with ⟨_, reply, hrecord, _⟩ |
        ⟨_, _, _, tasks, hrecord, hdecided⟩
      · simpa only [exec, hrecord] using h
      · simpa only [exec, hrecord] using hdecided id h

/-! ### Human tasks and approval requests -/

theorem latestApproval_some {approval : ApprovalRequestRow}
    (h : db.latestApproval taskId = some (id, approval)) :
    db.approvals.get? id = some approval ∧ approval.humanTaskId = taskId := by
  have hmem := List.mem_of_find?_eq_some h
  have htask := List.find?_some h
  exact ⟨Table.mem_entries.mp (List.mem_reverse.mp hmem), by simpa using htask⟩

theorem latestApproval_none (h : db.latestApproval taskId = none) {approval : ApprovalRequestRow}
    (hget : db.approvals.get? id = some approval) : approval.humanTaskId ≠ taskId := by
  have hmem := List.mem_reverse.mpr (Table.mem_entries.mpr hget)
  simpa using List.find?_eq_none.mp h (id, approval) hmem

/-- A new approval refers to a new human task. -/
theorem consistent_create (hs : s.Consistent) (data : CreateApproval) :
    (exec py s ⟨now, .create .durable data⟩).2.Consistent := by
  have hfresh : ∀ id approval, s.tables.approvals.get? id = some approval →
      approval.humanTaskId ≠ s.tables.tasks.nextId := by
    intro id approval hget heq
    obtain ⟨task, htask, _⟩ := hs.agree id approval hget
    rw [heq, Table.get?_nextId] at htask
    cases htask
  have hcases : ∀ {id approval},
      (exec py s ⟨now, .create .durable data⟩).2.tables.approvals.get? id = some approval →
      (id = s.tables.approvals.nextId ∧
        approval = ApprovalTables.newApproval data s.tables.tasks.nextId) ∨
      s.tables.approvals.get? id = some approval := by
    intro id approval hget
    simp only [exec, ApprovalTables.createApproval, Table.get?_insert] at hget
    split at hget
    · rename_i hid
      exact .inl ⟨hid, (Option.some.inj hget).symm⟩
    · exact .inr hget
  constructor
  · intro id approval hget
    rcases hcases hget with ⟨_, rfl⟩ | hold
    · refine ⟨ApprovalTables.newTask now data, ?_, rfl⟩
      show (s.tables.tasks.insert _).get? s.tables.tasks.nextId = _
      rw [Table.get?_insert, if_pos rfl]
    · obtain ⟨task, htask, hstatus⟩ := hs.agree id approval hold
      exact ⟨task, Table.get?_insert_of_some htask _, hstatus⟩
  · intro id id' approval approval' hget hget' heq
    rcases hcases hget with ⟨rfl, rfl⟩ | hold
    · rcases hcases hget' with ⟨rfl, _⟩ | hold'
      · rfl
      · exact absurd heq.symm (hfresh id' approval' hold')
    · rcases hcases hget' with ⟨_, rfl⟩ | hold'
      · exact absurd heq (hfresh id approval hold)
      · exact hs.unique id id' approval approval' hold hold' heq

/-- A decision of the durable service is written to the human task and to its approval
request. -/
theorem consistent_decide (hs : s.Consistent) (call : Decide) :
    (exec py s ⟨now, .decide .durable call⟩).2.Consistent := by
  rcases decide_tables now s.tables call with ⟨task, hget, hother, hpending, hdecide⟩ |
    ⟨_, e, hdecide⟩
  · simp only [exec, hdecide]
    -- an approval request after the decision is an old one, decided if it is the task's
    have hcases : ∀ {id approval}, (s.tables.decidedApprovals call).get? id = some approval →
        ∃ old, s.tables.approvals.get? id = some old ∧
          approval.humanTaskId = old.humanTaskId ∧
          (old.humanTaskId = call.taskId →
            approval.status = HumanTaskStatus.decided call.approved) ∧
          (old.humanTaskId ≠ call.taskId → approval.status = old.status) := by
      intro id approval hdecided
      unfold ApprovalTables.decidedApprovals at hdecided
      cases hlatest : s.tables.latestApproval call.taskId with
      | none =>
        rw [hlatest] at hdecided
        exact ⟨approval, hdecided, rfl,
          fun heq => absurd heq (latestApproval_none hlatest hdecided), fun _ => rfl⟩
      | some found =>
        obtain ⟨aid, latest⟩ := found
        obtain ⟨hlatestGet, hlatestTask⟩ := latestApproval_some hlatest
        rw [hlatest] at hdecided
        simp only [Table.get?_modify] at hdecided
        by_cases hid : id = aid
        · subst hid
          rw [if_pos rfl, hlatestGet] at hdecided
          cases hdecided
          exact ⟨latest, hlatestGet, rfl, fun _ => rfl, fun hne => absurd hlatestTask hne⟩
        · rw [if_neg hid] at hdecided
          refine ⟨approval, hdecided, rfl, fun heq => ?_, fun _ => rfl⟩
          exact absurd (hs.unique id aid approval latest hdecided hlatestGet
            (heq.trans hlatestTask.symm)) hid
    constructor
    · intro id approval hget'
      obtain ⟨old, hold, htaskId, hsame, helse⟩ := hcases hget'
      obtain ⟨oldTask, holdTask, hstatus⟩ := hs.agree id old hold
      rw [htaskId, Table.get?_modify, holdTask]
      by_cases hid : old.humanTaskId = call.taskId
      · exact ⟨_, if_pos hid, (hsame hid).symm⟩
      · exact ⟨oldTask, if_neg hid, hstatus.trans (helse hid).symm⟩
    · intro id id' approval approval' hget₁ hget₂ heq
      obtain ⟨old, hold, htaskId, _⟩ := hcases hget₁
      obtain ⟨old', hold', htaskId', _⟩ := hcases hget₂
      exact hs.unique id id' old old' hold hold' (htaskId ▸ htaskId' ▸ heq)
  · simpa only [exec, hdecide] using hs

/-- A careful call keeps human tasks and approval requests together. -/
theorem consistent_exec (hs : s.Consistent) (hcareful : s.Careful py timed) :
    (exec py s timed).2.Consistent := by
  obtain ⟨now, call⟩ := timed
  match call with
  | .create .memory data => exact ⟨hs.agree, hs.unique⟩
  | .create .durable data => exact consistent_create now hs data
  | .decide .memory call => exact ⟨hs.agree, hs.unique⟩
  | .decide .durable call => exact consistent_decide now hs call
  | .admin request =>
    rcases recordHumanDecision_cases now py s request with ⟨_, reply, hrecord, _⟩ | ⟨hnot, _⟩
    · simpa only [exec, hrecord] using hs
    · exact absurd hcareful hnot

/-- One record of the decision is added. -/
theorem length_filter_decideRecord (records : List AuditRecord) (tenantId : Int)
    (projectId : Option Int) (call : Decide) :
    ((records ++ [decideRecord tenantId projectId call]).filter
        (recordsDecision call.taskId)).length =
      (records.filter (recordsDecision call.taskId)).length + 1 := by
  simp

/-- A decision that a service takes in time is sound. -/
theorem sound_of_recorded {now : Instant} {s' : ApprovalSystem}
    (hcareful : s.Careful py ⟨now, .decide store call⟩)
    (hget : s.approval? store call.taskId = some approval)
    (hother : approval.requestedBy ≠ some call.actorId) (hpending : approval.status = .pending)
    {tenantId : Int} {projectId : Option Int}
    (haudit : s'.audit store = s.audit store ++ [decideRecord tenantId projectId call]) :
    Sound s s' ⟨store, call.taskId, some call.actorId, now⟩ where
  pending := by
    refine ⟨approval, hget, hpending, ?_, ?_⟩
    · intro actor hactor
      rwa [← hactor]
    · intro expiresAt hexpires
      exact hcareful approval expiresAt hget hpending hother hexpires
  recorded := by
    simp only [decisionRecords, haudit]
    exact length_filter_decideRecord (s.audit store) tenantId projectId call

/-- A careful call takes only sound decisions, and what it decides is decided. -/
theorem sound_of_careful (hcareful : s.Careful py timed) {d : Taken}
    (htaken : taken (entry (exec py) s timed) = some d) :
    Sound s (exec py s timed).2 d ∧ (exec py s timed).2.Settled d.store d.id := by
  obtain ⟨now, call⟩ := timed
  match call with
  | .create .memory data => cases htaken
  | .create .durable data => cases htaken
  | .admin request =>
    rcases recordHumanDecision_cases now py s request with ⟨_, reply, hrecord, hitem⟩ | ⟨hnot, _⟩
    · simp only [taken, entry, exec, hrecord] at htaken
      split at htaken
      · rename_i heq
        cases heq
      · rename_i heq
        exact absurd (ApprovalReply.admin.inj heq) (hitem _ _)
      · cases htaken
    · exact absurd hcareful hnot
  | .decide store call =>
    rcases decide_cases now py s store call with
      ⟨approval, record, _, _, s', hget, hother, hpending, hexec, haudit, hsettled⟩ |
      ⟨_, e, hrefused⟩
    · simp only [taken, entry, hexec, Option.some.injEq] at htaken
      subst htaken
      rw [hexec]
      exact ⟨sound_of_recorded hcareful hget hother hpending haudit, hsettled⟩
    · simp [taken, entry, hrefused] at htaken

/-- What is sound is careful: the endpoint's decisions are not recorded, and a late one is not
sound. -/
theorem careful_of_sound
    (hsound : ∀ d, taken (entry (exec py) s timed) = some d → Sound s (exec py s timed).2 d) :
    s.Careful py timed := by
  obtain ⟨now, call⟩ := timed
  match call with
  | .create store data => trivial
  | .decide store call =>
    intro approval expiresAt hget hpending hother hexpires
    rcases decide_cases now py s store call with ⟨_, record, _, _, _, _, _, _, hexec, _⟩ |
      ⟨hnone, _⟩
    case inr => exact absurd hpending (hnone approval hget hother)
    have htaken : taken (entry (exec py) s ⟨now, .decide store call⟩) =
        some ⟨store, call.taskId, some call.actorId, now⟩ := by
      simp only [taken, entry, hexec]
    obtain ⟨approval', hget', _, _, htime⟩ := (hsound _ htaken).pending
    cases hget.symm.trans hget'
    exact htime expiresAt hexpires
  | .admin request =>
    by_contra hnot
    rcases recordHumanDecision_cases now py s request with ⟨hrefusable, _⟩ | ⟨_, _, _, _, hrecord, _⟩
    · exact hnot hrefusable
    · have htaken : taken (entry (exec py) s ⟨now, .admin request⟩) =
          some ⟨.durable, request.taskId, decidedBy request, now⟩ := by
        simp only [taken, entry, exec, hrecord]
      have hrecorded := (hsound _ htaken).recorded
      simp only [decisionRecords, audit, exec, hrecord] at hrecorded
      omega

end

/-! ## Runs -/

/-- One more call after a run in which everything was decided once. -/
theorem decidedOnce_append {run : List (Entry ApprovalSystem TimedCall ApprovalReply)}
    {e : Entry ApprovalSystem TimedCall ApprovalReply} (hrun : DecidedOnce run)
    (hsound : ∀ d, taken e = some d → Sound e.before e.after d)
    (hold : ∀ d ∈ run.filterMap taken, e.before.Settled d.store d.id)
    (hagree : e.after.StatusesAgree) : DecidedOnce (run ++ [e]) where
  sound := List.forall_mem_append.mpr ⟨hrun.sound, by simpa using hsound⟩
  once := by
    cases htaken : taken e with
    | none => simpa [htaken] using hrun.once
    | some d =>
      simp only [List.filterMap_append, List.filterMap_cons, List.filterMap_nil, htaken,
        List.map_append, List.map_cons, List.map_nil]
      refine List.Nodup.append hrun.once (List.nodup_singleton _) ?_
      intro target hmem hlast
      cases List.mem_singleton.mp hlast
      -- the approval was decided before, and it is pending
      obtain ⟨d', hd', heq⟩ := List.mem_map.mp hmem
      obtain ⟨hstore, hid⟩ := Prod.mk.inj heq
      obtain ⟨approval, hget, hdecided⟩ := hold d' hd'
      obtain ⟨approval', hget', hpending, _⟩ := (hsound d htaken).pending
      rw [hstore, hid, hget'] at hget
      cases hget
      exact hdecided hpending
  agree := List.forall_mem_append.mpr ⟨hrun.agree, by simpa using hagree⟩

/-- Approvals are decided once, by somebody else, in time and on record, exactly in the runs
without late decisions and without decisions of the endpoint. -/
theorem decided_once_iff_careful (py : Builtins) (s : ApprovalSystem) (hs : s.Consistent)
    (calls : List TimedCall) :
    DecidedOnce (trace (exec py) s calls) ↔ Admitted (exec py) (Careful py) s calls := by
  constructor
  · intro honce
    rw [admitted_iff_forall_mem_trace]
    intro e he
    have hentry := eq_entry_of_mem_trace (exec py) calls s he
    refine careful_of_sound fun d hd => ?_
    rw [← hentry] at hd
    have hsound := honce.sound e he d hd
    rwa [hentry] at hsound
  · intro hadm
    have hstart : DecidedOnce ([] : List (Entry ApprovalSystem TimedCall ApprovalReply)) :=
      ⟨(fun _ he => nomatch he), List.nodup_nil, (fun _ he => nomatch he)⟩
    have hrun := history_induction (exec py)
      (J := fun run s => DecidedOnce run ∧ s.Consistent ∧
        ∀ d ∈ run.filterMap taken, s.Settled d.store d.id)
      (fun run s c hcareful hJ => ?_) calls [] s ⟨hstart, hs, fun _ hd => nomatch hd⟩ hadm
    · exact hrun.1
    · obtain ⟨hrun, hs, hsettled⟩ := hJ
      have hnext := consistent_exec hs hcareful
      refine ⟨?_, hnext, ?_⟩
      · exact decidedOnce_append hrun (fun d hd => (sound_of_careful hcareful hd).1) hsettled
          hnext.agree
      · intro d hd
        rw [List.filterMap_append, List.mem_append] at hd
        rcases hd with hin | hlast
        · exact settled_exec c (hsettled d hin)
        · obtain ⟨e, he, htaken⟩ := List.mem_filterMap.mp hlast
          cases List.mem_singleton.mp he
          exact (sound_of_careful hcareful htaken).2

theorem consistent_start : ({} : ApprovalSystem).Consistent where
  agree := by
    intro id approval hget
    cases id <;> cases hget
  unique := by
    intro id id' approval approval' hget
    cases id <;> cases hget

/-- An approval that `alice` requests. -/
def requestedByAlice : CreateApproval where
  tenantId := 1
  projectId := some 1
  runId := none
  attemptId := none
  taskId := none
  payload := []
  requestedBy := some "alice"
  expiresAt := some 10

theorem decided_once_iff_careful_bob :
    DecidedOnce (trace (exec .simple) {} [⟨0, .create .durable requestedByAlice⟩,
      ⟨5, .decide .durable ⟨1, "bob", true, none⟩⟩]) := by
  refine (decided_once_iff_careful .simple {} consistent_start _).mpr ⟨trivial, ?_, trivial⟩
  intro approval expiresAt hget _ _ hexpires
  have hsome := Option.some.inj hget
  rw [← hsome] at hexpires
  have hten := Option.some.inj hexpires
  rw [← hten]
  decide

/-- A request to approve it, on the word of `alice`. -/
def approvedByAlice : DecisionRequest where
  taskId := 1
  approved := true
  payload := [("decision_payload", .dict [("comment", .str "fine"), ("decided_by", .str "alice")])]
  tenantId := some 1
  projectId := some 1

/-- The endpoint approves what `alice` requested on the word of `alice`: the human task is approved
and its approval request is pending. -/
theorem endpoint_decides_for_requester :
    ¬ DecidedOnce (trace (exec .simple) {} [⟨0, .create .durable requestedByAlice⟩,
      ⟨5, .admin approvedByAlice⟩]) := by
  intro h
  have hagree := h.agree _ (List.mem_cons_of_mem _ List.mem_cons_self)
  obtain ⟨task, htask, hstatus⟩ := hagree 1 _ rfl
  have hsome := Option.some.inj htask
  rw [← hsome] at hstatus
  revert hstatus
  decide +kernel

end ApprovalSystem

end DimooRun.Hitl
