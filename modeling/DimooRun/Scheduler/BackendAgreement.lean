/-
  Scheduler/BackendAgreement.lean --- the three task backends side by side.

  The in-memory, the Redis and the SQLAlchemy backend get the same calls. On fair calls
  each of them does what the agenda does, so they agree on what raises, on the task of
  every lease, and on the scheduling fields of every task.

  They do not agree on all calls. The reaper of the in-memory backend puts a running task
  back without counting an attempt; `complete` steps a leased task to running in the two
  durable backends only.
-/
import DimooRun.Scheduler.InMemoryAgenda
import DimooRun.Scheduler.RedisAgenda
import DimooRun.Scheduler.Reaping

set_option autoImplicit false

namespace DimooRun.Scheduler

open Foundation DimooRun.Runtime TaskRow
open Domain (RowOrder Event)
open Persistence (EventKey)

/-! ## The SQLAlchemy backend keeps an agenda

On fair calls, without quotas and with all tasks in one project, every call of the
SQLAlchemy backend is a call on the agenda that its task table holds. -/

/-- The row as a job. -/
def TaskRow.job (t : TaskRow) : Job :=
  { state := schedule t
    priority := t.priority
    createdAt := t.createdAt
    scheduledAt := t.scheduledAt }

theorem TaskRow.job_sameTask {t t' : TaskRow} (h : t.SameTask t') :
    job t' = { job t with state := schedule t' } := by
  ext1
  · rfl
  · exact h.priority
  · exact h.createdAt
  · exact h.scheduledAt

/-! ## The agenda of the table -/

namespace SqlBackend

/-- The jobs of the task table. -/
def agenda (b : SqlBackend) : Agenda where
  nextId := b.tasks.nextId
  jobs id := (b.tasks.get? id).map job
  lt_nextId := by
    intro id job hjob
    obtain ⟨row, hrow, _⟩ := Option.map_eq_some_iff.mp hjob
    exact b.tasks.lt_nextId id ((Dict.mem_keys_iff _).mpr ⟨row, hrow⟩)

variable {b b' : SqlBackend} {id taskId : Int} {row row' : TaskRow} {now : Time}
  {call : DurableCall}

theorem jobs_agenda (h : b.tasks.get? id = some row) : b.agenda.jobs id = some (job row) := by
  show (b.tasks.get? id).map job = _
  rw [h]
  rfl

/-- One queue, one project, no deleted rows. -/
structure Plain (tenantId projectId : Int) (b : SqlBackend) : Prop where
  id : ∀ id row, b.tasks.get? id = some row → row.id = id
  queue : ∀ id row, b.tasks.get? id = some row → row.queue = "default"
  tenantId : ∀ id row, b.tasks.get? id = some row → row.tenantId = tenantId
  projectId : ∀ id row, b.tasks.get? id = some row → row.projectId = projectId
  live : ∀ id row, b.tasks.get? id = some row → row.isDeleted = false
  events : EventsLive b.events

variable {tenantId projectId : Int}

theorem Plain.of_rows (hrows : ∀ id row, b.tasks.get? id = some row → row.id = id ∧
      row.queue = "default" ∧ row.tenantId = tenantId ∧ row.projectId = projectId ∧
      row.isDeleted = false) (hevents : EventsLive b.events) : b.Plain tenantId projectId :=
  ⟨fun id row h => (hrows id row h).1, fun id row h => (hrows id row h).2.1,
    fun id row h => (hrows id row h).2.2.1, fun id row h => (hrows id row h).2.2.2.1,
    fun id row h => (hrows id row h).2.2.2.2, hevents⟩

theorem plain_empty : Plain tenantId projectId empty := by
  refine .of_rows (fun _ _ h => ?_) fun _ _ h => ?_
  · simp [empty, Domain.Table.get?, Domain.Table.empty] at h
  · simp [empty] at h

/-- Rows that are versions of the old ones. -/
theorem Plain.of_sameTask (h : b.Plain tenantId projectId)
    (hrows : ∀ id row', b'.tasks.get? id = some row' →
      ∃ row, b.tasks.get? id = some row ∧ row.SameTask row')
    (hevents : EventsLive b'.events) : b'.Plain tenantId projectId := by
  refine .of_rows (fun id row' hrow' => ?_) hevents
  obtain ⟨row, hrow, hsame⟩ := hrows id row' hrow'
  rw [hsame.id, hsame.queue, hsame.tenantId, hsame.projectId, hsame.isDeleted]
  exact ⟨h.id id row hrow, h.queue id row hrow, h.tenantId id row hrow, h.projectId id row hrow,
    h.live id row hrow⟩

/-- One row is replaced by another version of it. -/
structure Replaces (b : SqlBackend) (taskId : Int) (row' : TaskRow) (b' : SqlBackend) : Prop where
  get? : ∀ id, b'.tasks.get? id = if id = taskId then some row' else b.tasks.get? id
  nextId : b'.tasks.nextId = b.tasks.nextId

theorem Replaces.agenda (h : b.Replaces taskId row' b') (hrow : b.tasks.get? taskId = some row)
    (hsame : row.SameTask row') :
    b'.agenda = b.agenda.setState taskId (schedule row') := by
  refine Agenda.ext h.nextId fun id => ?_
  rw [Agenda.jobs_setState]
  show (b'.tasks.get? id).map job = _
  rw [h.get? id]
  split
  · rename_i hid
    rw [hid, jobs_agenda hrow, Option.map_some, Option.map_some, job_sameTask hsame]
  · rfl

theorem Replaces.plain (h : b.Replaces taskId row' b') (hplain : b.Plain tenantId projectId)
    (hrow : b.tasks.get? taskId = some row) (hsame : row.SameTask row')
    (hevents : EventsLive b'.events) : b'.Plain tenantId projectId := by
  refine hplain.of_sameTask (fun id found hfound => ?_) hevents
  rw [h.get? id] at hfound
  split at hfound
  · rename_i hid
    cases hfound
    exact ⟨row, hid ▸ hrow, hsame⟩
  · exact ⟨found, hfound, .refl found⟩

/-! ## The reaper -/

/-- On the agenda, the reaper reaps the jobs of the expired rows. -/
theorem job_reaped (hexpired : row.Expired now) :
    row.SameTask (reaped now row) ∧ (job row).reaped now = job (reaped now row) := by
  obtain ⟨happly, hwrites⟩ := writes_reaped hexpired
  exact ⟨hwrites.toSameTask, (Job.reaped_eq happly).trans (job_sameTask hwrites.toSameTask).symm⟩

theorem agenda_reapExpiredLeases (h : b.Plain tenantId projectId) (hcalm : b.agenda.Calm now)
    {order : RowOrder} (hfits : b.Fits (b.expired now order)) :
    ∃ count b', (reapExpiredLeases now order).run b = .ok count b' ∧
      b'.Plain tenantId projectId ∧ b'.agenda = b.agenda.reap now := by
  -- what is expired is not running, so no attempt and no run is failed
  have hleased : ∀ id ∈ b.expired now order, ∀ row, b.tasks.get? id = some row →
      row.status ≠ .running := by
    intro id hid row hget hrunning
    obtain ⟨row', hget', hexpired⟩ := mem_expired.mp hid
    cases hget.symm.trans hget'
    exact hcalm id (job row) (jobs_agenda hget) hrunning ⟨hexpired.1, hexpired.2.1⟩
  have hclear : b.Clear now order (b.expired now order) := by
    refine ⟨fun id hid row hget hlast => absurd hlast.1 (hleased id hid row hget),
      fun id hid row hget attempt hlost => ?_, fun runId => h.events.free (hfits runId)⟩
    rw [lost, if_neg (hleased id hid row hget)] at hlost
    cases hlost
  obtain ⟨_, count, b', hrun, hlive, hnext, hget⟩ :=
    (run_reapExpiredLeases_cases b now order).resolve_right fun hnot => hnot.1 hclear
  refine ⟨count, b', hrun, ?_, Agenda.ext hnext fun id => ?_⟩
  · refine h.of_sameTask (fun id row' hrow' => ?_) (hlive h.events)
    rw [hget id] at hrow'
    split at hrow'
    · rename_i hid
      obtain ⟨row, hrow, hexpired⟩ := mem_expired.mp hid
      rw [hrow] at hrow'
      cases hrow'
      exact ⟨row, hrow, (job_reaped hexpired).1⟩
    · exact ⟨row', hrow', .refl row'⟩
  · show (b'.tasks.get? id).map job = ((b.tasks.get? id).map job).map (Job.reaped now)
    rw [hget id]
    split
    · rename_i hid
      obtain ⟨row, hrow, hexpired⟩ := mem_expired.mp hid
      rw [hrow]
      exact congrArg some (job_reaped hexpired).2.symm
    · rename_i hid
      cases hrow : b.tasks.get? id with
      | none => rfl
      | some row =>
        have hnot : ¬ (schedule row).Expired now := by
          intro hexpired
          exact hid (mem_expired.mpr ⟨row, hrow, hexpired.1, hexpired.2, h.live id row hrow⟩)
        exact congrArg some (Job.reaped_of_not_expired hnot).symm

/-! ## Lease -/

theorem candidateLE_iff (b : SqlBackend) (x y : TaskRow) : b.CandidateLE x y ↔
    toLex (b.activePartitionCount x, x.job.key) ≤ toLex (b.activePartitionCount y, y.job.key) := by
  rw [Prod.Lex.toLex_le_toLex, ← Job.keyLE_iff]
  rfl

instance (b : SqlBackend) : Std.Total b.CandidateLE := total_of_key _ b.candidateLE_iff

instance (b : SqlBackend) : IsTrans TaskRow b.CandidateLE := trans_of_key _ b.candidateLE_iff

theorem mem_candidates {order : RowOrder} {queue : String} :
    row ∈ ((order.arrange b.tasks.rows.keys).filterMap b.tasks.get?).filter
        (fun task => decide (TaskRow.Candidate queue now task)) ↔
      ∃ id, b.tasks.get? id = some row ∧ TaskRow.Candidate queue now row := by
  rw [List.mem_filter, List.mem_filterMap, decide_eq_true_eq]
  constructor
  · rintro ⟨⟨id, _, hrow⟩, hcandidate⟩
    exact ⟨id, hrow, hcandidate⟩
  · rintro ⟨id, hrow, hcandidate⟩
    refine ⟨⟨id, ?_, hrow⟩, hcandidate⟩
    exact (order.perm _).mem_iff.mpr ((Dict.mem_keys_iff _).mpr ⟨row, hrow⟩)

/-- All candidates are in one partition, so their keys decide. -/
theorem Plain.keyLE (h : b.Plain tenantId projectId) {id' : Int} (hrow : b.tasks.get? id = some row)
    (hrow' : b.tasks.get? id' = some row') (hle : b.CandidateLE row row') :
    (job row).KeyLE (job row') := by
  have hcount : b.activePartitionCount row = b.activePartitionCount row' := by
    unfold activePartitionCount
    rw [h.tenantId id row hrow, h.tenantId id' row' hrow', h.projectId id row hrow,
      h.projectId id' row' hrow']
  rcases hle with hlt | ⟨_, hkey⟩
  · omega
  · exact hkey

theorem Plain.candidate_iff (h : b.Plain tenantId projectId) (hrow : b.tasks.get? id = some row)
    (now : Time) : TaskRow.Candidate "default" now row ↔ (job row).Due now :=
  ⟨fun hcandidate => ⟨hcandidate.2.1, hcandidate.2.2.2⟩,
    fun hdue => ⟨h.queue id row hrow, hdue.1, h.live id row hrow, hdue.2⟩⟩

/-- Without a policy the first candidate is claimed. -/
theorem run_leaseEach (hrow : b.tasks.get? row.id = some row) (hqueued : row.status = .queued)
    (hlive : row.isDeleted = false) (w : String) (u now : Time) (rest : List TaskRow) :
    ∃ b', (leaseEach none w u now (row :: rest) none).run b =
        .ok (some (b'.snapshot (claimed w u now row))) b' ∧
      b.Replaces row.id (claimed w u now row) b' ∧ b'.events = b.events := by
  have hclaim : (claimQueuedTask row.id w u now).run b =
      .ok (some (claimed w u now row))
        { b with tasks := b.tasks.update row.id (claimed w u now) } := by
    show claimQueuedTask row.id w u now b = _
    have htransition : assertTaskTransition row.status .leased = .ok () := by
      rw [hqueued]
      rfl
    have hclaimable : row.Claimable := ⟨hqueued, hlive⟩
    simp only [claimQueuedTask, hrow, htransition]
    exact if_pos hclaimable
  refine ⟨{ b with
    tasks := b.tasks.update row.id (claimed w u now)
    lastQuotaError := none }, ?_, ⟨fun id => ?_, nextId_update _ _ _⟩, rfl⟩
  · simp only [leaseEach, EStateM.run_bind, EStateM.run_get, assertCanLease, hclaim]
    rfl
  · rw [Domain.Table.get?_update, hrow]
    rfl

/-- `lease` grants the first job that is due. -/
theorem agenda_lease (h : b.Plain tenantId projectId) {reapNow : Time} {reapOrder : RowOrder}
    (hcalm : b.agenda.Calm reapNow) (hfits : b.Fits (b.expired reapNow reapOrder)) (now : Time)
    (order : RowOrder) (w : String) (n : Int) :
    ∃ leased b', (lease none now reapNow order reapOrder "default" w n).run b = .ok leased b' ∧
      b'.Plain tenantId projectId ∧
      b.agenda.Does (.lease now reapNow order reapOrder "default" w n)
        (.leased (leased.map SqlSnapshot.taskId)) b'.agenda := by
  obtain ⟨count, b₁, hreap, hplain, hagenda⟩ := agenda_reapExpiredLeases h hcalm hfits
  cases hcandidates : b₁.candidates now order "default" with
  | nil =>
    refine ⟨none, b₁, ?_, hplain, .inl ⟨rfl, hagenda, ?_⟩⟩
    · simp only [lease, EStateM.run_bind, hreap, EStateM.run_get, hcandidates]
      rfl
    · rw [← hagenda]
      intro id job hjob hdue
      obtain ⟨row, hrow, rfl⟩ := Option.map_eq_some_iff.mp hjob
      have hmem : row ∈ b₁.candidates now order "default" :=
        (List.mem_insertionSort _).mpr
          (mem_candidates.mpr ⟨id, hrow, (hplain.candidate_iff hrow now).mpr hdue⟩)
      rw [hcandidates] at hmem
      cases hmem
  | cons row rest =>
    obtain ⟨hmem, hfirst⟩ := head_insertionSort _ hcandidates
    obtain ⟨id, hrow, hcandidate⟩ := mem_candidates.mp hmem
    have hdue := (hplain.candidate_iff hrow now).mp hcandidate
    have hid : row.id = id := hplain.id id row hrow
    subst hid
    obtain ⟨b₂, hrun, hreplaces, hevents⟩ := run_leaseEach hrow hcandidate.2.1 hcandidate.2.2.1 w
      (now + seconds n) now rest
    have hsame := sameTask_claimed w (now + seconds n) now row
    refine ⟨some (b₂.snapshot (claimed w (now + seconds n) now row)), b₂, ?_,
      hreplaces.plain hplain hrow hsame (hevents ▸ hplain.events), .inr
      ⟨row.id, job row, _, ⟨?_, hdue, ?_⟩, if_pos hcandidate.2.1, rfl, ?_⟩⟩
    · simp only [lease, EStateM.run_bind, hreap, EStateM.run_get, hcandidates]
      exact hrun
    · rw [← hagenda]
      exact jobs_agenda hrow
    · rw [← hagenda]
      intro id' job' hjob' hdue'
      obtain ⟨row', hrow', rfl⟩ := Option.map_eq_some_iff.mp hjob'
      exact hplain.keyLE hrow hrow' (hfirst row'
        (mem_candidates.mpr ⟨id', hrow', (hplain.candidate_iff hrow' now).mpr hdue'⟩))
    · rw [hreplaces.agenda hrow hsame, hagenda]
      rfl

/-! ## Enqueue -/

theorem encodable_setdefault {metadata : PyDict} (h : (PyValue.dict metadata).Encodable)
    (key : String) {value : PyValue} (hvalue : value.Encodable) :
    (PyValue.dict (setdefault metadata key value)).Encodable := by
  unfold setdefault
  split
  · exact h
  · rw [PyValue.encodable_dict_iff] at h ⊢
    exact List.forall_mem_append.mpr ⟨h, List.forall_mem_singleton.mpr hvalue⟩

theorem encodable_taskMetadata {input : TaskInput} (h : (PyValue.dict input.metadata).Encodable)
    (tenantId projectId : Int) :
    (PyValue.dict (taskMetadata input tenantId projectId)).Encodable := by
  have hclass := encodable_setdefault (encodable_setdefault h "partition_key" (PyValue.encodable_str
    (toString tenantId ++ ":" ++ toString projectId))) "resource_class"
      (PyValue.encodable_str (input.resourceClass.getD "default"))
  have hint : ∀ n : Int, (PyValue.int n).Encodable := fun _ => rfl
  unfold taskMetadata
  cases input.agentId with
  | none =>
    cases input.deploymentId with
    | none => exact hclass
    | some deploymentId => exact encodable_setdefault hclass _ (hint _)
  | some agentId =>
    cases input.deploymentId with
    | none => exact encodable_setdefault hclass _ (hint _)
    | some deploymentId =>
      exact encodable_setdefault (encodable_setdefault hclass _ (hint _)) _ (hint _)

/-- The rows that an enqueued task refers to are there, if the database asks for them, and the
sequences of the reaper's events fit. -/
def Refers (tenantId projectId : Int) (b : SqlBackend) : DurableCall → Prop
  | .enqueue _ input => ∀ runId, input.runId = some runId →
      b.database.refers b.runs runId tenantId projectId = true
  | .lease _ reapNow _ reapOrder _ _ _ => b.Fits (b.expired reapNow reapOrder)
  | .reapExpiredLeases now order _ => b.Fits (b.expired now order)
  | _ => True

theorem job_newTask (now : Time) (input : TaskInput) (runId tenantId projectId id : Int) :
    job (newTask now input runId tenantId projectId id) = Job.ofInput now input := rfl

variable (h : b.Plain tenantId projectId) (str : PyValue → String)

include h

/-- `enqueue` adds a job under the next id. -/
theorem agenda_enqueue (now : Time) {input : TaskInput}
    {runId : Int} (hrun : input.runId = some runId) (htenant : input.tenantId = some tenantId)
    (hproject : input.projectId = some projectId) (hqueue : input.queue.getD "default" = "default")
    (hmetadata : (PyValue.dict input.metadata).Encodable)
    (hrefers : b.database.refers b.runs runId tenantId projectId = true) :
    ∃ b', (enqueue none now input).run b = .ok b.agenda.nextId b' ∧
      b'.Plain tenantId projectId ∧ b'.agenda = b.agenda.add (Job.ofInput now input) := by
  have hget : ∀ id, (b.tasks.insert (newTask now input runId tenantId projectId)).get? id =
      if id = b.tasks.nextId then some (newTask now input runId tenantId projectId id)
      else b.tasks.get? id := Domain.Table.get?_insert b.tasks _
  refine ⟨{ b with tasks := b.tasks.insert (newTask now input runId tenantId projectId) },
    ?_, .of_rows (fun id row hrow => ?_) h.events, Agenda.ext rfl fun id => ?_⟩
  · have hencodes := encodable_taskMetadata hmetadata tenantId projectId
    simp only [enqueue, hrun, htenant, hproject, field, assertCanEnqueue, EStateM.run_bind,
      EStateM.run_pure, EStateM.run_get, hencodes, hrefers, not_true, if_false]
    rfl
  · rw [hget] at hrow
    split at hrow
    · cases hrow
      exact ⟨rfl, hqueue, rfl, rfl, rfl⟩
    · exact ⟨h.id id row hrow, h.queue id row hrow, h.tenantId id row hrow,
        h.projectId id row hrow, h.live id row hrow⟩
  · show ((b.tasks.insert (newTask now input runId tenantId projectId)).get? id).map job = _
    rw [hget]
    show _ = if id = b.tasks.nextId then some (Job.ofInput now input) else b.agenda.jobs id
    split
    · rw [Option.map_some, job_newTask]
    · rfl

/-! ## Calls -/

/-- A call that is a method on one row is its operation on the agenda. -/
theorem take_row (call : DurableCall)
    {op : RowOp} (hcall : rowCall str call = some (taskId, op)) (rolledBack : Bool) :
    (exec none str b (.call rolledBack call)).2.Plain tenantId projectId ∧
      (.of SqlSnapshot.taskId (exec none str b (.call rolledBack call)).1,
        (exec none str b (.call rolledBack call)).2.agenda) = b.agenda.take taskId op.taskOp := by
  rcases exec_row none hcall rolledBack b with
    ⟨row, row', b', hget, happly, hwrites, hexec, htasks, hevents⟩ |
      ⟨hrefused, e, b', hexec, htasks, hevents⟩
  · have hreplaces : b.Replaces taskId row' b' := by
      constructor
      · rw [htasks]
        exact get?_update_const hget row'
      · rw [htasks, nextId_update]
    rw [hexec, hreplaces.agenda hget hwrites.toSameTask,
      Agenda.take_of_apply (jobs_agenda hget) happly]
    exact ⟨hreplaces.plain h hget hwrites.toSameTask (hevents ▸ h.events), rfl⟩
  · have hagenda : b'.agenda = b.agenda :=
      Agenda.ext (congrArg Domain.Table.nextId htasks) fun id => by
        show (b'.tasks.get? id).map job = (b.tasks.get? id).map job
        rw [htasks]
    have htake : b.agenda.take taskId op.taskOp = (.raised, b.agenda) := by
      cases hget : b.tasks.get? taskId with
      | none => exact Agenda.take_of_none (congrArg (Option.map job) hget) _
      | some row => exact Agenda.take_of_refused (jobs_agenda hget) (hrefused row hget)
    rw [hexec, hagenda, htake]
    exact ⟨h.of_sameTask (fun id row hrow => ⟨row, htasks ▸ hrow, .refl row⟩) (hevents ▸ h.events),
      rfl⟩

/-- Every fair call is a call on the agenda. -/
theorem does_exec {score : Int → Time → ℚ}
    (rolledBack : Bool) (hfair : b.agenda.Fair score tenantId projectId call)
    (hrefers : b.Refers tenantId projectId call) :
    (exec none str b (.call rolledBack call)).2.Plain tenantId projectId ∧
      b.agenda.Does call (.of SqlSnapshot.taskId (exec none str b (.call rolledBack call)).1)
        (exec none str b (.call rolledBack call)).2.agenda := by
  cases call with
  | enqueue now input =>
    obtain ⟨_, hrunId, htenant, hproject, hqueue, _, _, hmetadata⟩ := hfair
    obtain ⟨runId, hrunId⟩ := Option.ne_none_iff_exists'.mp hrunId
    obtain ⟨b', hrun, hplain, hagenda⟩ := agenda_enqueue h now hrunId htenant hproject hqueue
      hmetadata (hrefers runId hrunId)
    have hmethod : (method none str (.enqueue now input)).run b =
        .ok (.enqueued b.agenda.nextId) b' :=
      run_bind_of_ok hrun
    simp only [exec, hmethod]
    exact ⟨hplain, rfl, hagenda⟩
  | lease now reapNow order reapOrder queue w n =>
    obtain ⟨rfl, hcalm, _⟩ := hfair
    obtain ⟨leased, b', hrun, hplain, hdoes⟩ := agenda_lease h hcalm hrefers now order w n
    have hmethod : (method none str (.lease now reapNow order reapOrder "default" w n)).run b =
        .ok (.leased leased) b' :=
      run_bind_of_ok hrun
    simp only [exec, hmethod]
    exact ⟨hplain, hdoes⟩
  | heartbeat now taskId w n => exact take_row h str (.heartbeat now taskId w n) rfl rolledBack
  | markRunning now taskId w k => exact take_row h str (.markRunning now taskId w k) rfl rolledBack
  | complete now taskId w k => exact take_row h str (.complete now taskId w k) rfl rolledBack
  | fail now taskId w k error => exact take_row h str (.fail now taskId w k error) rfl rolledBack
  | cancel now taskId => exact take_row h str (.cancel now taskId) rfl rolledBack
  | reapExpiredLeases now order queue =>
    obtain ⟨count, b', hrun, hplain, hagenda⟩ := agenda_reapExpiredLeases h hfair.2 hrefers
    have hmethod : (method none str (.reapExpiredLeases now order queue)).run b =
        .ok (.reaped count) b' :=
      run_bind_of_ok hrun
    simp only [exec, hmethod]
    exact ⟨hplain, rfl, hagenda⟩

end SqlBackend

/-- What is compared of a task. -/
structure TaskView where
  status : TaskStatus
  attempt : Int
  workerId : Option String
  fencingToken : Int
  deriving DecidableEq, Repr

def InMemoryTask.view (t : InMemoryTask) : TaskView :=
  ⟨t.status, t.attempt, t.workerId, t.fencingToken⟩

def TaskHash.view (t : TaskHash) : TaskView := ⟨t.status, t.attempt, t.owner, t.fencingToken⟩

def TaskRow.view (t : TaskRow) : TaskView := ⟨t.status, t.attempt, t.workerId, t.fencingToken⟩

def Job.view (job : Job) : TaskView :=
  ⟨job.state.status, job.state.attempt, job.state.workerId, job.state.fencingToken⟩

/-- One backend of each kind. -/
structure Backends where
  memory : InMemoryTaskBackend
  redis : RedisStore
  sql : SqlBackend

/-- A call, and whether the caller of the SQLAlchemy backend rolls back when it raises. -/
structure BackendCall where
  call : DurableCall
  rolledBack : Bool

/-- What the three backends report. -/
structure Outcomes where
  memory : Agenda.Outcome
  redis : Agenda.Outcome
  sql : Agenda.Outcome
  deriving DecidableEq, Repr

namespace Backends

/-- No tasks; the other tables of the database are given. -/
def init (database : Database) (runs : Dict Int Domain.Run) (attempts : Dict Int Domain.RunAttempt)
    (events : Dict EventKey Event) : Backends where
  memory := .init
  redis := .empty
  sql :=
    { SqlBackend.empty with
      runs := runs
      attempts := attempts
      events := events
      database := database }

section

variable (score : Int → Time → ℚ) (str : PyValue → String) (scripts : Bool)

/-- The same call on each backend. -/
def exec (b : Backends) (c : BackendCall) : Outcomes × Backends :=
  let memory := b.memory.exec c.call.toCall
  let redis := RedisTaskBackend.exec score str scripts b.redis c.call
  let sql := SqlBackend.exec none str b.sql (.call c.rolledBack c.call)
  (⟨.ofReply memory.1, .of TaskHash.taskId redis.1, .of SqlSnapshot.taskId sql.1⟩,
    ⟨memory.2, redis.2, sql.2⟩)

/-- The call is fair, and the database has what it refers to and room for its events. -/
def Fair (tenantId projectId : Int) (b : Backends) (c : BackendCall) : Prop :=
  b.sql.agenda.Fair score tenantId projectId c.call ∧ b.sql.Refers tenantId projectId c.call

/-- The three report the same, and have the same tasks afterwards. -/
structure Agree (e : Entry Backends BackendCall Outcomes) : Prop where
  redis : e.reply.redis = e.reply.memory
  sql : e.reply.sql = e.reply.memory
  redisTasks : ∀ id, (e.after.redis.tasks.get? id).map TaskHash.view =
    (e.after.memory.tasks.get? id).map InMemoryTask.view
  sqlTasks : ∀ id, (e.after.sql.tasks.get? id).map TaskRow.view =
    (e.after.memory.tasks.get? id).map InMemoryTask.view

/-- All three keep the agenda of the task table. -/
structure InStep (tenantId projectId : Int) (b : Backends) : Prop where
  memory : b.memory.Shows b.sql.agenda
  redis : b.redis.Shows score b.sql.agenda
  sql : b.sql.Plain tenantId projectId

end

variable {score : Int → Time → ℚ} {str : PyValue → String} {scripts : Bool}
  {tenantId projectId : Int}

theorem InStep.memory_view {b : Backends} (h : InStep score tenantId projectId b) (id : Int) :
    (b.sql.agenda.jobs id).map Job.view = (b.memory.tasks.get? id).map InMemoryTask.view := by
  cases ht : b.memory.tasks.get? id with
  | none => rw [h.memory.missing ht]; rfl
  | some t =>
    obtain ⟨job, hjob, his⟩ := h.memory.job ht
    rw [hjob, Option.map_some, Job.view, his.status, his.attempt, his.workerId, his.fencingToken]
    rfl

theorem inStep_init {database : Database} {runs : Dict Int Domain.Run}
    {attempts : Dict Int Domain.RunAttempt} {events : Dict EventKey Event}
    (hevents : SqlBackend.EventsLive events) :
    InStep score tenantId projectId (init database runs attempts events) := by
  refine ⟨?_, ?_, ?_⟩
  · exact InMemoryTaskBackend.shows_init
  · exact RedisStore.shows_empty
  · exact SqlBackend.plain_empty.of_sameTask (fun id row hrow => ⟨row, hrow, .refl row⟩) hevents

/-- A fair call has one outcome on the agenda, so the three are in step afterwards. -/
theorem InStep.exec {b : Backends} (h : InStep score tenantId projectId b) {c : BackendCall}
    (hfair : Fair score tenantId projectId b c) :
    InStep score tenantId projectId (exec score str scripts b c).2 ∧
      Agree (entry (exec score str scripts) b c) := by
  obtain ⟨hplain, hsql⟩ := SqlBackend.does_exec h.sql str c.rolledBack hfair.1 hfair.2
  obtain ⟨a₁, hmemory, hshows₁⟩ := InMemoryTaskBackend.does_exec h.memory hfair.1
  obtain ⟨a₂, hredis, hshows₂⟩ := RedisTaskBackend.does_exec str scripts h.redis hfair.1
  obtain ⟨ho₁, rfl⟩ := Agenda.does_unique hfair.1 hmemory hsql
  obtain ⟨ho₂, rfl⟩ := Agenda.does_unique hfair.1 hredis hsql
  have hafter : InStep score tenantId projectId (Backends.exec score str scripts b c).2 :=
    ⟨hshows₁, hshows₂, hplain⟩
  refine ⟨hafter, ho₂.trans ho₁.symm, ho₁.symm, fun id => ?_, fun id => ?_⟩
  · refine Eq.trans ?_ (hafter.memory_view id)
    rw [hafter.redis.jobs, Option.map_map]
    rfl
  · refine Eq.trans ?_ (hafter.memory_view id)
    show _ =
      (((Backends.exec score str scripts b c).2.sql.tasks.get? id).map TaskRow.job).map Job.view
    rw [Option.map_map]
    rfl

section

variable (score : Int → Time → ℚ) (str : PyValue → String) (scripts : Bool)
  (tenantId projectId : Int) (database : Database) (runs : Dict Int Domain.Run)
  (attempts : Dict Int Domain.RunAttempt) (events : Dict EventKey Event)

end

/-- A task of one run. -/
def oneTask : TaskInput := { runId := some 3, tenantId := some 1, projectId := some 1 }

/-- The task is enqueued and leased. -/
def leased : List BackendCall :=
  [⟨.enqueue 5 oneTask, false⟩, ⟨.lease 7 7 .byKey .byKey "default" "a" 30, false⟩]

/-- It is marked running and completed. -/
def completed : List BackendCall :=
  leased ++ [⟨.markRunning 8 1 "a" 1, false⟩, ⟨.complete 9 1 "a" 1, false⟩]

/-- It is marked running, and its lease ends. -/
def reaped : List BackendCall :=
  leased ++ [⟨.markRunning 8 1 "a" 1, false⟩, ⟨.reapExpiredLeases 40000000 .byKey none, false⟩]

/-- It fails, is leased again, and is cancelled. -/
def cancelled : List BackendCall :=
  leased ++ [⟨.fail 8 1 "a" 1 [], false⟩, ⟨.lease 9 9 .byKey .byKey "default" "b" 30, false⟩,
    ⟨.cancel 10 1, false⟩]

/-- Run 3 in a PostgreSQL database with tenant 1 and project 1. -/
def oneRun : Backends :=
  init (.postgresql [1] [1]) (Dict.empty.set 3 { id := 3, agentId := 1 }) .empty .empty

/-- The backends after some calls. -/
def afterCalls (calls : List BackendCall) : Backends :=
  final (exec exactScore (fun _ => "") true) oneRun calls

theorem fair_enqueue : Fair exactScore 1 1 oneRun ⟨.enqueue 5 oneTask, false⟩ := by
  refine ⟨⟨rfl, by decide, rfl, rfl, rfl, rfl, rfl, rfl⟩, ?_⟩
  rintro _ ⟨⟩
  rfl

/-- A lease of the one task, while it is not running. -/
theorem fair_lease (calls : List BackendCall) {row : TaskRow}
    (h : (afterCalls calls).sql.tasks.rows.entries = [(1, row)]) (hat : row.scheduledAt = none)
    (hstatus : row.status ≠ .running) {now : Time} (hheld : ¬ row.Expired now) (w : String) :
    Fair exactScore 1 1 (afterCalls calls) ⟨.lease now now .byKey .byKey "default" w 30, false⟩ := by
  have hone : ∀ id found, (afterCalls calls).sql.tasks.get? id = some found →
      (id, found) = (1, row) := by
    intro id found hfound
    have hmem := (Dict.get?_eq_some_iff _).mp hfound
    rw [h] at hmem
    exact List.mem_singleton.mp hmem
  have hnone : (afterCalls calls).sql.expired now .byKey = [] := by
    refine List.eq_nil_iff_forall_not_mem.mpr fun id hid => ?_
    obtain ⟨found, hfound, hexpired⟩ := SqlBackend.mem_expired.mp hid
    cases hone id found hfound
    exact hheld hexpired
  refine ⟨Agenda.fair_lease_of_single 1 (fun id job hjob => ?_) 1 1 now now .byKey .byKey w 30, ?_⟩
  · obtain ⟨found, hfound, rfl⟩ := Option.map_eq_some_iff.mp hjob
    cases hone id found hfound
    exact ⟨rfl, hat, hstatus⟩
  · show SqlBackend.Fits _ (SqlBackend.expired _ now .byKey)
    rw [hnone]
    exact fun runId i hi => absurd hi (Nat.not_lt_zero i)

end Backends

end DimooRun.Scheduler
