/-
  Worker/Closing.lean --- the beginning and the closing of an execution.

  `begin` brings the task, the run and a new attempt to running, or raises before
  anything is appended. A closing sequence writes the run and the attempt, appends
  the executor's last events, and then hands the task back to the backend; only
  that last call can still fail, and it is decided by the status the task has.
-/
import DimooRun.Worker.Execution

set_option autoImplicit false

namespace DimooRun.Worker

open Foundation Observability DimooRun.Runtime Scheduler Streaming InMemoryRunStore
open InMemoryTaskBackend WorkerExecutor

/-! ## Closing sequences -/

/-- What a closing sequence has written when it comes to the backend: the statuses
of run and attempt, and events of the executor of the given types. -/
structure Recorded (leased : TaskSnapshot) (attemptId : Int) (s s' : ExecState)
    (runStatus : RunStatus) (attemptStatus : RunAttemptStatus) (types : List String) : Prop where
  backend : s'.stores.backend = s.stores.backend
  active : s'.active = s.active
  run : ∃ run, s'.stores.runStore.runs.get? leased.runId = some run ∧ run.status = runStatus
  attempt : ∃ attempt, s'.stores.runStore.attempts.get? attemptId = some attempt ∧
    attempt.status = attemptStatus
  appended : s'.appended = s.appended ++
    types.map (Append.mk .executor (some leased.taskId) leased.runId attemptId)

theorem Engaged.recorded {w : String} {leased : TaskSnapshot} {attemptId : Int}
    {status : TaskStatus} {s : ExecState} (h : Engaged w leased attemptId status s) :
    Recorded leased attemptId s s .running .running [] :=
  ⟨rfl, rfl, h.run, h.attempt, (List.append_nil _).symm⟩

section

variable (ex : WorkerExecutor) {w : String} {leased : TaskSnapshot} {attemptId : Int}
  {s s' : ExecState} {runStatus : RunStatus} {attemptStatus : RunAttemptStatus}
  {types : List String}

/-- The attempt, so far running, ends. -/
theorem Recorded.endAttempt (h : Recorded leased attemptId s s' runStatus .running types)
    {ending : StoreM Unit} {target : RunAttemptStatus} {write : RuntimeAttempt → RuntimeAttempt}
    (hending : ending = finishAttempt target write attemptId)
    (hwrite : ∀ a, (write a).status = a.status)
    (htarget : target ∈ runAttemptTransitions .running) :
    ∃ s'', (runStore ending).run s' = .ok () s'' ∧
      Recorded leased attemptId s s'' runStatus target types := by
  subst hending
  obtain ⟨attempt, hattempt, hrunning⟩ := h.attempt
  refine ⟨_, run_runStore_of_ok
    (run_finishAttempt_of_running hattempt hrunning htarget),
    h.backend, h.active, h.run, ?_, h.appended⟩
  exact ⟨_, Dict.get?_set_self _ _ _, hwrite _⟩

/-- The run, so far running, ends. -/
theorem Recorded.endRun (h : Recorded leased attemptId s s' .running attemptStatus types)
    {ending : StoreM Unit} {target : RunStatus} {write : RuntimeRun → RuntimeRun}
    (hending : ending = finishRun target write leased.runId)
    (hwrite : ∀ r, (write r).status = r.status) (htarget : target ∈ runTransitions .running) :
    ∃ s'', (runStore ending).run s' = .ok () s'' ∧
      Recorded leased attemptId s s'' target attemptStatus types := by
  subst hending
  obtain ⟨run, hrun, hrunning⟩ := h.run
  refine ⟨_, run_runStore_of_ok
    (run_finishRun_of_running hrun hrunning htarget),
    h.backend, h.active, ?_, h.attempt, h.appended⟩
  exact ⟨_, Dict.get?_set_self _ _ _, hwrite _⟩

theorem Recorded.held (hheld : Held leased.taskId w leased.fencingToken s)
    (h : Recorded leased attemptId s s' runStatus attemptStatus types) :
    Held leased.taskId w leased.fencingToken s' where
  under := h.active ▸ hheld.under
  stored := h.backend ▸ hheld.stored

/-- An event of the executor is appended. -/
theorem Recorded.emit (hheld : Held leased.taskId w leased.fencingToken s)
    (h : Recorded leased attemptId s s' runStatus attemptStatus types) (type : String)
    (payload : PyDict) (hpayload : ∀ kv ∈ payload, kv.2.Encodable) :
    ∃ s'', (ex.emit leased.runId attemptId type payload).run s' = .ok () s'' ∧
      Recorded leased attemptId s s'' runStatus attemptStatus (types ++ [type]) := by
  obtain ⟨replayBuffer, hrun⟩ := run_append_of_encodable ex (h.held hheld) .executor leased.runId
    attemptId { type := type, payload := payload }
    (encodable_tracedPayload ex hpayload s'.active)
  refine ⟨_, hrun, h.backend, h.active, h.run, h.attempt, ?_⟩
  simp only [ExecState.withAppend, h.appended, List.map_append, List.map_cons, List.map_nil,
    List.append_assoc]

end

section

variable (ex : WorkerExecutor) (locals : Locals) {status : TaskStatus} {s : ExecState}

/-- The execution returns with the given status. -/
def returned (locals : Locals) (status : ExecutionStatus) : Progress :=
  .returned
    (some
      { taskId := locals.leased.taskId
        runId := locals.leased.runId
        attemptId := locals.attemptId
        status := status })

/-- The task goes back to the backend, and the call returns. -/
def handBack (hand : BackendM Unit) (outcome : ExecutionStatus) : ExecM Progress := do
  taskBackend hand
  clearActiveLease
  pure (returned locals outcome)

/-- What `finish` leaves to do when it comes to the backend. -/
def completeTask : ExecM Progress :=
  handBack locals (complete locals.leased.taskId ex.workerId locals.leased.fencingToken) .succeeded

variable {result : AgentResult} {t : InMemoryTask} {error : PyDict} {outcome : ExecutionStatus}

section

variable (h : Engaged ex.workerId locals.leased locals.attemptId status s)

include h

/-- `finish` ends run and attempt as succeeded before it appends anything. -/
theorem run_finish_recorded (result : AgentResult) :
    ∃ s', Recorded locals.leased locals.attemptId s s' .succeeded .succeeded [] ∧
      (ex.finish locals result).run s = (do
        ex.emit locals.leased.runId locals.attemptId "run.completed"
          [("output", .dict result.output)]
        ex.emit locals.leased.runId locals.attemptId "stream.completed" []
        completeTask ex locals : ExecM Progress).run s' := by
  obtain ⟨s₁, hrun₁, h₁⟩ := h.recorded.endRun
    (rfl : finishRun .succeeded (fun run => { run with output := some result.output }) _ = _)
    (fun _ => rfl) (by simp [runTransitions])
  obtain ⟨s₂, hrun₂, h₂⟩ := h₁.endAttempt (rfl : finishAttempt .succeeded id _ = _)
    (fun _ => rfl) (by simp [runAttemptTransitions])
  refine ⟨s₂, h₂, ?_⟩
  refine (run_bind_of_ok h.held.assertActiveFencing).trans ?_
  refine (run_bind_of_ok hrun₁).trans ?_
  exact run_bind_of_ok hrun₂

/-- With an output the encoder accepts, `finish` gets to the backend. -/
theorem run_finish (houtput : (PyValue.dict result.output).Encodable) :
    ∃ s', Recorded locals.leased locals.attemptId s s' .succeeded .succeeded
        ["run.completed", "stream.completed"] ∧
      (ex.finish locals result).run s = (completeTask ex locals).run s' := by
  obtain ⟨s₂, h₂, hfinish⟩ := run_finish_recorded ex locals h result
  obtain ⟨s₃, hrun₃, h₃⟩ := h₂.emit ex h.held "run.completed"
    [("output", .dict result.output)] (by simpa using houtput)
  obtain ⟨s₄, hrun₄, h₄⟩ := h₃.emit ex h.held "stream.completed" [] (by simp)
  refine ⟨s₄, h₄, ?_⟩
  rw [hfinish, run_bind_of_ok hrun₃, run_bind_of_ok hrun₄]

/-- With an output the encoder refuses, `finish` raises once run and attempt are
succeeded, and never gets to the backend. -/
theorem run_finish_of_not_encodable {context : RuntimeContext}
    (hcontext : s.active.context = some context)
    (houtput : ¬ (PyValue.dict result.output).Encodable) :
    ∃ e s', Recorded locals.leased locals.attemptId s s' .succeeded .succeeded [] ∧
      (ex.finish locals result).run s = .error e s' := by
  obtain ⟨s₂, h₂, hfinish⟩ := run_finish_recorded ex locals h result
  have hcontext₂ : s₂.active.context = some context := h₂.active ▸ hcontext
  have hpayload : ¬ (PyValue.dict
      (ex.tracedPayload s₂.active [("output", .dict result.output)])).Encodable := by
    intro hencodable
    have hstorable := (encodable_tracedPayload_iff ex hcontext₂
      { type := "run.completed", payload := [("output", .dict result.output)] }).mp hencodable
    exact houtput (hstorable ("output", .dict result.output) (by simp) (by simp [traceKeys]))
  obtain ⟨cls, hrun₃⟩ := run_append_of_not_encodable ex (h₂.held h.held) .executor
    locals.leased.runId locals.attemptId
    { type := "run.completed", payload := [("output", .dict result.output)] } hpayload
  exact ⟨.notSerializable cls, s₂, h₂, hfinish.trans (run_bind_of_error hrun₃)⟩

end

/-- What a handler leaves to do when it comes to the backend. -/
def failTask (error : PyDict) (outcome : ExecutionStatus) : ExecM Progress :=
  handBack locals (fail locals.leased.taskId ex.workerId locals.leased.fencingToken error) outcome

/-- The statuses and events a handler leaves, by whether the task will be retried. -/
structure GivenUp (s s' : ExecState) (runStatus : RunStatus)
    (attemptStatus : RunAttemptStatus) (attemptEvent runEvent : String) : Prop where
  retried : locals.leased.attempt + 1 < locals.leased.maxAttempts →
    Recorded locals.leased locals.attemptId s s' .running attemptStatus
      [attemptEvent, "task.retrying"]
  ended : ¬ locals.leased.attempt + 1 < locals.leased.maxAttempts →
    Recorded locals.leased locals.attemptId s s' runStatus attemptStatus
      [attemptEvent, runEvent, "stream.failed"]

theorem run_willRetry {w : String} {leased : TaskSnapshot} {attemptId : Int}
    (h : Engaged w leased attemptId status s) :
    (willRetry leased.taskId).run s.stores.backend =
      .ok (decide (leased.attempt + 1 < leased.maxAttempts)) s.stores.backend := by
  obtain ⟨t, ht, _, _, _, hattempt, hmax⟩ := h.task
  unfold willRetry
  rw [run_withTask_of_some _ ht]
  simp only [EStateM.run_bind, EStateM.run_get, EStateM.run_pure, hattempt, hmax,
    Dict.set_eq_self ht]

/-- The status an ended run has, by what the call reports. -/
def ExecutionStatus.runStatus : ExecutionStatus → RunStatus
  | .succeeded => .succeeded
  | .failed => .failed
  | .timeout => .timeout

/-- The status an ended attempt has, by what the call reports. -/
def ExecutionStatus.attemptStatus : ExecutionStatus → RunAttemptStatus
  | .succeeded => .succeeded
  | .failed => .failed
  | .timeout => .timeout

/-- A handler ends the attempt, and the run unless the task is retried, and gets to
the backend. -/
theorem run_giveUp {endAttempt endRun : Int → PyDict → StoreM Unit}
    (attemptEvent runEvent : String) (outcome : ExecutionStatus)
    (h : Engaged ex.workerId locals.leased locals.attemptId status s)
    (herror : ∀ kv ∈ error, kv.2.Encodable)
    (hendAttempt : endAttempt locals.attemptId error = finishAttempt outcome.attemptStatus
      (fun attempt => { attempt with error := some error }) locals.attemptId)
    (hendRun : endRun locals.leased.runId error = finishRun outcome.runStatus
      (fun run => { run with error := some error }) locals.leased.runId) :
    ∃ s', GivenUp locals s s' outcome.runStatus outcome.attemptStatus attemptEvent runEvent ∧
      (ex.giveUp locals error endAttempt endRun attemptEvent runEvent outcome).run s =
        (failTask ex locals error outcome).run s' := by
  have hrunTarget : outcome.runStatus ∈ runTransitions .running := by
    cases outcome <;> simp [ExecutionStatus.runStatus, runTransitions]
  have hattemptTarget : outcome.attemptStatus ∈ runAttemptTransitions .running := by
    cases outcome <;> simp [ExecutionStatus.attemptStatus, runAttemptTransitions]
  obtain ⟨s₁, hrun₁, h₁⟩ := h.recorded.endAttempt hendAttempt (fun _ => rfl) hattemptTarget
  obtain ⟨s₂, hrun₂, h₂⟩ := h₁.emit ex h.held attemptEvent error herror
  have hretry : (taskBackend (willRetry locals.leased.taskId)).run s₂ =
      .ok (decide (locals.leased.attempt + 1 < locals.leased.maxAttempts)) s₂ := by
    have hrun := run_willRetry h
    rw [← h₂.backend] at hrun
    exact run_taskBackend_of_ok hrun
  have hopen : (ex.giveUp locals error endAttempt endRun attemptEvent runEvent outcome).run s = _ :=
    ((run_bind_of_ok h.held.assertActiveFencing).trans (run_bind_of_ok hrun₁)).trans
      ((run_bind_of_ok hrun₂).trans (run_bind_of_ok hretry))
  rw [hopen]
  by_cases hmore : locals.leased.attempt + 1 < locals.leased.maxAttempts
  · obtain ⟨s₃, hrun₃, h₃⟩ := h₂.emit ex h.held "task.retrying" error herror
    refine ⟨s₃, ⟨fun _ => h₃, fun hnot => absurd hmore hnot⟩, ?_⟩
    simp only [hmore, decide_true, Bool.true_eq_false, if_false]
    exact run_bind_of_ok hrun₃
  · obtain ⟨s₃, hrun₃, h₃⟩ := h₂.endRun hendRun (fun _ => rfl) hrunTarget
    obtain ⟨s₄, hrun₄, h₄⟩ := h₃.emit ex h.held runEvent error herror
    obtain ⟨s₅, hrun₅, h₅⟩ := h₄.emit ex h.held "stream.failed" error herror
    refine ⟨s₅, ⟨fun hyes => absurd hyes hmore, fun _ => h₅⟩, ?_⟩
    simp only [hmore, decide_false, if_true]
    refine (run_bind_of_ok hrun₃).trans ?_
    refine (run_bind_of_ok hrun₄).trans ?_
    exact run_bind_of_ok hrun₅

/-- The exceptions that the handlers turn into a report: any but fencing errors
among the ordinary ones, and timeouts. -/
def PyException.Reported (e : PyException) : Prop := e.kind = .ordinary ∨ e.kind = .timeout

instance (e : PyException) : Decidable e.Reported := inferInstanceAs (Decidable (_ ∨ _))

/-- The handlers of reported exceptions get to the backend. -/
theorem run_handle {e : PyException} (he : e.Reported)
    (h : Engaged ex.workerId locals.leased locals.attemptId status s) :
    ∃ error outcome attemptEvent runEvent s', outcome ≠ .succeeded ∧
      (attemptEvent = "attempt.failed" ∨ attemptEvent = "attempt.timeout") ∧
      (runEvent = "run.failed" ∨ runEvent = "run.timeout") ∧
      GivenUp locals s s' outcome.runStatus outcome.attemptStatus attemptEvent runEvent ∧
      (ex.handle locals e).run s = (failTask ex locals error outcome).run s' := by
  rcases he with hkind | hkind
  · have hhandle : ex.handle locals e = ex.onException locals e := by
      simp only [handle, hkind]
    obtain ⟨s', hgiven, hrun⟩ := run_giveUp ex locals "attempt.failed" "run.failed" .failed h
      (show ∀ kv ∈ failureError e, _ by simp [failureError]) (show failAttempt _ _ = _ from rfl)
      (show failRun _ _ = _ from rfl)
    rw [hhandle]
    exact ⟨_, .failed, _, _, s', by simp, Or.inl rfl, Or.inl rfl, hgiven, hrun⟩
  · have hhandle : ex.handle locals e = ex.onTimeout locals e := by
      simp only [handle, hkind]
    obtain ⟨s', hgiven, hrun⟩ := run_giveUp ex locals "attempt.timeout" "run.timeout" .timeout h
      (show ∀ kv ∈ timeoutError e, _ by simp [timeoutError])
      (show timeoutAttempt _ _ = _ from rfl) (show timeoutRun _ _ = _ from rfl)
    rw [hhandle]
    exact ⟨_, .timeout, _, _, s', by simp, Or.inr rfl, Or.inr rfl, hgiven, hrun⟩

/-! ## Handing the task back -/

variable {s' : ExecState}

/-- The task of an execution in progress, as the backend has it. -/
theorem Engaged.task_of_recorded {w : String} {leased : TaskSnapshot} {attemptId : Int}
    {runStatus : RunStatus} {attemptStatus : RunAttemptStatus} {types : List String}
    (h : Engaged w leased attemptId status s)
    (hrecorded : Recorded leased attemptId s s' runStatus attemptStatus types) :
    ∃ t, s'.stores.backend.tasks.get? leased.taskId = some t ∧
      t.fencingToken = leased.fencingToken ∧ t.workerId = some w ∧ t.status = status ∧
      t.attempt = leased.attempt ∧ t.maxAttempts = leased.maxAttempts :=
  hrecorded.backend ▸ h.task

/-- The stores after the backend has the task back: only the task and the
dead-letter list can differ. -/
structure HandedBack (id : Int) (s s' : ExecState) (t' : InMemoryTask) : Prop where
  tasks : s'.stores.backend.tasks = s.stores.backend.tasks.set id t'
  nextId : s'.stores.backend.nextId = s.stores.backend.nextId
  runStore : s'.stores.runStore = s.stores.runStore
  appended : s'.appended = s.appended

section

variable (ht : s.stores.backend.tasks.get? locals.leased.taskId = some t)
  (htoken : t.fencingToken = locals.leased.fencingToken) (hworker : t.workerId = some ex.workerId)
include ht htoken hworker

/-- A running task is completed. -/
theorem run_completeTask_of_running (hstatus : t.status = .running) :
    ∃ s', (completeTask ex locals).run s = .ok (returned locals .succeeded) s' ∧
      HandedBack locals.leased.taskId s s' { t with status := .succeeded } := by
  have hrun : (complete locals.leased.taskId ex.workerId
      locals.leased.fencingToken).run s.stores.backend =
      .ok ()
        { s.stores.backend with
          tasks := s.stores.backend.tasks.set locals.leased.taskId
            { t with status := .succeeded } } := by
    unfold complete
    rw [run_withTask_of_some _ ht, InMemoryTask.run_complete,
      if_neg (not_not.mpr htoken), if_neg (not_not.mpr hworker), if_pos hstatus]
  exact ⟨_, run_bind_of_ok (run_taskBackend_of_ok hrun), rfl, rfl, rfl, rfl⟩

/-- A task that is not running is refused. -/
theorem run_completeTask_of_not_running (hstatus : t.status ≠ .running) :
    ∃ e, (completeTask ex locals).run s = .error e s := by
  have hrefused : (InMemoryTask.complete ex.workerId locals.leased.fencingToken).run t =
      .error (refused t.status .succeeded) t := by
    rw [InMemoryTask.run_complete, if_neg (not_not.mpr htoken), if_neg (not_not.mpr hworker),
      if_neg hstatus]
  exact ⟨_, run_bind_of_error (run_taskBackend_of_error (run_withTask_of_error ht hrefused))⟩

/-- The task after a failed execution. -/
def failedTask (t : InMemoryTask) (error : PyDict) : InMemoryTask :=
  if t.attempt + 1 < t.maxAttempts then
    { t with
      status := .queued
      attempt := t.attempt + 1
      workerId := none
      leasedUntil := none
      error := some error }
  else
    { t with status := .deadLetter, error := some error }

/-- A running task is failed: queued again, or dead-lettered. -/
theorem run_failTask_of_running (hstatus : t.status = .running) :
    ∃ s', (failTask ex locals error outcome).run s = .ok (returned locals outcome) s' ∧
      HandedBack locals.leased.taskId s s' (failedTask t error) := by
  have hfail : ∃ b, (fail locals.leased.taskId ex.workerId
      locals.leased.fencingToken error).run s.stores.backend = .ok () b ∧
      b.tasks = s.stores.backend.tasks.set locals.leased.taskId (failedTask t error) ∧
      b.nextId = s.stores.backend.nextId := by
    unfold fail
    rw [EStateM.run_bind, run_withTask_of_some _ ht, InMemoryTask.run_fail,
      if_neg (not_not.mpr htoken), if_neg (not_not.mpr hworker), if_pos (Or.inr hstatus)]
    unfold failedTask
    by_cases hmore : t.attempt + 1 < t.maxAttempts
    · rw [if_neg (not_le.mpr hmore), if_pos hmore]
      exact ⟨_, rfl, rfl, rfl⟩
    · rw [if_pos (not_lt.mp hmore), if_neg hmore]
      exact ⟨_, rfl, rfl, rfl⟩
  obtain ⟨b, hrun, htasks, hnext⟩ := hfail
  exact ⟨_, run_bind_of_ok (run_taskBackend_of_ok hrun), htasks, hnext, rfl, rfl⟩

/-- A cancelled task is refused. -/
theorem run_failTask_of_cancelled (hstatus : t.status = .cancelled) :
    ∃ e, (failTask ex locals error outcome).run s = .error e s := by
  have hrefused : (InMemoryTask.fail ex.workerId locals.leased.fencingToken error).run t =
      .error (refused t.status .failed) t := by
    rw [InMemoryTask.run_fail, if_neg (not_not.mpr htoken), if_neg (not_not.mpr hworker),
      if_neg (by simp [hstatus])]
  have hrun : (fail locals.leased.taskId ex.workerId
      locals.leased.fencingToken error).run s.stores.backend =
      .error (refused t.status .failed) s.stores.backend :=
    run_bind_of_error (run_withTask_of_error ht hrefused)
  exact ⟨_, run_bind_of_error (run_taskBackend_of_error hrun)⟩

end

end

/-! ## The beginning -/

/-- The backend has just leased the task to worker `w`. -/
def Granted (w : String) (leased : TaskSnapshot) (b : InMemoryTaskBackend) : Prop :=
  ∃ t, b.tasks.get? leased.taskId = some t ∧ t.status = .leased ∧ t.workerId = some w ∧
    t.fencingToken = leased.fencingToken ∧ t.attempt = leased.attempt ∧
    t.maxAttempts = leased.maxAttempts

variable {b b' : InMemoryTaskBackend} {id : Int}

theorem granted_of_lease {now reapNow : Time} {queue w : String} {n : Int} {leased : TaskSnapshot}
    (hsound : b.Sound)
    (hrun : (lease now reapNow queue w n).run b = .ok (some leased) b') :
    Granted w leased b' := by
  obtain ⟨_, t, _, ht, _, hstatus, hworker, htoken, _, hattempt, hmax⟩ :=
    token_lt_lease hsound hrun
  exact ⟨t, ht, hstatus, hworker, htoken, hattempt, hmax⟩

/-- Only task `id` may differ. -/
def OnlyTask (id : Int) (b b' : InMemoryTaskBackend) : Prop :=
  ∀ id', id' ≠ id → b'.tasks.get? id' = b.tasks.get? id'

theorem onlyTask_set {t : InMemoryTask} (h : b'.tasks = b.tasks.set id t) : OnlyTask id b b' := by
  intro id' hne
  rw [h, Dict.get?_set_ne _ _ hne]

theorem OnlyTask.trans {b'' : InMemoryTaskBackend} (h : OnlyTask id b b') (h' : OnlyTask id b' b'') :
    OnlyTask id b b'' :=
  fun id' hne => (h' id' hne).trans (h id' hne)

/-- Only events of task `id` that do not end its stream were appended. -/
def AppendedFor (id : Int) (s s' : ExecState) : Prop :=
  ∃ l, s'.appended = s.appended ++ l ∧ ∀ a ∈ l, a.taskId = some id ∧ ¬ a.Terminal

theorem AppendedFor.trans {s s' s'' : ExecState} (h : AppendedFor id s s')
    (h' : AppendedFor id s' s'') : AppendedFor id s s'' :=
  appended_trans h h'

section

variable (ex : WorkerExecutor) {leased : TaskSnapshot} {s : ExecState}

/-- What `begin` passes on: the locals of the call. -/
def localsOf (leased : TaskSnapshot) (s : ExecState) : Locals :=
  { leased := leased, attemptId := s.stores.runStore.nextAttemptId }

/-- A state of the execution of `leased` that began in `s`, after `n` cancellations. -/
structure Amid (ex : WorkerExecutor) (leased : TaskSnapshot) (s : ExecState) (n : Nat)
    (s' : ExecState) : Prop where
  engaged : Engaged ex.workerId leased (localsOf leased s).attemptId (statusAfter n) s'
  appended : AppendedFor leased.taskId s s'
  only : OnlyTask leased.taskId s.stores.backend s'.stores.backend

variable {ex} in
/-- Up to the closing only events are appended, and others only cancel the task. -/
theorem Amid.of_shaken {n : Nat} {s₁ s₂ : ExecState} (h : Amid ex leased s 0 s₁)
    (hshaken : Shaken leased.taskId n s₁ s₂) : Amid ex leased s n s₂ where
  engaged := h.engaged.of_shaken hshaken
  appended := by
    obtain ⟨l, hl, hall⟩ := hshaken.appended
    rw [h.engaged.under.taskId] at hall
    exact h.appended.trans ⟨l, hl, hall⟩
  only := by
    obtain ⟨t, ht, _⟩ := h.engaged.task
    obtain ⟨_, hfinal, _⟩ := final_cancels leased.taskId n ht
    rw [← hshaken.backend] at hfinal
    exact h.only.trans (onlyTask_set (congrArg InMemoryTaskBackend.tasks hfinal))

section

variable (h : Granted ex.workerId leased s.stores.backend)

include h

/-- The state after the task is marked running and the lease is noted. -/
theorem run_markRunning_of_granted : ∃ t, t.status = .running ∧ t.workerId = some ex.workerId ∧
      t.fencingToken = leased.fencingToken ∧ t.attempt = leased.attempt ∧
      t.maxAttempts = leased.maxAttempts ∧
      (markRunning leased.taskId ex.workerId leased.fencingToken).run s.stores.backend = .ok ()
          { s.stores.backend with tasks := s.stores.backend.tasks.set leased.taskId t } := by
  obtain ⟨t, ht, hstatus, hworker, htoken, hattempt, hmax⟩ := h
  refine ⟨{ t with status := .running }, rfl, hworker, htoken, hattempt, hmax, ?_⟩
  unfold markRunning
  rw [run_withTask_of_some _ ht, InMemoryTask.run_markRunning,
    if_neg (not_not.mpr hworker), if_neg (not_not.mpr htoken), if_pos hstatus]

/-- `begin` raises when the run is missing or over; the task and a new attempt are
running then, and nothing was appended. -/
theorem begin_of_not_startable (hrun : ∀ run, s.stores.runStore.runs.get? leased.runId = some run →
      ¬ InMemoryRunStore.Startable run.status) :
    ∃ e s', (ex.begin leased).run s = .error e s' ∧ s'.appended = s.appended ∧
      s'.stores.runStore.runs = s.stores.runStore.runs ∧
      (∃ attempt, s'.stores.runStore.attempts.get? (localsOf leased s).attemptId =
        some attempt ∧ attempt.status = .running ∧ attempt.runId = leased.runId) ∧
      (∃ t, s'.stores.backend.tasks.get? leased.taskId = some t ∧ t.status = .running) ∧
      OnlyTask leased.taskId s.stores.backend s'.stores.backend := by
  obtain ⟨t, hstatus, _, _, _, _, hmark⟩ := run_markRunning_of_granted ex h
  have hopen : (ex.begin leased).run s = _ := run_bind_of_ok (run_taskBackend_of_ok hmark)
  rw [hopen, EStateM.run_bind]
  have hcreate : ∃ e, (createAttempt leased.runId leased.taskId
      ex.workerId).run s.stores.runStore =
      .error e (s.stores.runStore.withAttempt
        (s.stores.runStore.newAttempt leased.runId leased.taskId ex.workerId)) := by
    rw [run_createAttempt]
    cases hget : s.stores.runStore.runs.get? leased.runId with
    | none => exact ⟨_, rfl⟩
    | some run =>
      simp only [if_neg (hrun run hget)]
      exact ⟨_, rfl⟩
  obtain ⟨e, hcreate⟩ := hcreate
  refine ⟨_, _, run_bind_of_error (run_runStore_of_error hcreate), rfl, rfl, ?_, ?_, ?_⟩
  · exact ⟨_, Dict.get?_set_self _ _ _, rfl, rfl⟩
  · exact ⟨t, Dict.get?_set_self _ _ _, hstatus⟩
  · exact onlyTask_set rfl

/-- The state once the task, now `t`, is marked running and the lease is noted. -/
def marked (leased : TaskSnapshot) (t : InMemoryTask) (s : ExecState) : ExecState :=
  { s with
    stores :=
      { s.stores with
        backend := { s.stores.backend with tasks := s.stores.backend.tasks.set leased.taskId t } }
    active :=
      { s.active with
        taskId := some leased.taskId
        workerId := some ex.workerId
        fencingToken := some leased.fencingToken } }

/-- The state once the attempt is created and the run is running. -/
def begun (leased : TaskSnapshot) (run : RuntimeRun) (t : InMemoryTask) (s : ExecState) :
    ExecState :=
  { marked ex leased t s with
    stores :=
      { (marked ex leased t s).stores with
        runStore :=
          { s.stores.runStore.withAttempt
              (s.stores.runStore.newAttempt leased.runId leased.taskId ex.workerId) with
            runs := s.stores.runStore.runs.set leased.runId { run with status := .running } } } }

/-- On a startable run, `begin` gets to the `try` block with task, run and attempt
running. -/
theorem begin_of_startable {run : RuntimeRun}
    (hrun : s.stores.runStore.runs.get? leased.runId = some run)
    (hstart : InMemoryRunStore.Startable run.status) :
    ∃ s', Amid ex leased s 0 s' ∧
      s'.stores.runStore.runs.get? leased.runId = some { run with status := .running } ∧
      (ex.begin leased).run s =
        (ex.guarded (localsOf leased s) (ex.prepare (localsOf leased s))).run s' := by
  obtain ⟨t, hstatus, hworker, htoken, hattempt, hmax, hmark⟩ := run_markRunning_of_granted ex h
  have hcreate := run_createAttempt leased.runId leased.taskId ex.workerId s.stores.runStore
  simp only [hrun, if_pos hstart] at hcreate
  have hengaged : Engaged ex.workerId leased (localsOf leased s).attemptId .running
      (begun ex leased run t s) := by
    refine ⟨⟨rfl, rfl, rfl⟩, ?_, ?_, ?_⟩
    · exact ⟨t, Dict.get?_set_self _ _ _, htoken, hworker, hstatus, hattempt, hmax⟩
    · exact ⟨_, Dict.get?_set_self _ _ _, rfl⟩
    · exact ⟨_, Dict.get?_set_self _ _ _, rfl⟩
  obtain ⟨replayBuffer, hemit⟩ := run_append_of_encodable ex hengaged.held .executor leased.runId
    (localsOf leased s).attemptId { type := "attempt.started", payload := [] }
    (encodable_tracedPayload ex (by simp) _)
  refine ⟨(begun ex leased run t s).withAppend replayBuffer
    ⟨.executor, some leased.taskId, leased.runId, (localsOf leased s).attemptId, "attempt.started"⟩,
    ⟨⟨hengaged.under, hengaged.task, hengaged.run, hengaged.attempt⟩, ⟨_, rfl, ?_⟩,
      onlyTask_set rfl⟩, Dict.get?_set_self _ _ _, ?_⟩
  · intro a ha
    rw [List.mem_singleton] at ha
    subst ha
    exact ⟨rfl, by simp [Append.Terminal]⟩
  · refine (run_bind_of_ok (run_taskBackend_of_ok hmark)).trans ?_
    refine (run_bind_of_ok (run_runStore_of_ok (s := marked ex leased t s) hcreate)).trans ?_
    exact run_bind_of_ok hemit

end

/-- The `try` block up to the first await: the context is computed, or its exception
closes the call. -/
theorem prepare_cases {run : RuntimeRun} {s₁ : ExecState} (h : Amid ex leased s 0 s₁)
    (hrun : s₁.stores.runStore.runs.get? leased.runId = some run) :
    (∃ e, ex.runtimeContext run leased (localsOf leased s).attemptId = .error e ∧
        (ex.guarded (localsOf leased s) (ex.prepare (localsOf leased s))).run s₁ =
          (ex.handle (localsOf leased s) e).run s₁) ∨
      ∃ context runtimeConfig s₂,
        ex.runtimeContext run leased (localsOf leased s).attemptId = .ok (context, runtimeConfig) ∧
        Amid ex leased s 0 s₂ ∧ s₂.active.context = some context ∧
        (ex.guarded (localsOf leased s) (ex.prepare (localsOf leased s))).run s₁ =
          .ok (.awaiting (localsOf leased s) (.load context runtimeConfig)) s₂ := by
  have hget := run_runStore_of_ok (s := s₁) (run_getRun_of_some hrun)
  have hprepare : (ex.prepare (localsOf leased s)).run s₁ = _ := run_bind_of_ok hget
  unfold guarded
  rw [EStateM.run_bind, run_attempt, hprepare]
  have hlocals : (localsOf leased s).leased = leased := rfl
  rw [hlocals]
  cases ex.runtimeContext run leased (localsOf leased s).attemptId with
  | error e => exact .inl ⟨e, rfl, rfl⟩
  | ok computed =>
    obtain ⟨context, runtimeConfig⟩ := computed
    refine .inr ⟨context, runtimeConfig,
      { s₁ with active := { s₁.active with context := some context } }, rfl, ?_, rfl, rfl⟩
    have hunder := h.engaged.under
    exact ⟨⟨⟨hunder.taskId, hunder.workerId, hunder.fencingToken⟩, h.engaged.task, h.engaged.run,
      h.engaged.attempt⟩, h.appended, h.only⟩

end

/-! ## Whole executions -/

section

variable (ex : WorkerExecutor) {leased : TaskSnapshot} {s : ExecState}

/-- The execution of `leased` comes to a result: the context can be computed, and the
adapter delivers. -/
def Completes (run : RuntimeRun) (leased : TaskSnapshot) (attemptId : Int)
    (behaviour : AdapterBehaviour) (result : AgentResult) : Prop :=
  ∃ context runtimeConfig,
    ex.runtimeContext { run with status := .running } leased attemptId =
      .ok (context, runtimeConfig) ∧
    Delivers ex leased runtimeConfig behaviour result

/-- How an execution of a task with a startable run closes, while others only cancel
it: with the result the adapter delivers, or by an exception. Up to there events
of the task were appended, and no other task was touched. -/
theorem execute_cases (h : Granted ex.workerId leased s.stores.backend) {run : RuntimeRun}
    (hrun : s.stores.runStore.runs.get? leased.runId = some run)
    (hstart : InMemoryRunStore.Startable run.status) {behaviour : AdapterBehaviour}
    {script : Script} (hscript : script.map Prod.snd = behaviour.replies leased)
    {K : PyException → Prop} (hraises : Raises K script)
    (hcontext : ∀ attemptId e,
      ex.runtimeContext { run with status := .running } leased attemptId = .error e → K e)
    (harm : ∀ runtimeConfig e, ex.armTimeout runtimeConfig = .error e → K e) :
    (∃ result context s', Completes ex run leased (localsOf leased s).attemptId behaviour result ∧
        Amid ex leased s script.cancels s' ∧ s'.active.context = some context ∧
        (ex.execute leased (Script.calls script leased.taskId)).run s =
          (ex.finish (localsOf leased s) result).run s') ∨
      ∃ e n s',
        (∀ result, ¬ Completes ex run leased (localsOf leased s).attemptId behaviour result) ∧
        K e ∧ n ≤ script.cancels ∧ Amid ex leased s n s' ∧
        (ex.execute leased (Script.calls script leased.taskId)).run s =
          (ex.handle (localsOf leased s) e).run s' := by
  obtain ⟨s₁, hamid, hrun₁, hbegin⟩ := begin_of_startable ex h hrun hstart
  have hopen : (ex.execute leased (Script.calls script leased.taskId)).run s =
      (ex.guarded (localsOf leased s) (ex.prepare (localsOf leased s)) >>=
        ex.drive (Script.calls script leased.taskId)).run s₁ := by
    unfold execute
    rw [EStateM.run_bind, EStateM.run_bind, hbegin]
  rcases prepare_cases ex hamid hrun₁ with ⟨e, herror, hprepare⟩ |
    ⟨context, runtimeConfig, s₂, hok, hamid₂, hcontext₂, hprepare⟩
  · refine .inr ⟨e, 0, s₁, ?_, hcontext _ e herror, Nat.zero_le _, hamid, ?_⟩
    · rintro result ⟨context, runtimeConfig, hok, _⟩
      cases herror.symm.trans hok
    · rw [hopen, run_drive_of_ended ex fun _ _ _ => hprepare ▸ handle_not_awaiting ex, hprepare]
  · have hdrive := hopen.trans (run_bind_of_ok hprepare)
    have hclose : Closes ex (localsOf leased s) K script.cancels s₂
        (Delivers ex leased runtimeConfig behaviour)
        ((ex.drive (Script.calls script leased.taskId)
          (.awaiting (localsOf leased s) (.load context runtimeConfig))).run s₂) :=
      closes_load hscript hraises (harm runtimeConfig) hamid₂.engaged.held hcontext₂
    rw [← hdrive] at hclose
    have hcompletes : ∀ result,
        Completes ex run leased (localsOf leased s).attemptId behaviour result ↔
          Delivers ex leased runtimeConfig behaviour result := by
      simp [Completes, hok]
    rcases hclose with ⟨result, s', hsuccess, hshaken, hout⟩ |
      ⟨e, n, s', hfail, hk, hle, hshaken, hout⟩
    · exact .inl ⟨result, context, s', (hcompletes result).mpr hsuccess,
        hamid₂.of_shaken hshaken, hshaken.active ▸ hcontext₂, hout⟩
    · exact .inr ⟨e, n, s', fun result hc => hfail result ((hcompletes result).mp hc), hk, hle,
        hamid₂.of_shaken hshaken, hout⟩

end

end DimooRun.Worker
