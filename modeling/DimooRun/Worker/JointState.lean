/-
  Worker/JointState.lean --- run, task and attempt stay in step.

  Without interference a call of `execute_once` on a leased task ends in one of
  three joint states of run, task and attempt, except in one case: the adapter
  delivers a result whose output `json.dumps` refuses. Then the `run.completed`
  event cannot be appended, and that is noticed only after run and attempt were
  set to succeeded; the call raises and the task stays running.
-/
import DimooRun.Worker.Closing
import DimooRun.Worker.StaleWorker

set_option autoImplicit false

namespace DimooRun.Worker

open Foundation Observability DimooRun.Runtime Scheduler Streaming

/-! ## Ordinary behaviour -/

/-- The callbacks of the executor raise ordinary exceptions or timeouts only. -/
structure OrdinaryHost (ex : WorkerExecutor) : Prop where
  resolver : ∀ resolve, ex.runtimeSpecResolver = some resolve →
    ∀ run e, resolve run = .error e → e.Reported
  governance : ∀ factory, ex.governanceBundleFactory = some factory →
    ∀ run context runtimeConfig e, factory run context runtimeConfig = .error e → e.Reported
  float : ∀ value e, ex.float value = .error e → e.Reported

section

variable (behaviour : AdapterBehaviour) (leased : TaskSnapshot)

/-- The adapter raises ordinary exceptions or timeouts only. -/
def AdapterBehaviour.Ordinary : Prop :=
  ∀ reply ∈ [behaviour.load, behaviour.first, behaviour.last], ∀ e, reply = .raised e → e.Reported

theorem reported_armTimeout {ex : WorkerExecutor} (hhost : OrdinaryHost ex)
    (runtimeConfig : PyDict) (e : PyException) (h : ex.armTimeout runtimeConfig = .error e) :
    e.Reported := by
  unfold WorkerExecutor.armTimeout at h
  split at h
  · simp at h
  · split at h
    · rename_i hfloat
      cases h
      exact hhost.float _ _ hfloat
    · simp at h
    · cases h
      exact .inr rfl

theorem reported_runtimeContext {ex : WorkerExecutor} (hhost : OrdinaryHost ex)
    (run : RuntimeRun) (leased : TaskSnapshot) (attemptId : Int) (e : PyException)
    (h : ex.runtimeContext run leased attemptId = .error e) : e.Reported := by
  unfold WorkerExecutor.runtimeContext at h
  simp only [bind, Except.bind] at h
  split at h
  · rename_i hspec
    cases h
    unfold WorkerExecutor.agentSpecForRun at hspec
    split at hspec
    · rename_i resolve hresolve
      exact hhost.resolver resolve hresolve run e hspec
    · unfold WorkerExecutor.agentSpec at hspec
      split at hspec
      · cases hspec
        exact .inl rfl
      · simp at hspec
  · split at h
    · rename_i hadapter
      cases h
      unfold WorkerExecutor.adapter at hadapter
      split at hadapter
      · cases hadapter
        exact .inl rfl
      · simp at hadapter
    · split at h
      · rename_i hbundle
        cases h
        unfold WorkerExecutor.governanceBundle at hbundle
        split at hbundle
        · simp at hbundle
        · rename_i factory hfactory
          exact hhost.governance factory hfactory _ _ _ _ hbundle
      · simp [pure, Except.pure] at h

/-! ## The joint states -/

/-- The answers of an adapter, with no calls of others in between. -/
def undisturbed : List (List Call × AdapterReply) :=
  (behaviour.replies leased).map fun reply => ([], reply)

/-- What a call reports. -/
def reportOf (attemptId : Int) (status : ExecutionStatus) :
    WorkerExecutionResult :=
  { taskId := leased.taskId, runId := leased.runId, attemptId := attemptId, status := status }

/-- The records of a task, its run and its attempt satisfy the three conditions. -/
structure Records (attemptId : Int) (s : ExecState)
    (task : InMemoryTask → Prop) (runStatus : RunStatus) (attemptStatus : RunAttemptStatus) :
    Prop where
  task : ∃ t, s.stores.backend.tasks.get? leased.taskId = some t ∧ task t
  run : ∃ run, s.stores.runStore.runs.get? leased.runId = some run ∧ run.status = runStatus
  attempt : ∃ attempt, s.stores.runStore.attempts.get? attemptId = some attempt ∧
    attempt.status = attemptStatus

end

section

variable (leased : TaskSnapshot) (attemptId : Int)
  (outcome : EStateM.Result PyException ExecState Progress)

/-- The call returned `succeeded`, and run, task and attempt are succeeded. -/
def AllSucceeded : Prop :=
  ∃ s, outcome = .ok (.returned (some (reportOf leased attemptId .succeeded))) s ∧
    Records leased attemptId s (fun t => t.status = .succeeded) .succeeded .succeeded

/-- The call returned `failed` or `timeout`, and the task is queued for another
attempt. -/
def Requeued : Prop :=
  ∃ status s, status ≠ .succeeded ∧
    outcome = .ok (.returned (some (reportOf leased attemptId status))) s ∧
    leased.attempt + 1 < leased.maxAttempts ∧
    Records leased attemptId s
      (fun t => t.status = .queued ∧ t.attempt = leased.attempt + 1 ∧ t.workerId = none)
      .running status.attemptStatus

/-- The call returned `failed` or `timeout`, and the task is dead-lettered. -/
def DeadLettered : Prop :=
  ∃ status s, status ≠ .succeeded ∧
    outcome = .ok (.returned (some (reportOf leased attemptId status))) s ∧
    Records leased attemptId s (fun t => t.status = .deadLetter) status.runStatus
      status.attemptStatus

/-- The call ended in exactly one of the three joint states. -/
def InStep : Prop :=
  (AllSucceeded leased attemptId outcome ∧ ¬ Requeued leased attemptId outcome ∧
      ¬ DeadLettered leased attemptId outcome) ∨
    (Requeued leased attemptId outcome ∧ ¬ AllSucceeded leased attemptId outcome ∧
      ¬ DeadLettered leased attemptId outcome) ∨
    (DeadLettered leased attemptId outcome ∧ ¬ AllSucceeded leased attemptId outcome ∧
      ¬ Requeued leased attemptId outcome)

variable {leased attemptId outcome}

section

variable (h : AllSucceeded leased attemptId outcome)

include h

theorem AllSucceeded.succeeded {status : ExecutionStatus} {s : ExecState}
    (hout : outcome = .ok (.returned (some (reportOf leased attemptId status))) s) :
    status = .succeeded := by
  obtain ⟨s', hout', _⟩ := h
  rw [hout'] at hout
  cases hout
  rfl

theorem AllSucceeded.not_requeued : ¬ Requeued leased attemptId outcome := by
  rintro ⟨status, s, hstatus, hout, _⟩
  exact hstatus (h.succeeded hout)

theorem AllSucceeded.not_deadLettered : ¬ DeadLettered leased attemptId outcome := by
  rintro ⟨status, s, hstatus, hout, _⟩
  exact hstatus (h.succeeded hout)

end

theorem Requeued.not_deadLettered (h : Requeued leased attemptId outcome) :
    ¬ DeadLettered leased attemptId outcome := by
  rintro ⟨status, s, _, hout, hrecords⟩
  obtain ⟨status', s', _, hout', _, hrecords'⟩ := h
  rw [hout'] at hout
  cases hout
  -- one task cannot be both queued and dead-lettered
  obtain ⟨t, ht, hdead⟩ := hrecords.task
  obtain ⟨t', ht', hqueued, _⟩ := hrecords'.task
  rw [ht] at ht'
  cases ht'
  rw [hdead] at hqueued
  simp at hqueued

theorem AllSucceeded.inStep (h : AllSucceeded leased attemptId outcome) :
    InStep leased attemptId outcome :=
  Or.inl ⟨h, h.not_requeued, h.not_deadLettered⟩

theorem Requeued.inStep (h : Requeued leased attemptId outcome) : InStep leased attemptId outcome :=
  Or.inr (Or.inl ⟨h, fun h' => h'.not_requeued h, h.not_deadLettered⟩)

theorem DeadLettered.inStep (h : DeadLettered leased attemptId outcome) :
    InStep leased attemptId outcome :=
  Or.inr (Or.inr ⟨h, fun h' => h'.not_deadLettered h, fun h' => h'.not_deadLettered h⟩)

/-- A call that raised is in none of the joint states. -/
theorem not_inStep_of_error {e : PyException} {s : ExecState} (h : outcome = .error e s) :
    ¬ InStep leased attemptId outcome := by
  rintro (⟨⟨_, hout, _⟩, _⟩ | ⟨⟨_, _, _, hout, _⟩, _⟩ | ⟨⟨_, _, _, hout, _⟩, _⟩) <;>
    · rw [h] at hout
      simp at hout

end

/-! ## One call -/

section

variable (ex : WorkerExecutor) {leased : TaskSnapshot} {s : ExecState}
  {run : RuntimeRun} {behaviour : AdapterBehaviour} {result : AgentResult}

/-- The adapter delivers at most one result. -/
theorem completes_unique {attemptId : Int} {result' : AgentResult}
    (h : Completes ex run leased attemptId behaviour result)
    (h' : Completes ex run leased attemptId behaviour result') : result = result' := by
  obtain ⟨context, runtimeConfig, hok, hdelivers⟩ := h
  obtain ⟨context', runtimeConfig', hok', hdelivers'⟩ := h'
  obtain ⟨_, _, _, hresult⟩ := hdelivers
  obtain ⟨_, _, _, hresult'⟩ := hdelivers'
  by_cases hstream : Streams leased
  · rw [if_pos hstream] at hresult hresult'
    rw [hresult.2.2.2, hresult'.2.2.2]
  · rw [if_neg hstream] at hresult hresult'
    have heq := hresult.1.symm.trans hresult'.1
    exact AdapterReply.result.inj heq

/-- The undisturbed script of an adapter. -/
def quietScript (behaviour : AdapterBehaviour) (leased : TaskSnapshot) : Script :=
  (behaviour.replies leased).map fun reply => (0, reply)

section

variable (behaviour)

theorem undisturbed_eq (leased : TaskSnapshot) (id : Int) :
    undisturbed behaviour leased = Script.calls (quietScript behaviour leased) id := by
  unfold undisturbed Script.calls quietScript
  rw [List.map_map]
  rfl

theorem cancels_quietScript (leased : TaskSnapshot) :
    (quietScript behaviour leased).cancels = 0 := by
  unfold Script.cancels quietScript
  rw [List.map_map]
  show ((behaviour.replies leased).map fun _ => 0).sum = 0
  simp

theorem replies_quietScript (leased : TaskSnapshot) :
    (quietScript behaviour leased).map Prod.snd = behaviour.replies leased := by
  unfold quietScript
  rw [List.map_map]
  exact List.map_id _

end

/-- Everything an adapter answers is one of its four answers. -/
theorem raises_quietScript {K : PyException → Prop}
    (hserializable : ∀ cls, K (.notSerializable cls))
    (hunexpected : ∀ className message, K (.unexpected className message))
    (hadapter : ∀ reply ∈ [behaviour.load, behaviour.first, behaviour.last], ∀ e,
      reply = .raised e → K e) (leased : TaskSnapshot) :
    Raises K (quietScript behaviour leased) where
  notSerializable := hserializable
  unexpected := hunexpected
  adapter := by
    intro p hp e he
    have hmem : p.2 ∈ behaviour.replies leased := by
      rw [← replies_quietScript]
      exact List.mem_map_of_mem hp
    rw [he] at hmem
    unfold AdapterBehaviour.replies at hmem
    split at hmem
    · simp only [List.mem_cons, List.mem_append, List.mem_map, List.not_mem_nil, or_false,
        reduceCtorEq, and_false, exists_false, false_or] at hmem
      rcases hmem with h | h | h
      · exact hadapter _ (by simp) e h.symm
      · exact hadapter _ (by simp) e h.symm
      · exact hadapter _ (by simp) e h.symm
    · simp only [List.mem_cons, List.not_mem_nil, or_false] at hmem
      rcases hmem with h | h
      · exact hadapter _ (by simp) e h.symm
      · exact hadapter _ (by simp) e h.symm

/-- A closing sequence that got to the backend with a running task. -/
theorem allSucceeded_of_finish {attemptId : Int}
    (h : Engaged ex.workerId leased attemptId .running s)
    (houtput : (PyValue.dict result.output).Encodable) :
    ∃ s', (ex.finish ⟨leased, attemptId⟩ result).run s =
        .ok (.returned (some (reportOf leased attemptId .succeeded))) s' ∧
      Records leased attemptId s' (fun t => t.status = .succeeded) .succeeded .succeeded ∧
      s'.appended = s.appended ++ ["run.completed", "stream.completed"].map
        (Append.mk .executor (some leased.taskId) leased.runId attemptId) ∧
      OnlyTask leased.taskId s.stores.backend s'.stores.backend := by
  obtain ⟨s₁, hrecorded, hfinish⟩ := run_finish ex ⟨leased, attemptId⟩ h houtput
  obtain ⟨t, ht, htoken, hworker, hstatus, _⟩ := h.task_of_recorded hrecorded
  obtain ⟨s', hrun, hback⟩ := run_completeTask_of_running ex ⟨leased, attemptId⟩ ht htoken
    hworker hstatus
  refine ⟨s', hfinish.trans hrun, ⟨?_, ?_, ?_⟩, ?_, ?_⟩
  · exact ⟨_, by rw [hback.tasks]; exact Dict.get?_set_self _ _ _, rfl⟩
  · rw [hback.runStore]
    exact hrecorded.run
  · rw [hback.runStore]
    exact hrecorded.attempt
  · rw [hback.appended]
    exact hrecorded.appended
  · rw [← hrecorded.backend]
    exact onlyTask_set hback.tasks

/-- A handler that got to the backend with a running task. -/
theorem givenUp_of_handle {attemptId : Int} {e : PyException} (he : e.Reported)
    (h : Engaged ex.workerId leased attemptId .running s) :
    ∃ status attemptEvent runEvent s', status ≠ .succeeded ∧
      (attemptEvent = "attempt.failed" ∨ attemptEvent = "attempt.timeout") ∧
      (runEvent = "run.failed" ∨ runEvent = "run.timeout") ∧
      (ex.handle ⟨leased, attemptId⟩ e).run s =
        .ok (.returned (some (reportOf leased attemptId status))) s' ∧
      OnlyTask leased.taskId s.stores.backend s'.stores.backend ∧
      (leased.attempt + 1 < leased.maxAttempts → Records leased attemptId s'
          (fun t => t.status = .queued ∧ t.attempt = leased.attempt + 1 ∧ t.workerId = none)
          .running status.attemptStatus ∧
        s'.appended = s.appended ++ [attemptEvent, "task.retrying"].map
          (Append.mk .executor (some leased.taskId) leased.runId attemptId)) ∧
      (¬ leased.attempt + 1 < leased.maxAttempts →
        Records leased attemptId s' (fun t => t.status = .deadLetter) status.runStatus
          status.attemptStatus ∧
        s'.appended = s.appended ++ [attemptEvent, runEvent, "stream.failed"].map
          (Append.mk .executor (some leased.taskId) leased.runId attemptId)) := by
  obtain ⟨error, status, attemptEvent, runEvent, s₁, hstatus, hattemptEvent, hrunEvent, hgiven,
    hhandle⟩ := run_handle ex ⟨leased, attemptId⟩ he h
  -- whichever way it went, the backend and the task are as before
  have hrecorded : ∃ runStatus types,
      Recorded leased attemptId s s₁ runStatus status.attemptStatus types := by
    by_cases hmore : leased.attempt + 1 < leased.maxAttempts
    · exact ⟨_, _, hgiven.retried hmore⟩
    · exact ⟨_, _, hgiven.ended hmore⟩
  obtain ⟨runStatus, types, hrecorded⟩ := hrecorded
  obtain ⟨t, ht, htoken, hworker, hrunning, hattempt, hmax⟩ := h.task_of_recorded hrecorded
  obtain ⟨s', hrun, hback⟩ := run_failTask_of_running ex ⟨leased, attemptId⟩ ht htoken hworker
    hrunning
  have htask : s'.stores.backend.tasks.get? leased.taskId = some (failedTask t error) := by
    rw [hback.tasks]
    exact Dict.get?_set_self _ _ _
  refine ⟨status, attemptEvent, runEvent, s', hstatus, hattemptEvent, hrunEvent,
    hhandle.trans hrun, ?_, ?_, ?_⟩
  · rw [← hrecorded.backend]
    exact onlyTask_set hback.tasks
  · intro hmore
    have hretried := hgiven.retried hmore
    refine ⟨⟨⟨_, htask, ?_⟩, hback.runStore ▸ hretried.run, hback.runStore ▸ hretried.attempt⟩,
      hback.appended.trans hretried.appended⟩
    unfold failedTask
    rw [if_pos (by rw [hattempt, hmax]; exact hmore)]
    exact ⟨rfl, by rw [← hattempt], rfl⟩
  · intro hmore
    have hended := hgiven.ended hmore
    refine ⟨⟨⟨_, htask, ?_⟩, hback.runStore ▸ hended.run, hback.runStore ▸ hended.attempt⟩,
      hback.appended.trans hended.appended⟩
    unfold failedTask
    rw [if_neg (by rw [hattempt, hmax]; exact hmore)]

/-- An execution of a task with a startable run ends in step exactly when no output is
delivered that the encoder refuses. -/
theorem execute_inStep_iff (hgranted : Granted ex.workerId leased s.stores.backend)
    (hrun : s.stores.runStore.runs.get? leased.runId = some run)
    (hstart : InMemoryRunStore.Startable run.status) (hhost : OrdinaryHost ex)
    (hadapter : behaviour.Ordinary) :
    InStep leased s.stores.runStore.nextAttemptId
        ((ex.execute leased (undisturbed behaviour leased)).run s) ↔
      ∀ result, Completes ex run leased s.stores.runStore.nextAttemptId behaviour result →
        (PyValue.dict result.output).Encodable := by
  have hcases := execute_cases ex hgranted hrun hstart (replies_quietScript behaviour leased)
    (raises_quietScript (fun _ => Or.inl rfl) (fun _ _ => Or.inl rfl) hadapter leased)
    (fun attemptId e => reported_runtimeContext hhost _ leased attemptId e)
    (reported_armTimeout hhost)
  rw [← undisturbed_eq, cancels_quietScript] at hcases
  rcases hcases with ⟨result, context, s', hcompletes, ⟨hengaged, _, _⟩, hcontext, hout⟩ |
    ⟨e, n, s', hnone, he, hle, ⟨hengaged, _, _⟩, hout⟩
  · rw [hout]
    by_cases houtput : (PyValue.dict result.output).Encodable
    · obtain ⟨s'', hfinish, hrecords, _⟩ := allSucceeded_of_finish ex hengaged houtput
      refine iff_of_true (AllSucceeded.inStep ⟨s'', hfinish, hrecords⟩) ?_
      intro result' hcompletes'
      rw [← completes_unique ex hcompletes hcompletes']
      exact houtput
    · obtain ⟨e, s'', _, hfinish⟩ := run_finish_of_not_encodable ex (localsOf leased s) hengaged
        hcontext houtput
      refine iff_of_false (not_inStep_of_error hfinish) ?_
      intro hall
      exact houtput (hall result hcompletes)
  · obtain rfl : n = 0 := Nat.le_zero.mp hle
    obtain ⟨status, _, _, s'', hstatus, _, _, hhandle, _, hretried, hended⟩ :=
      givenUp_of_handle ex he hengaged
    refine iff_of_true ?_ (fun result hcompletes => absurd hcompletes (hnone result))
    rw [hout]
    by_cases hmore : leased.attempt + 1 < leased.maxAttempts
    · exact Requeued.inStep ⟨status, s'', hstatus, hhandle, hmore, (hretried hmore).1⟩
    · exact DeadLettered.inStep ⟨status, s'', hstatus, hhandle, (hended hmore).1⟩

end

end DimooRun.Worker
