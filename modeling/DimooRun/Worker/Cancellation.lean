/-
  Worker/Cancellation.lean --- cancelling a task that is being executed.

  While `execute_once` waits for its adapter, others may cancel its task. The guard
  `assert_can_complete` looks at owner and token, which a cancellation leaves alone,
  but `complete` looks at the status as well. So the execution ends run and attempt
  as succeeded and is refused by the backend afterwards: run and task are split.
-/
import DimooRun.Worker.StreamEvents

set_option autoImplicit false

namespace DimooRun.Worker

open Foundation DimooRun.Runtime Scheduler Streaming

/-! ## The guard and the call it guards -/

/-- What the guard tells of the task. -/
theorem lease_of_assertCanComplete {b b' : InMemoryTaskBackend} {id : Int} {w : String} {k : Int}
    (h : (InMemoryTaskBackend.assertCanComplete id w k).run b = .ok () b') :
    ∃ t, b.tasks.get? id = some t ∧ t.fencingToken = k ∧ t.workerId = some w := by
  unfold InMemoryTaskBackend.assertCanComplete at h
  cases ht : b.tasks.get? id with
  | none =>
    rw [InMemoryTaskBackend.run_withTask_of_none _ ht] at h
    simp at h
  | some t =>
    rw [InMemoryTaskBackend.run_withTask_of_some _ ht, InMemoryTask.run_assertCanComplete] at h
    by_cases htoken : t.fencingToken = k
    · by_cases hworker : t.workerId = some w
      · exact ⟨t, rfl, htoken, hworker⟩
      · simp [htoken, hworker] at h
    · simp [htoken] at h

/-- Where the guard lets a caller pass, `complete` returns exactly on a running task. -/
theorem complete_ok_iff {b : InMemoryTaskBackend} {id : Int} {w : String} {k : Int}
    {t : InMemoryTask} (ht : b.tasks.get? id = some t) (htoken : t.fencingToken = k)
    (hworker : t.workerId = some w) :
    (∃ b', (InMemoryTaskBackend.complete id w k).run b = .ok () b') ↔ t.status = .running := by
  unfold InMemoryTaskBackend.complete
  rw [InMemoryTaskBackend.run_withTask_of_some _ ht, InMemoryTask.run_complete,
    if_neg (not_not.mpr htoken), if_neg (not_not.mpr hworker)]
  by_cases hstatus : t.status = .running
  · rw [if_pos hstatus]
    exact iff_of_true ⟨_, rfl⟩ hstatus
  · rw [if_neg hstatus]
    refine iff_of_false ?_ hstatus
    rintro ⟨b', h⟩
    simp at h

/-! ## Split records -/

/-- If the run or the attempt is succeeded, so is the task. -/
def Unsplit (leased : TaskSnapshot) (attemptId : Int) (s : ExecState) : Prop :=
  (∃ run, s.stores.runStore.runs.get? leased.runId = some run ∧ run.status = .succeeded) ∨
      (∃ attempt, s.stores.runStore.attempts.get? attemptId = some attempt ∧
        attempt.status = .succeeded) →
    ∃ t, s.stores.backend.tasks.get? leased.taskId = some t ∧ t.status = .succeeded

/-- Neither the run nor the attempt is succeeded. -/
structure Unsucceeded (leased : TaskSnapshot) (attemptId : Int) (store : InMemoryRunStore) :
    Prop where
  run : ∀ run, store.runs.get? leased.runId = some run → run.status ≠ .succeeded
  attempt : ∀ attempt, store.attempts.get? attemptId = some attempt → attempt.status ≠ .succeeded

section

variable {leased : TaskSnapshot} {attemptId : Int} {s s' : ExecState}

theorem Unsucceeded.unsplit (h : Unsucceeded leased attemptId s.stores.runStore) :
    Unsplit leased attemptId s := by
  rintro (⟨run, hrun, hstatus⟩ | ⟨attempt, hattempt, hstatus⟩)
  · exact absurd hstatus (h.run run hrun)
  · exact absurd hstatus (h.attempt attempt hattempt)

/-- The run is succeeded and the task is not. -/
theorem not_unsplit {run : RuntimeRun} {t : InMemoryTask}
    (hrun : s.stores.runStore.runs.get? leased.runId = some run) (hstatus : run.status = .succeeded)
    (ht : s.stores.backend.tasks.get? leased.taskId = some t) (hopen : t.status ≠ .succeeded) :
    ¬ Unsplit leased attemptId s := by
  intro h
  obtain ⟨t', ht', hsucceeded⟩ := h (Or.inl ⟨run, hrun, hstatus⟩)
  rw [ht] at ht'
  cases ht'
  exact hopen hsucceeded

theorem Recorded.unsucceeded {runStatus : RunStatus} {attemptStatus : RunAttemptStatus}
    {types : List String} (h : Recorded leased attemptId s s' runStatus attemptStatus types)
    (hrun : runStatus ≠ .succeeded) (hattempt : attemptStatus ≠ .succeeded) :
    Unsucceeded leased attemptId s'.stores.runStore := by
  obtain ⟨run, hget, rfl⟩ := h.run
  obtain ⟨attempt, hget', rfl⟩ := h.attempt
  refine ⟨fun run' hrun' => ?_, fun attempt' hattempt' => ?_⟩
  · rw [hget] at hrun'
    cases hrun'
    exact hrun
  · rw [hget'] at hattempt'
    cases hattempt'
    exact hattempt

theorem statusAfter_ne_succeeded (n : Nat) : statusAfter n ≠ .succeeded := by
  unfold statusAfter
  split <;> decide

end

section

variable (ex : WorkerExecutor) {leased : TaskSnapshot} {attemptId : Int} {s : ExecState}

/-- The closing after a result splits run and task, unless nobody cancelled the task
and the output can be stored. -/
theorem finish_unsplit_iff {n : Nat} {result : AgentResult} {context : Observability.RuntimeContext}
    (h : Engaged ex.workerId leased attemptId (statusAfter n) s)
    (hcontext : s.active.context = some context) :
    Unsplit leased attemptId (endState ((ex.finish ⟨leased, attemptId⟩ result).run s)) ↔
      n = 0 ∧ (PyValue.dict result.output).Encodable := by
  by_cases houtput : (PyValue.dict result.output).Encodable
  · cases n with
    | zero =>
      obtain ⟨s', hfinish, hrecords, _⟩ := allSucceeded_of_finish ex h houtput
      rw [hfinish]
      exact iff_of_true (fun _ => hrecords.task) ⟨rfl, houtput⟩
    | succ n =>
      obtain ⟨s', hrecorded, hfinish⟩ := run_finish ex ⟨leased, attemptId⟩ h houtput
      obtain ⟨t, ht, htoken, hworker, hstatus, _⟩ := h.task_of_recorded hrecorded
      have hcancelled : t.status = .cancelled := hstatus
      obtain ⟨e, hrun⟩ := run_completeTask_of_not_running ex ⟨leased, attemptId⟩ ht htoken hworker
        (by simp [hcancelled])
      obtain ⟨run, hget, hsucceeded⟩ := hrecorded.run
      rw [hfinish, hrun]
      exact iff_of_false (not_unsplit hget hsucceeded ht (by simp [hcancelled])) (by simp)
  · obtain ⟨e, s', hrecorded, hfinish⟩ := run_finish_of_not_encodable ex ⟨leased, attemptId⟩ h
      hcontext houtput
    obtain ⟨t, ht, _, _, hstatus, _⟩ := h.task_of_recorded hrecorded
    obtain ⟨run, hget, hsucceeded⟩ := hrecorded.run
    have hopen : t.status ≠ .succeeded := by
      rw [hstatus]
      exact statusAfter_ne_succeeded n
    rw [hfinish]
    exact iff_of_false (not_unsplit hget hsucceeded ht hopen) fun hboth => houtput hboth.2

/-- The closing after an exception never ends a run or an attempt as succeeded. -/
theorem handle_unsplit {n : Nat} (e : PyException)
    (h : Engaged ex.workerId leased attemptId (statusAfter n) s) :
    Unsplit leased attemptId (endState ((ex.handle ⟨leased, attemptId⟩ e).run s)) := by
  by_cases he : e.Reported
  · obtain ⟨error, status, _, _, s', hstatus, _, _, hgiven, hhandle⟩ :=
      run_handle ex ⟨leased, attemptId⟩ he h
    have hrecorded : ∃ runStatus attemptStatus types, runStatus ≠ .succeeded ∧
        attemptStatus ≠ .succeeded ∧
        Recorded leased attemptId s s' runStatus attemptStatus types := by
      have hattempt : status.attemptStatus ≠ .succeeded := by
        cases status <;> simp_all [ExecutionStatus.attemptStatus]
      by_cases hmore : leased.attempt + 1 < leased.maxAttempts
      · exact ⟨_, _, _, by decide, hattempt, hgiven.retried hmore⟩
      · refine ⟨_, _, _, ?_, hattempt, hgiven.ended hmore⟩
        cases status <;> simp_all [ExecutionStatus.runStatus]
    obtain ⟨runStatus, attemptStatus, types, hrun, hattempt, hrecorded⟩ := hrecorded
    obtain ⟨t, ht, htoken, hworker, htask, _⟩ := h.task_of_recorded hrecorded
    have hopen := hrecorded.unsucceeded hrun hattempt
    rw [hhandle]
    cases n with
    | zero =>
      obtain ⟨s'', hfail, hback⟩ := run_failTask_of_running ex ⟨leased, attemptId⟩ ht htoken
        hworker htask
      rw [hfail]
      exact Unsucceeded.unsplit (hback.runStore ▸ hopen)
    | succ n =>
      obtain ⟨e', hfail⟩ := run_failTask_of_cancelled ex ⟨leased, attemptId⟩ ht htoken hworker htask
      rw [hfail]
      exact hopen.unsplit
  · obtain ⟨active, hend⟩ := run_handle_of_not_reported ex ⟨leased, attemptId⟩ he s
    have hopen := h.recorded.unsucceeded (by decide) (by decide)
    rw [hend]
    exact Unsucceeded.unsplit hopen

/-- An execution splits run and task exactly when the run was succeeded before, or the
adapter delivers a result although the task was cancelled or its output cannot be
stored. -/
theorem execute_unsplit_iff (hgranted : Granted ex.workerId leased s.stores.backend)
    (behaviour : AdapterBehaviour) {script : Script}
    (hscript : script.map Prod.snd = behaviour.replies leased) :
    Unsplit leased s.stores.runStore.nextAttemptId
        (endState ((ex.execute leased (Script.calls script leased.taskId)).run s)) ↔
      ∀ run, s.stores.runStore.runs.get? leased.runId = some run → run.status ≠ .succeeded ∧
          (InMemoryRunStore.Startable run.status → ∀ result,
            Completes ex run leased s.stores.runStore.nextAttemptId behaviour result →
            script.cancels = 0 ∧ (PyValue.dict result.output).Encodable) := by
  by_cases hstart : ∃ run, s.stores.runStore.runs.get? leased.runId = some run ∧
      InMemoryRunStore.Startable run.status
  · obtain ⟨run, hrun, hstart⟩ := hstart
    have hopen : run.status ≠ .succeeded := by
      rw [InMemoryRunStore.startable_iff] at hstart
      rintro hsucceeded
      simp [hsucceeded, runTransitions] at hstart
    have hcases := execute_cases ex hgranted hrun hstart hscript (K := fun _ => True)
      ⟨fun _ => trivial, fun _ _ => trivial, fun _ _ _ _ => trivial⟩ (fun _ _ _ => trivial)
      (fun _ _ _ => trivial)
    rw [hrun]
    simp only [Option.some.injEq, forall_eq', hopen, ne_eq, not_false_eq_true, hstart,
      forall_const, true_and]
    rcases hcases with ⟨result, context, s₁, hcompletes, ⟨hengaged, _, _⟩, hcontext, hout⟩ |
      ⟨e, n, s₁, hnone, _, _, ⟨hengaged, _, _⟩, hout⟩
    · rw [hout]
      refine (finish_unsplit_iff ex hengaged hcontext).trans ?_
      constructor
      · intro hboth result' hcompletes'
        rw [← completes_unique ex hcompletes hcompletes']
        exact hboth
      · intro hall
        exact hall result hcompletes
    · rw [hout]
      exact iff_of_true (handle_unsplit ex e hengaged)
        (fun result hcompletes => absurd hcompletes (hnone result))
  · -- the run is missing or over: nothing is written to it
    obtain ⟨e, s₁, hbegin, _, hruns, ⟨attempt, hattempt, hrunning, _⟩, ⟨t, ht, hstatus⟩, _⟩ :=
      begin_of_not_startable ex hgranted (fun run hrun hyes => hstart ⟨run, hrun, hyes⟩)
    have hout : (ex.execute leased (Script.calls script leased.taskId)).run s = .error e s₁ :=
      run_bind_of_error hbegin
    rw [hout]
    constructor
    · intro hunsplit run hrun
      refine ⟨?_, fun hyes => absurd ⟨run, hrun, hyes⟩ hstart⟩
      intro hsucceeded
      have hrun₁ : s₁.stores.runStore.runs.get? leased.runId = some run := by
        rw [hruns]
        exact hrun
      exact not_unsplit hrun₁ hsucceeded ht (by simp [hstatus]) hunsplit
    · intro hall
      refine Unsucceeded.unsplit ⟨?_, ?_⟩
      · intro run hrun
        have hrun₀ : s.stores.runStore.runs.get? leased.runId = some run := by
          rw [← hruns]
          exact hrun
        exact (hall run hrun₀).1
      · intro attempt' hattempt'
        have hsame : attempt' = attempt := by
          have heq := hattempt'.symm.trans hattempt
          exact Option.some.inj heq
        rw [hsame, hrunning]
        decide

end

namespace System

variable {ι : Type}

/-- Where the guard lets a caller pass, `complete` returns exactly when the task is
running. While others only cancel the task, a call of `execute_once` leaves run or
attempt succeeded without the task exactly when the run was succeeded before, or
the adapter delivers a result although the task was cancelled meanwhile or its
output cannot be stored. -/
theorem cancellation_splits_iff (ex : ι → WorkerExecutor) {sys : System ι}
    (hreach : sys.stores.backend.Reachable) :
    (∀ (id : Int) (w : String) (k : Int) (b : InMemoryTaskBackend),
        (InMemoryTaskBackend.assertCanComplete id w k).run sys.stores.backend = .ok () b →
        ((∃ b', (InMemoryTaskBackend.complete id w k).run sys.stores.backend = .ok () b') ↔
          ∃ t, sys.stores.backend.tasks.get? id = some t ∧ t.status = .running)) ∧
      ∀ (i : ι) (now reapNow : Time) (queue : String) (n : Int) (leased : TaskSnapshot)
        (b : InMemoryTaskBackend) (behaviour : AdapterBehaviour) (script : Script),
        (InMemoryTaskBackend.lease now reapNow queue (ex i).workerId n).run sys.stores.backend =
          .ok (some leased) b →
        script.map Prod.snd = behaviour.replies leased →
        (Unsplit leased sys.stores.runStore.nextAttemptId
            (endState (((ex i).executeOnce now reapNow queue n
              fun leased => Script.calls script leased.taskId).run (sys.view i))) ↔
          ∀ run, sys.stores.runStore.runs.get? leased.runId = some run → run.status ≠ .succeeded ∧
              (InMemoryRunStore.Startable run.status → ∀ result,
                Completes (ex i) run leased sys.stores.runStore.nextAttemptId behaviour result →
                script.cancels = 0 ∧ (PyValue.dict result.output).Encodable)) := by
  refine ⟨?_, ?_⟩
  · intro id w k b hguard
    obtain ⟨t, ht, htoken, hworker⟩ := lease_of_assertCanComplete hguard
    rw [complete_ok_iff ht htoken hworker, ht]
    simp
  · intro i now reapNow queue n leased b behaviour script hlease hscript
    have hgranted : Granted (ex i).workerId leased (sys.afterLease i b).stores.backend :=
      granted_of_lease hreach.sound hlease
    rw [run_executeOnce _ _ hlease]
    exact execute_unsplit_iff _ hgranted behaviour hscript

/-- The task is cancelled while the adapter works on the answer. -/
def cancelledMeanwhile : Script :=
  [(0, .agent), (1, .result { output := [("answer", .str "yes")] })]

theorem cancellation_splits_iff_undisturbed :
    ∃ leased b, (InMemoryTaskBackend.lease 1 1 "default" "worker" 1).run
        oneQueued.stores.backend = .ok (some leased) b ∧
      Unsplit leased 1 (endState (((twins true).executeOnce 1 1 "default" 1
        fun leased => Script.calls [(0, .agent), (0, .result { output := [] })]
          leased.taskId).run (oneQueued.view true))) := by
  refine ⟨_, _, rfl, ?_⟩
  refine ((cancellation_splits_iff twins reachable_oneQueued).2 true 1 1 "default" 1 _ _
    { load := .agent, first := .result { output := [] }, events := [], last := .exhausted,
      last_ne_event := by simp } _ rfl rfl).mpr ?_
  intro run hrun
  cases hrun
  refine ⟨by decide, ?_⟩
  rintro _ result ⟨_, _, _, _, _, _, hresult⟩
  obtain ⟨hresult, _⟩ := hresult
  cases hresult
  decide

/-- The worker of a cancelled task passes the guard and is refused; and its execution
leaves the run succeeded. -/
theorem cancelled_task_splits : (∃ b b', InMemoryTaskBackend.Reachable b ∧
      (InMemoryTaskBackend.assertCanComplete 1 "worker" 1).run b = .ok () b' ∧
      ∀ b'', (InMemoryTaskBackend.complete 1 "worker" 1).run b ≠ .ok () b'') ∧
    ∃ leased b, (InMemoryTaskBackend.lease 1 1 "default" "worker" 1).run
        oneQueued.stores.backend = .ok (some leased) b ∧
      ¬ Unsplit leased 1 (endState (((twins true).executeOnce 1 1 "default" 1
        fun leased => Script.calls cancelledMeanwhile leased.taskId).run
          (oneQueued.view true))) := by
  refine ⟨?_, ?_⟩
  · let calls : List Call :=
      [.enqueue 0 { runId := some 1 }, .lease 1 1 "default" "worker" 1,
        .markRunning 1 "worker" 1, .cancel 1]
    refine ⟨final InMemoryTaskBackend.exec .init calls, _, ⟨calls, ?_, rfl⟩, rfl, ?_⟩
    · refine ⟨?_, trivial, trivial, trivial, trivial⟩
      intro taskId h
      simp at h
    · intro b'' h
      cases h
  · have hlease : (InMemoryTaskBackend.lease 1 1 "default" (twins true).workerId 1).run
        oneQueued.stores.backend = .ok (some _) _ := rfl
    refine ⟨_, _, hlease, ?_⟩
    rw [run_executeOnce _ _ hlease]
    intro hunsplit
    have hall := (execute_unsplit_iff _ (s := oneQueued.afterLease true _)
      (granted_of_lease reachable_oneQueued.sound hlease)
      (answering (.str "yes")).behaviour rfl).mp hunsplit _ rfl
    have hquiet := hall.2 (by decide) { output := [("answer", .str "yes")] }
      ⟨_, _, rfl, by simp [answering], rfl, rfl, rfl, by simp⟩
    exact absurd hquiet.1 (by decide)

end System

/-! ## Runs that are over -/

/-- No attempt and no task of the run is in status running. -/
def NothingRunning (runId : Int) (stores : Stores) : Prop :=
  (∀ id a, stores.runStore.attempts.get? id = some a → a.runId = runId → a.status ≠ .running) ∧
    ∀ id t, stores.backend.tasks.get? id = some t → t.runId = runId → t.status ≠ .running

/-- A call that leases a task of a run that is over raises, and leaves the task and a new
attempt running: it starts both before it looks at the run. -/
theorem finished_run_left_running (ex : WorkerExecutor) (s : ExecState)
    (hsound : s.stores.backend.Sound) {now reapNow : Time} {queue : String} {leaseSeconds : Int}
    {leased : TaskSnapshot} {b : InMemoryTaskBackend} {run : RuntimeRun}
    (hlease : (InMemoryTaskBackend.lease now reapNow queue ex.workerId leaseSeconds).run
      s.stores.backend = .ok (some leased) b)
    (hrun : s.stores.runStore.runs.get? leased.runId = some run)
    (hover : run.status = .cancelled ∨ run.status = .succeeded) :
    ∃ e s', (ex.start now reapNow queue leaseSeconds).run s = .error e s' ∧
      ¬ NothingRunning leased.runId s'.stores ∧
      ∃ t, s'.stores.backend.tasks.get? leased.taskId = some t ∧ t.status = .running := by
  have hnot : ¬ InMemoryRunStore.Startable run.status := by
    rintro ⟨hsucceeded, hcancelled⟩
    exact hover.elim hcancelled hsucceeded
  obtain ⟨e, s', hbegin, _, _, ⟨a, ha, hrunning, hof⟩, htask, _⟩ := begin_of_not_startable ex
    (s := { s with stores := { s.stores with backend := b } }) (granted_of_lease hsound hlease)
    fun found hfound => by
      cases hrun.symm.trans hfound
      exact hnot
  refine ⟨e, s', (run_start_of_lease ex hlease).trans hbegin, fun hnothing => ?_, htask⟩
  exact hnothing.1 _ a ha hof hrunning

/-- A queued task of a cancelled run. -/
def cancelledQueued : ExecState where
  stores :=
    { System.oneQueued.stores with
      runStore :=
        { InMemoryRunStore.init with
          runs := Dict.empty.set 1
            { runId := 1
              tenantId := 1
              projectId := 1
              agentId := 1
              agentVersionId := 1
              deploymentId := none
              inputData := []
              status := .cancelled } } }
  active := {}
  appended := []

theorem finished_run_left_running_cancelled :
    ∃ e s', ((System.twins true).start 1 1 "default" 1).run cancelledQueued = .error e s' ∧
      ¬ NothingRunning 1 s'.stores ∧
      ∃ t, s'.stores.backend.tasks.get? 1 = some t ∧ t.status = .running := by
  have hlease : (InMemoryTaskBackend.lease 1 1 "default" (System.twins true).workerId 1).run
      cancelledQueued.stores.backend = .ok (some _) _ := rfl
  exact finished_run_left_running (System.twins true) cancelledQueued
    System.reachable_oneQueued.sound hlease rfl (.inl rfl)

/-- The task and the attempt are left running. -/
theorem executor_leaves_attempt_running :
    ∃ e s', ((System.twins true).start 1 1 "default" 1).run cancelledQueued = .error e s' ∧
      (s'.stores.runStore.attempts.get? 1).map RuntimeAttempt.status = some .running ∧
      (s'.stores.backend.tasks.get? 1).map InMemoryTask.status = some .running :=
  ⟨_, _, rfl, rfl, rfl⟩

end DimooRun.Worker
