/-
  Runtime/RunManager.lean --- runs, attempts and the in-memory run store.

  Source: runtime/run_manager.py.

  Time stamps that no modelled function reads (`created_at`, `started_at`,
  `finished_at`) are left out.
-/
import DimooRun.Foundation.Json
import DimooRun.Runtime.StateMachine

set_option autoImplicit false

namespace DimooRun.Runtime

open Foundation

/-- `RuntimeRun`. -/
structure RuntimeRun where
  runId : Int
  tenantId : Int
  projectId : Int
  agentId : Int
  agentVersionId : Int
  deploymentId : Option Int
  inputData : PyDict
  overrideConfig : PyDict := []
  status : RunStatus := .pending
  threadId : Option String := none
  output : Option PyDict := none
  error : Option PyDict := none

/-- `RuntimeAttempt`. -/
structure RuntimeAttempt where
  attemptId : Int
  runId : Int
  taskId : Int
  workerId : String
  attemptNo : Nat
  status : RunAttemptStatus := .running
  error : Option PyDict := none

/-- `InMemoryRunStore`. -/
structure InMemoryRunStore where
  runs : Dict Int RuntimeRun
  attempts : Dict Int RuntimeAttempt
  nextRunId : Int
  nextAttemptId : Int

/-- What the run store raises. -/
inductive StoreError where
  /-- `KeyError` on an unknown run or attempt id -/
  | keyError (id : Int)
  /-- `InvalidStateTransitionError` -/
  | invalidTransition (error : InvalidStateTransitionError)
  deriving DecidableEq, Repr

/-- A method of the run store. -/
abbrev StoreM : Type → Type := EStateM StoreError InMemoryRunStore

namespace InMemoryRunStore

/-- `InMemoryRunStore.__init__`. -/
def init : InMemoryRunStore :=
  { runs := Dict.empty, attempts := Dict.empty, nextRunId := 1, nextAttemptId := 1 }

section

variable (runId : Int) (error : PyDict)

/-- `get_run`: `self.runs[run_id]`. -/
def getRun : StoreM RuntimeRun := do
  match (← get).runs.get? runId with
  | none => throw (.keyError runId)
  | some run => pure run

/-- Assign to the record of a run. -/
def putRun (run : RuntimeRun) : StoreM Unit :=
  modify fun store => { store with runs := store.runs.set runId run }

/-- `assert_run_transition`, raised in the store. -/
def checkRun (current target : RunStatus) : StoreM Unit :=
  match assertRunTransition current target with
  | .ok _ => pure ()
  | .error e => throw (.invalidTransition e)

/-- `create_attempt`. -/
def createAttempt (runId taskId : Int) (workerId : String) : StoreM RuntimeAttempt := do
  let store ← get
  let attempt : RuntimeAttempt :=
    { attemptId := store.nextAttemptId
      runId := runId
      taskId := taskId
      workerId := workerId
      attemptNo := (store.attempts.values.filter fun a => decide (a.runId = runId)).length + 1 }
  set
    { store with
      nextAttemptId := store.nextAttemptId + 1
      attempts := store.attempts.set attempt.attemptId attempt }
  let run ← getRun runId
  if run.status ≠ .running then
    checkRun run.status .running
    putRun runId { run with status := .running }
  pure attempt

/-- The common shape of `complete_run`, `fail_run` and `timeout_run`: step a
pending run to running, then check and assign the target status. -/
def finishRun (target : RunStatus) (write : RuntimeRun → RuntimeRun) (runId : Int) :
    StoreM Unit := do
  let run ← getRun runId
  if run.status = .pending then
    checkRun run.status .running
    putRun runId { run with status := .running }
  let run ← getRun runId
  checkRun run.status target
  putRun runId (write { run with status := target })

/-- `complete_run`. -/
def completeRun (output : PyDict) : StoreM Unit :=
  finishRun .succeeded (fun run => { run with output := some output }) runId

/-- `fail_run`. -/
def failRun : StoreM Unit :=
  finishRun .failed (fun run => { run with error := some error }) runId

/-- `timeout_run`. -/
def timeoutRun : StoreM Unit :=
  finishRun .timeout (fun run => { run with error := some error }) runId

end

section

variable (target : RunAttemptStatus) (write : RuntimeAttempt → RuntimeAttempt) (attemptId : Int)

/-- The common shape of `complete_attempt`, `fail_attempt` and `timeout_attempt`. -/
def finishAttempt : StoreM Unit := do
  match (← get).attempts.get? attemptId with
  | none => throw (.keyError attemptId)
  | some attempt =>
      match assertRunAttemptTransition attempt.status target with
      | .error e => throw (.invalidTransition e)
      | .ok _ =>
          modify fun store =>
            { store with
              attempts := store.attempts.set attemptId (write { attempt with status := target }) }

/-- `complete_attempt`. -/
def completeAttempt : StoreM Unit :=
  finishAttempt .succeeded id attemptId

/-- `fail_attempt`. -/
def failAttempt (error : PyDict) : StoreM Unit :=
  finishAttempt .failed (fun attempt => { attempt with error := some error }) attemptId

/-- `timeout_attempt`. -/
def timeoutAttempt (error : PyDict) : StoreM Unit :=
  finishAttempt .timeout (fun attempt => { attempt with error := some error }) attemptId

end

/-! ## What the methods do -/

theorem run_checkRun (current target : RunStatus) (store : InMemoryRunStore) :
    (checkRun current target).run store =
      if target ∈ runTransitions current then .ok () store
      else
        .error (.invalidTransition
            { entity := "run", current := current.value, target := target.value })
          store := by
  unfold checkRun assertRunTransition assertTransition
  by_cases h : target ∈ runTransitions current
  · simp only [if_pos h]
    rfl
  · simp only [if_neg h]
    rfl

variable {store : InMemoryRunStore} {runId : Int} {run : RuntimeRun}

theorem run_getRun_of_some (h : store.runs.get? runId = some run) :
    (getRun runId).run store = .ok run store := by
  simp only [getRun, EStateM.run_bind, EStateM.run_get, h]
  rfl

theorem run_getRun_of_none (h : store.runs.get? runId = none) :
    (getRun runId).run store = .error (.keyError runId) store := by
  simp only [getRun, EStateM.run_bind, EStateM.run_get, h]
  rfl

section

variable (store runId) (taskId : Int) (workerId : String)

/-- The attempt `create_attempt` stores. -/
def newAttempt :
    RuntimeAttempt :=
  { attemptId := store.nextAttemptId
    runId := runId
    taskId := taskId
    workerId := workerId
    attemptNo := (store.attempts.values.filter fun a => decide (a.runId = runId)).length + 1 }

/-- The store once `create_attempt` has stored the attempt. -/
def withAttempt (attempt : RuntimeAttempt) : InMemoryRunStore :=
  { store with
    nextAttemptId := store.nextAttemptId + 1
    attempts := store.attempts.set attempt.attemptId attempt }

/-- A run that a new attempt can be started for. -/
def Startable (status : RunStatus) : Prop := status ≠ .succeeded ∧ status ≠ .cancelled

instance (status : RunStatus) : Decidable (Startable status) :=
  inferInstanceAs (Decidable (_ ∧ _))

theorem startable_iff (status : RunStatus) :
    Startable status ↔ status = .running ∨ .running ∈ runTransitions status := by
  cases status <;> simp [Startable, runTransitions]

/-- `create_attempt` stores the attempt first. It returns when the run is there and
startable, and leaves the run running; otherwise it raises. -/
theorem run_createAttempt (store : InMemoryRunStore) :
    (createAttempt runId taskId workerId).run store =
      let attempt := store.newAttempt runId taskId workerId
      match store.runs.get? runId with
      | none => .error (.keyError runId) (store.withAttempt attempt)
      | some run =>
          if Startable run.status then
            .ok attempt { store.withAttempt attempt with
                runs := store.runs.set runId { run with status := .running } }
          else
            .error (.invalidTransition
                { entity := "run"
                  current := run.status.value
                  target := RunStatus.running.value })
              (store.withAttempt attempt) := by
  have hset : (createAttempt runId taskId workerId).run store =
      ((do
        let run ← getRun runId
        if run.status ≠ .running then
          checkRun run.status .running
          putRun runId { run with status := .running }
        pure (store.newAttempt runId taskId workerId) : StoreM RuntimeAttempt)).run
        (store.withAttempt (store.newAttempt runId taskId workerId)) := rfl
  rw [hset]
  have hruns : (store.withAttempt (store.newAttempt runId taskId workerId)).runs = store.runs := rfl
  cases h : store.runs.get? runId with
  | none =>
    rw [EStateM.run_bind, run_getRun_of_none (hruns ▸ h)]
  | some run =>
    rw [EStateM.run_bind, run_getRun_of_some (hruns ▸ h)]
    by_cases hrunning : run.status = .running
    · -- the assignment is skipped, and would change nothing
      have hsame : { run with status := .running } = run := by
        rw [← hrunning]
      simp only [hrunning, startable_iff, ne_eq, not_true_eq_false, if_false, true_or, if_true,
        hsame, Dict.set_eq_self h]
      rfl
    · by_cases hstart : RunStatus.running ∈ runTransitions run.status
      · simp only [startable_iff, hrunning, hstart, if_true, ne_eq, not_false_eq_true,
          EStateM.run_bind, run_checkRun]
        rfl
      · simp only [startable_iff, hrunning, hstart, or_false, if_false, ne_eq,
          not_false_eq_true, if_true, EStateM.run_bind, run_checkRun]

end

/-- A running run ends in the target status. -/
theorem run_finishRun_of_running {target : RunStatus} {write : RuntimeRun → RuntimeRun}
    (hget : store.runs.get? runId = some run) (hrunning : run.status = .running)
    (htarget : target ∈ runTransitions .running) :
    (finishRun target write runId).run store = .ok ()
        { store with runs := store.runs.set runId (write { run with status := target }) } := by
  unfold finishRun
  rw [run_bind_of_ok (run_getRun_of_some hget)]
  have hskip : run.status ≠ .pending := by
    rw [hrunning]
    simp
  rw [if_neg hskip]
  simp only [EStateM.run_bind, run_getRun_of_some hget, hrunning, run_checkRun, if_pos htarget]
  rfl

/-- A running attempt ends in the target status. -/
theorem run_finishAttempt_of_running {attemptId : Int} {attempt : RuntimeAttempt}
    {target : RunAttemptStatus} {write : RuntimeAttempt → RuntimeAttempt}
    (hget : store.attempts.get? attemptId = some attempt) (hrunning : attempt.status = .running)
    (htarget : target ∈ runAttemptTransitions .running) :
    (finishAttempt target write attemptId).run store = .ok () { store with
          attempts := store.attempts.set attemptId (write { attempt with status := target }) } := by
  unfold finishAttempt
  simp only [EStateM.run_bind, EStateM.run_get, hget, hrunning, assertRunAttemptTransition,
    assertTransition, if_pos htarget]
  rfl

end InMemoryRunStore

end DimooRun.Runtime
