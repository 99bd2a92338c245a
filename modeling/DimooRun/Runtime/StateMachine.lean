/-
  Runtime/StateMachine.lean --- the status machines of runs, tasks and attempts.

  Source: runtime/state_machine.py.

  The three transition tables are transcribed row by row. A status the table
  maps to the empty set is final: no call of `assertTransition` out of it
  succeeds, which is what every "never changes again" result below rests on.
-/
import DimooRun.Foundation.Raising

set_option autoImplicit false

namespace DimooRun.Runtime

/-- Statuses of a run. -/
inductive RunStatus where
  | pending
  | running
  | interrupted
  | failed
  | timeout
  | succeeded
  | cancelled
  deriving DecidableEq, Repr

/-- Statuses of a task. -/
inductive TaskStatus where
  | queued
  | leased
  | running
  | retrying
  | failed
  | succeeded
  | deadLetter
  | cancelled
  deriving DecidableEq, Repr

/-- Statuses of one attempt of a run. -/
inductive RunAttemptStatus where
  | running
  | succeeded
  | failed
  | timeout
  | cancelled
  | workerLost
  deriving DecidableEq, Repr

/-- The stored text of a run status. -/
def RunStatus.value : RunStatus → String
  | .pending => "pending"
  | .running => "running"
  | .interrupted => "interrupted"
  | .failed => "failed"
  | .timeout => "timeout"
  | .succeeded => "succeeded"
  | .cancelled => "cancelled"

/-- The stored text of a task status. -/
def TaskStatus.value : TaskStatus → String
  | .queued => "queued"
  | .leased => "leased"
  | .running => "running"
  | .retrying => "retrying"
  | .failed => "failed"
  | .succeeded => "succeeded"
  | .deadLetter => "dead_letter"
  | .cancelled => "cancelled"

/-- The stored text of an attempt status. -/
def RunAttemptStatus.value : RunAttemptStatus → String
  | .running => "running"
  | .succeeded => "succeeded"
  | .failed => "failed"
  | .timeout => "timeout"
  | .cancelled => "cancelled"
  | .workerLost => "worker_lost"

/-- `RUN_TRANSITIONS`. -/
def runTransitions : RunStatus → List RunStatus
  | .pending => [.running, .cancelled]
  | .running => [.interrupted, .succeeded, .failed, .cancelled, .timeout]
  | .interrupted => [.running, .cancelled, .timeout]
  | .failed => [.running]
  | .timeout => [.running]
  | .succeeded => []
  | .cancelled => []

/-- `TASK_TRANSITIONS`. -/
def taskTransitions : TaskStatus → List TaskStatus
  | .queued => [.leased, .cancelled]
  | .leased => [.running, .queued]
  | .running => [.succeeded, .failed, .retrying, .cancelled, .deadLetter]
  | .retrying => [.queued]
  | .failed => [.retrying, .deadLetter]
  | .succeeded => []
  | .deadLetter => []
  | .cancelled => []

/-- `RUN_ATTEMPT_TRANSITIONS`. -/
def runAttemptTransitions : RunAttemptStatus → List RunAttemptStatus
  | .running => [.succeeded, .failed, .timeout, .cancelled, .workerLost]
  | .succeeded => []
  | .failed => []
  | .timeout => []
  | .cancelled => []
  | .workerLost => []

/-- `InvalidStateTransitionError`. -/
structure InvalidStateTransitionError where
  entity : String
  current : String
  target : String
  deriving DecidableEq, Repr

/-- The text the exception is built with. -/
def InvalidStateTransitionError.message (e : InvalidStateTransitionError) : String :=
  "Invalid " ++ e.entity ++ " transition: " ++ e.current ++ " -> " ++ e.target

/-- `assert_transition`, with the statuses' texts for the error. -/
def assertTransition {S : Type} [DecidableEq S] (value : S → String)
    (transitions : S → List S) (entity : String) (current target : S) :
    Except InvalidStateTransitionError Unit :=
  if target ∈ transitions current then
    .ok ()
  else
    .error { entity := entity, current := value current, target := value target }

/-- `assert_run_transition`. -/
def assertRunTransition (current target : RunStatus) : Except InvalidStateTransitionError Unit :=
  assertTransition RunStatus.value runTransitions "run" current target

/-- `assert_task_transition`. -/
def assertTaskTransition (current target : TaskStatus) : Except InvalidStateTransitionError Unit :=
  assertTransition TaskStatus.value taskTransitions "task" current target

/-- `assert_run_attempt_transition`. -/
def assertRunAttemptTransition (current target : RunAttemptStatus) :
    Except InvalidStateTransitionError Unit :=
  assertTransition RunAttemptStatus.value runAttemptTransitions "run_attempt" current target

/-- A status no transition leaves. -/
def TaskStatus.Final (s : TaskStatus) : Prop := taskTransitions s = []

instance (s : TaskStatus) : Decidable s.Final :=
  inferInstanceAs (Decidable (_ = _))

/-- The final task statuses are the three terminal ones. -/
theorem TaskStatus.final_iff (s : TaskStatus) :
    s.Final ↔ s = .succeeded ∨ s = .cancelled ∨ s = .deadLetter := by
  cases s <;> simp [TaskStatus.Final, taskTransitions]

end DimooRun.Runtime
