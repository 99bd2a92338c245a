/-
  Scheduler/RedisLives.lean --- lives of tasks in the Redis backend.

  Here every call runs to its end before the next one. What a method writes back is then
  the hash it has read, after one operation of `Scheduler/Lifecycle.lean`; so the calls
  take the tasks along their lives, and the executions of a task are bounded, as they are
  in the SQLAlchemy backend.
-/
import DimooRun.Scheduler.RedisSpec
import DimooRun.Scheduler.SqlLives

set_option autoImplicit false

namespace DimooRun.Scheduler

open Foundation DimooRun.Runtime
open Domain (RowOrder)
open RedisCommand

/-! ## One hash -/

/-- The dictionary that a method works on keeps the fields it has, so HSET stores just that
dictionary. -/
theorem HashOp.merge_of_run {op : HashOp} {t t' : TaskHash} {dead : Bool}
    (h : op.act.run t = .ok dead t') : t.merge t' = t' := by
  -- a method refuses, or it returns the hash with some of its fields set
  cases op with
  | fail w k error message now =>
    simp only [act, TaskHash.run_fail] at h
    repeat' split at h
    all_goals cases h
    all_goals simp [TaskHash.merge]
  | reap now =>
    simp only [act, TaskHash.run_reap] at h
    repeat' split at h
    all_goals cases h
    all_goals simp [TaskHash.merge]
  | _ =>
    obtain ⟨_, _, h, hpure⟩ := run_bind_eq_ok h
    cases hpure
    simp only [TaskHash.run_heartbeat, TaskHash.run_markRunning, TaskHash.run_complete,
      TaskHash.run_cancel] at h
    repeat' split at h
    all_goals cases h
    all_goals simp [TaskHash.merge]

/-! ## The server -/

namespace RedisStore

/-- The scheduling states of the tasks. -/
def board (store : RedisStore) : Board :=
  fun taskId => (store.tasks.get? taskId).map TaskHash.schedule

variable {store store' : RedisStore} {taskId : Int} {task found written : TaskHash} {op : HashOp}
  {dead : Bool}

theorem board_eq (h : store'.tasks.get? taskId = store.tasks.get? taskId) :
    store'.board taskId = store.board taskId :=
  congrArg (Option.map TaskHash.schedule) h

theorem board_of_get? (h : store.tasks.get? taskId = some task) :
    store.board taskId = some task.schedule := by
  rw [board, h]
  rfl

/-- HSET of what a method has made of the hash. -/
theorem get?_putTask_of_run (hfound : store.tasks.get? taskId = some found)
    (hrun : op.act.run found = .ok dead written) (id : Int) :
    (store.putTask taskId written).tasks.get? id =
      if id = taskId then some written else store.tasks.get? id := by
  rw [get?_putTask, hfound]
  simp only [HashOp.merge_of_run hrun]

/-- The hashes stay under their own ids; every task lives on, and none is started. -/
def Onward (store store' : RedisStore) : Prop :=
  store.Keyed → store'.Keyed ∧ Evolves store.board store'.board

instance : Std.Refl Onward := ⟨fun store h => ⟨h, .refl store.board⟩⟩

instance : IsTrans RedisStore Onward where
  trans _ _ _ h h' hkeyed :=
    ⟨(h' (h hkeyed).1).1, (h hkeyed).2.trans (h' (h hkeyed).1).2⟩

/-- HSET of what a method has made of the hash takes the task along its life. -/
theorem onward_putTask (hfound : store.tasks.get? taskId = some found)
    (hreap : ∀ now, op = .reap now → found.Expired now) (hstarts : ¬ op.taskOp.Starts)
    (hrun : op.act.run found = .ok dead written) : Onward store (store.putTask taskId written) := by
  intro hkeyed
  obtain ⟨happly, hsame, _⟩ := HashOp.done_of_run hreap hrun
  have hget := get?_putTask_of_run hfound hrun
  refine ⟨keyed_putTask hkeyed (hsame.taskId.trans (hkeyed taskId found hfound)), ?_⟩
  refine Evolves.of_apply (board_of_get? hfound) happly hstarts (board_of_get? ?_) fun id hid => ?_
  · rw [hget, if_pos rfl]
  · exact board_eq ((hget id).trans (if_neg hid))

/-- A lease of a queued task. -/
theorem evolves_leased {after : RedisStore} (w : String) (u now : Time)
    (htask : store.tasks.get? taskId = some task) (hqueued : task.status = .queued)
    (hafter : ∀ id, after.tasks.get? id =
      if id = taskId then some (task.leased w u now) else store.tasks.get? id) :
    Evolves store.board after.board := by
  have hclaim : (TaskOp.claim w u).apply task.schedule = some (task.leased w u now).schedule :=
    if_pos hqueued
  refine Evolves.of_apply (board_of_get? htask) hclaim id (board_of_get? ?_) fun id hid => ?_
  · rw [hafter, if_pos rfl]
  · exact board_eq ((hafter id).trans (if_neg hid))

theorem onward_evalLease (store : RedisStore) (name w : String) (u now : Time) :
    Onward store (exec (evalLease name w u now) store).2 := by
  intro hkeyed
  refine ⟨(exec_of_not_hset (fun _ _ heq => by cases heq) hkeyed).1, ?_⟩
  rcases scriptLoop_cases store name w u now (store.members name) with
    ⟨taskId, _, task, ⟨htask, hqueued, _⟩, hloop⟩ | hloop | hloop
  · simp only [exec, hloop]
    refine evolves_leased w u now htask hqueued fun id => ?_
    rw [tasks_grant, Dict.get?_set]
  · simp only [exec, hloop]
    exact .refl store.board
  · simp only [exec, hloop]
    exact .refl store.board

/-- HSET of a new lease. -/
theorem onward_putTask_leased (w : String) (u now : Time)
    (htask : store.tasks.get? taskId = some task) (hqueued : task.status = .queued) :
    Onward store (store.putTask taskId (task.leased w u now)) := by
  intro hkeyed
  have hid : (task.leased w u now).taskId = taskId := hkeyed taskId task htask
  refine ⟨keyed_putTask hkeyed hid, evolves_leased w u now htask hqueued fun id => ?_⟩
  have hmerge : task.merge (task.leased w u now) = task.leased w u now := by
    simp [TaskHash.merge, TaskHash.leased]
  rw [get?_putTask, htask]
  simp only [hmerge]

end RedisStore

/-! ## Methods -/

namespace RedisTaskBackend

open RedisStore

/-- Every run of the program takes the store onward. -/
abbrev RunsOnward {α : Type} (p : RedisM α) : Prop := Moves Onward (Program.run RedisStore.exec p)

variable (score : Int → Time → ℚ)

/-- What follows on HSET is about the sorted sets and the dead letters. -/
theorem tasks_afterwards (op : HashOp) (taskId : Int) (result : Bool × TaskHash)
    (store : RedisStore) :
    (endState ((Program.run RedisStore.exec (afterwards score op taskId result)).run store)).tasks =
      store.tasks := by
  cases op with
  | fail =>
    simp only [afterwards]
    split
    · split <;> rfl
    · rfl
  | _ => rfl

theorem runsOnward_reapTask (now : Time) (queue : String) (taskId : Int) :
    RunsOnward (reapTask score now queue taskId) := by
  intro store hkeyed
  cases hfound : store.tasks.get? taskId with
  | none =>
    rw [reapTask, Program.run_bind, run_task, hfound]
    exact refl (r := Onward) store hkeyed
  | some found =>
    rcases run_reapTask_cases score now queue hfound with
      ⟨_, hrun⟩ | ⟨⟨_, hexpired⟩, dead, reaped, hreaped, hrun⟩
    · rw [hrun]
      exact refl (r := Onward) store hkeyed
    · have hreap : ∀ now', HashOp.reap now = .reap now' → found.Expired now' := by
        rintro _ ⟨⟩
        exact hexpired
      have hid : reaped.taskId = taskId :=
        (HashOp.done_of_run hreap hreaped).2.1.taskId.trans (hkeyed taskId found hfound)
      have hput := onward_putTask hfound hreap id hreaped hkeyed
      rw [hrun, hid]
      cases dead with
      | true => exact hput
      | false => exact hput

theorem compositional_runsOnward : Compositional score RunsOnward where
  done _ store := refl store
  raised _ store := refl store
  bind hp hf := by
    unfold RunsOnward
    rw [Program.run_bind_eq]
    exact Moves.bind hp hf
  keys _ store := refl store
  zrange _ store := refl store
  evalLease queue w u now store := onward_evalLease store queue w u now
  reapTask := runsOnward_reapTask score
  leaseEach := by
    intro now queue w n taskId rest hrest store hkeyed
    rw [leaseEach, Program.run_bind, run_task]
    cases hfound : store.tasks.get? taskId with
    | none => exact refl (r := Onward) store hkeyed
    | some found =>
      dsimp only
      split
      · exact hrest store hkeyed
      split
      · exact hrest store hkeyed
      rename_i hqueued _
      have hid : found.taskId = taskId := hkeyed taskId found hfound
      have hput := onward_putTask_leased w (now + seconds n) now hfound (not_not.mp hqueued) hkeyed
      rw [← hid] at hput
      exact hput

/-! ## Calls -/

/-- What a call that returned has enqueued. -/
def enqueuedBy : Except RedisError (DurableReply TaskHash) → Option Int
  | .ok (.enqueued taskId) => some taskId
  | _ => none

/-- What a call that returned has put into running. -/
def startedBy : DurableCall → Except RedisError (DurableReply TaskHash) → Option Int
  | .markRunning _ taskId _ _, .ok _ => some taskId
  | _, _ => none

section

variable (str : PyValue → String) (scripts : Bool)

/-- One call. -/
def exec (store : RedisStore) (call : DurableCall) :
    Except RedisError (DurableReply TaskHash) × RedisStore :=
  (report ((Program.run RedisStore.exec (method score str scripts call)).run store),
    endState ((Program.run RedisStore.exec (method score str scripts call)).run store))

/-- The Redis backend. -/
def durable : DurableBackend RedisStore DurableCall (Except RedisError (DurableReply TaskHash)) where
  exec := exec score str scripts
  board := RedisStore.board
  enqueued _ reply := enqueuedBy reply
  started := startedBy

/-- The store stays keyed, and the call takes the tasks along their lives. -/
def StepsKeyed (call : DurableCall) : Prop :=
  ∀ store : RedisStore, store.Keyed →
    (exec score str scripts store call).2.Keyed ∧ (durable score str scripts).Steps store call

/-- A call that neither enqueues nor starts. -/
theorem stepsKeyed_of_runsOnward {call : DurableCall}
    (h : RunsOnward (method score str scripts call))
    (hcall : ∀ now taskId w k, call ≠ .markRunning now taskId w k) :
    StepsKeyed score str scripts call := by
  intro store hkeyed
  obtain ⟨hkeyed', hevolves⟩ := h store hkeyed
  refine ⟨hkeyed', fun taskId _ => ?_⟩
  have hstarted : startedBy call (exec score str scripts store call).1 ≠ some taskId := by
    intro heq
    cases call with
    | markRunning now taskId w k => exact hcall now taskId w k rfl
    | _ => cases heq
  show LivesOn (if startedBy call (exec score str scripts store call).1 = some taskId then 1 else 0)
    _ _ taskId
  rw [if_neg hstarted]
  exact hevolves taskId

variable {call : DurableCall} {taskId : Int} {op : HashOp}

/-- What a call on one task comes to. -/
theorem exec_update (h : methodOn str call = some (taskId, op)) (store : RedisStore) :
    exec score str scripts store call =
      match store.tasks.get? taskId with
      | none => (.error (.task (.keyError taskId)), store)
      | some found =>
          match op.act.run found with
          | .ok dead written =>
              let result := (Program.run RedisStore.exec
                (afterwards score op taskId (dead, written))).run (store.putTask taskId written)
              ((report result).map fun _ => .done, endState result)
          | .error e _ => (.error (.task e), store) := by
  rw [exec, method_eq_update scripts h, Program.run_bind, run_update]
  cases store.tasks.get? taskId with
  | none => rfl
  | some found =>
    dsimp only
    cases op.act.run found with
    | ok dead written =>
      dsimp only
      cases (Program.run RedisStore.exec (afterwards score op taskId (dead, written))).run
        (store.putTask taskId written) <;> rfl
    | error e written => rfl

/-- Only a dead letter may still fail. -/
theorem report_afterwards
    (h : ∀ w k error message now, op = .fail w k error message now → (PyValue.dict error).Encodable)
    (result : Bool × TaskHash) (store : RedisStore) :
    report ((Program.run RedisStore.exec (afterwards score op taskId result)).run store) =
      .ok () := by
  cases op with
  | fail w k error message now =>
    simp only [afterwards, if_pos (h w k error message now rfl)]
    split <;> rfl
  | _ => rfl

/-- A method on one task takes it along its life, or raises and leaves all tasks. -/
theorem stepsKeyed_update (h : methodOn str call = some (taskId, op)) :
    StepsKeyed score str scripts call := by
  intro store hkeyed
  have hexec := exec_update score str scripts h store
  have hstarted : ∀ result store id,
      startedBy call ((report ((Program.run RedisStore.exec
        (afterwards score op taskId result)).run store)).map fun _ => .done) = some id ↔
          op.taskOp.Starts ∧ id = taskId := by
    intro result store id
    cases call with
    | markRunning now taskId' w k =>
      cases h
      show some taskId = some id ↔ True ∧ id = taskId
      rw [Option.some_inj, true_and, eq_comm]
    | _ => cases h <;> simp [startedBy, HashOp.taskOp, TaskOp.Starts]
  cases hfound : store.tasks.get? taskId with
  | none =>
    simp only [hfound] at hexec
    simp only [DurableBackend.Steps, durable, hexec, startedBy]
    exact ⟨hkeyed, fun _ _ => .same rfl⟩
  | some found =>
    simp only [hfound] at hexec
    cases hrun : op.act.run found with
    | error e written =>
      simp only [hrun] at hexec
      simp only [DurableBackend.Steps, durable, hexec, startedBy]
      exact ⟨hkeyed, fun _ _ => .same rfl⟩
    | ok dead written =>
      simp only [hrun] at hexec
      obtain ⟨happly, hsame, _⟩ :=
        HashOp.done_of_run (fun now heq => absurd heq (ne_reap_of_methodOn h now)) hrun
      have hget : ∀ id, (exec score str scripts store call).2.tasks.get? id =
          if id = taskId then some written else store.tasks.get? id := by
        rw [hexec, tasks_afterwards]
        exact RedisStore.get?_putTask_of_run hfound hrun
      rw [hexec] at hget
      simp only [DurableBackend.Steps, durable, hexec, hstarted]
      refine ⟨?_, fun id _ => ?_⟩
      · rw [RedisStore.Keyed, tasks_afterwards]
        exact keyed_putTask hkeyed (hsame.taskId.trans (hkeyed taskId found hfound))
      exact .of_write (RedisStore.board_of_get? hfound) happly
        (RedisStore.board_of_get? ((hget taskId).trans (if_pos rfl)))
        (fun id hid => RedisStore.board_eq ((hget id).trans (if_neg hid))) id

/-- `enqueue` replaces the task under its id, and leaves the others. -/
theorem stepsKeyed_enqueue (now : Time) (input : TaskInput) :
    StepsKeyed score str scripts (.enqueue now input) := by
  intro store hkeyed
  obtain ⟨taskId, store', hid, htasks⟩ : ∃ taskId store',
      (Program.run RedisStore.exec (idFor input)).run store = .ok taskId store' ∧
        store'.tasks = store.tasks := by
    unfold idFor
    split
    · exact ⟨_, _, rfl, rfl⟩
    · split
      · exact ⟨_, _, rfl, rfl⟩
      · exact ⟨_, _, rfl, rfl⟩
  have hexec : exec score str scripts store (.enqueue now input) =
      (.ok (.enqueued taskId),
        (store'.putTask taskId (record now input taskId)).addMember (record now input taskId).queue
          taskId (queueScore score (record now input taskId))) := by
    simp only [exec, method, enqueue, Program.run_bind, hid]
    rfl
  have hkeyed' : store'.Keyed := fun id task htask => hkeyed id task (htasks ▸ htask)
  simp only [DurableBackend.Steps, durable, hexec]
  refine ⟨keyed_putTask hkeyed' rfl, fun id hne => .same (RedisStore.board_eq ?_)⟩
  have hne' : id ≠ taskId := by
    rintro rfl
    exact hne rfl
  rw [tasks_addMember, get?_putTask, if_neg hne', htasks]

theorem stepsKeyed_exec (call : DurableCall) : StepsKeyed score str scripts call := by
  have honward := compositional_runsOnward score
  cases hop : methodOn str call with
  | some on => exact stepsKeyed_update score str scripts hop
  | none =>
    cases call with
    | enqueue now input => exact stepsKeyed_enqueue score str scripts now input
    | lease | reapExpiredLeases =>
      refine stepsKeyed_of_runsOnward score str scripts ?_ nofun
      exact honward.method scripts (fun _ _ h => nomatch hop.symm.trans h) fun _ _ h => nomatch h
    | _ => cases hop

theorem boundedExecutions_redis : (durable score str scripts).BoundedExecutions .empty := by
  refine DurableBackend.boundedExecutions (I := RedisStore.Keyed) .empty ?_ ?_ ?_
  · intro taskId task htask
    simp [RedisStore.empty] at htask
  · exact fun store call hkeyed => (stepsKeyed_exec score str scripts call store hkeyed).1
  · exact fun store call hkeyed => (stepsKeyed_exec score str scripts call store hkeyed).2

end

end RedisTaskBackend

/-- In both backends, whatever is called by whom at any time: a task that is enqueued with
attempt 0 is put into running at most `max(1, max_attempts)` times, its attempt never falls, and
stays below `max_attempts` if that is positive. The SQLAlchemy backend never uses an id
again. -/
theorem executions_bounded (quota : Option RuntimeQuota) (str : PyValue → String)
    (score : Int → Time → ℚ) (scripts : Bool) :
    (SqlBackend.durable quota str).BoundedExecutions SqlBackend.empty ∧
      (RedisTaskBackend.durable score str scripts).BoundedExecutions RedisStore.empty ∧
      ∀ (earlier : List SqlBackend.Step) (step : SqlBackend.Step) (later : List SqlBackend.Step)
        (taskId : Int),
        SqlBackend.enqueuedBy
          (SqlBackend.exec quota str (final (SqlBackend.exec quota str) .empty earlier) step).1 =
            some taskId →
          ∀ e ∈ trace (SqlBackend.exec quota str)
            (SqlBackend.exec quota str (final (SqlBackend.exec quota str) .empty earlier) step).2
            later, SqlBackend.enqueuedBy e.reply ≠ some taskId :=
  ⟨SqlBackend.boundedExecutions_sql quota str,
    RedisTaskBackend.boundedExecutions_redis score str scripts,
    SqlBackend.enqueued_once quota str⟩

/-- In both backends, whatever is called by whom at any time, tasks move forward only, as long as
no call starts before the one before it has ended. -/
theorem tasks_move_forward (quota : Option RuntimeQuota) (str : PyValue → String)
    (score : Int → Time → ℚ) (scripts : Bool) :
    (SqlBackend.durable quota str).MovesForward SqlBackend.empty ∧
      (RedisTaskBackend.durable score str scripts).MovesForward RedisStore.empty := by
  have hredis := RedisTaskBackend.stepsKeyed_exec score str scripts
  refine ⟨DurableBackend.movesForward (I := fun _ => True) _ trivial (fun _ _ _ => trivial)
      fun b step _ => SqlBackend.steps_exec quota str b step,
    DurableBackend.movesForward (I := RedisStore.Keyed) _ ?_
      (fun store call h => (hredis call store h).1) fun store call h => (hredis call store h).2⟩
  intro taskId task htask
  simp [RedisStore.empty] at htask

end DimooRun.Scheduler
