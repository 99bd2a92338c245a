/-
  Scheduler/SqlLives.lean --- lives of tasks in the SQLAlchemy backend.

  Every method on a row does one operation of `Scheduler/Lifecycle.lean` to its
  scheduling state, or raises because that operation is refused. So every call of the
  backend takes the tasks along their lives, also a call that raises halfway through the
  reaper's loop.
-/
import DimooRun.Scheduler.SqlBackend

set_option autoImplicit false

namespace DimooRun.Scheduler

open Foundation DimooRun.Runtime
open Domain (RunAttempt RowOrder)
open TaskRow

/-! ## One row -/

/-- The lease of a last attempt is lost. -/
def TaskRow.LastAttempt (task : TaskRow) : Prop :=
  task.status = .running ∧ task.attempt + 1 ≥ task.maxAttempts

instance (task : TaskRow) : Decidable (task.LastAttempt) :=
  inferInstanceAs (Decidable (_ ∧ _))

/-- The row after the reaper's method. -/
def TaskRow.reaped (now : Time) (task : TaskRow) : TaskRow := endState ((reap now).run task)

/-- It is given up if its last attempt was lost, and not expired in any case. -/
theorem TaskRow.run_reap_of_expired {now : Time} {task : TaskRow} (h : task.Expired now) :
    (reap now).run task = .ok (decide (task.LastAttempt)) (reaped now task) := by
  unfold reaped
  rw [run_reap]
  rcases h.1 with hleased | hrunning
  · simp [hleased, TaskRow.LastAttempt]
  · by_cases hlast : task.attempt + 1 ≥ task.maxAttempts <;>
      simp [hrunning, hlast, TaskRow.LastAttempt]

theorem TaskRow.writes_reaped {now : Time} {task : TaskRow} (h : task.Expired now) :
    (TaskOp.expire now).apply (schedule task) = some (schedule (reaped now task)) ∧
      RowOp.Writes task (reaped now task) := by
  obtain ⟨_, happly, rfl, hwrites⟩ := (RowOp.refines task (.reap now)
    (by rintro _ ⟨⟩; exact ⟨h.1, h.2.1⟩)).of_ok (run_reap_of_expired h)
  exact ⟨happly, hwrites⟩

/-! ## The tables -/

namespace SqlBackend

/-- The scheduling states of the tasks. -/
def board (b : SqlBackend) : Board := fun taskId => (b.tasks.get? taskId).map schedule

variable {b b' : SqlBackend} {taskId : Int} {row : TaskRow} {op : RowOp}

theorem board_eq (h : b'.tasks.get? taskId = b.tasks.get? taskId) :
    b'.board taskId = b.board taskId :=
  congrArg (Option.map schedule) h

theorem board_of_get? (h : b.tasks.get? taskId = some row) :
    b.board taskId = some (schedule row) := by
  rw [board, h]
  rfl

/-- Every task lives on, and none is started. -/
def Onward (b b' : SqlBackend) : Prop := Evolves b.board b'.board

instance : Std.Refl Onward := ⟨fun b => .refl b.board⟩

instance : IsTrans SqlBackend Onward := ⟨fun _ _ _ h h' => Evolves.trans h h'⟩

/-- The tasks and the attempts are the same, and the database is. -/
def SameTasks (b b' : SqlBackend) : Prop :=
  b'.tasks = b.tasks ∧ b'.attempts = b.attempts ∧ b'.database = b.database

instance : Std.Refl SameTasks := ⟨fun _ => ⟨rfl, rfl, rfl⟩⟩

instance : IsTrans SqlBackend SameTasks :=
  ⟨fun _ _ _ h h' => ⟨h'.1.trans h.1, h'.2.1.trans h.2.1, h'.2.2.trans h.2.2⟩⟩

theorem get?_update_const (h : b.tasks.get? taskId = some row) (row' : TaskRow) (id : Int) :
    (b.tasks.update taskId fun _ => row').get? id =
      if id = taskId then some row' else b.tasks.get? id := by
  rw [Domain.Table.get?_update, h]
  rfl

theorem update_const_self {t : Domain.Table TaskRow} {id : Int} (h : t.get? id = some row) :
    (t.update id fun _ => row) = t := by
  unfold Domain.Table.update
  split
  · rfl
  · unfold Domain.Table.put
    obtain ⟨rows, nextId, hlt⟩ := t
    simp only [Domain.Table.mk.injEq, and_true]
    exact Dict.set_eq_self h

/-- One row takes an operation that does not start it. -/
theorem onward_update {op : TaskOp} {f : TaskRow → TaskRow} (hrow : b.tasks.get? taskId = some row)
    (hop : op.apply (schedule row) = some (schedule (f row))) (hstarts : ¬ op.Starts)
    (htasks : b'.tasks = b.tasks.update taskId f) : Onward b b' := by
  have hget : ∀ id, b'.tasks.get? id =
      if id = taskId then some (f row) else b.tasks.get? id := by
    intro id
    rw [htasks, Domain.Table.get?_update, hrow]
    rfl
  exact Evolves.of_apply (board_of_get? hrow) hop hstarts
    (board_of_get? ((hget taskId).trans (if_pos rfl)))
    fun id hid => board_eq ((hget id).trans (if_neg hid))

/-! ## The reaper -/

theorem sameTasks_failRunForReaper (runId : Int) : Moves SameTasks (failRunForReaper runId) := by
  refine Moves.bind Moves.get fun b => ?_
  cases b.runs.get? runId with
  | none => exact Moves.pure ()
  | some run =>
    dsimp only
    split
    · exact Moves.pure ()
    · refine Moves.bind (fun b => ⟨rfl, rfl, rfl⟩) fun _ => ?_
      cases assertRunTransition _ RunStatus.failed with
      | ok u => exact fun b => ⟨rfl, rfl, rfl⟩
      | error e => exact Moves.throw _

theorem sameTasks_appendReaperEvent (task : TaskRow) (type : String) (payload : PyDict) :
    Moves SameTasks (appendReaperEvent task type payload) := by
  intro b
  show SameTasks b (endState (appendReaperEvent task type payload b))
  unfold appendReaperEvent
  dsimp only
  split
  · exact ⟨rfl, rfl, rfl⟩
  · split <;> exact ⟨rfl, rfl, rfl⟩

theorem sameTasks_flushFailed (failed : Option RunAttempt) :
    Moves SameTasks (flushFailed failed) := by
  refine Moves.bind Moves.get fun b => ?_
  cases failed with
  | none => exact Moves.pure ()
  | some attempt =>
    dsimp only
    split
    · exact Moves.pure ()
    · exact Moves.throw _

theorem sameTasks_reapRun (task : TaskRow) (latest : Option (Int × RunAttempt))
    (failed : Option RunAttempt) (taskId : Int) (dead : Bool) :
    Moves SameTasks (reapRun task latest failed taskId dead) := by
  cases dead with
  | true =>
    refine Moves.bind (sameTasks_failRunForReaper _) fun _ => ?_
    refine Moves.bind (sameTasks_flushFailed _) fun _ => ?_
    refine Moves.bind (sameTasks_appendReaperEvent _ _ _) fun _ => ?_
    refine Moves.bind (sameTasks_appendReaperEvent _ _ _) fun _ => ?_
    exact Moves.bind (sameTasks_appendReaperEvent _ _ _) fun _ => sameTasks_appendReaperEvent _ _ _
  | false =>
    refine Moves.bind (sameTasks_flushFailed _) fun _ => ?_
    refine Moves.bind ?_ fun _ => sameTasks_appendReaperEvent _ _ _
    split
    · exact sameTasks_appendReaperEvent _ _ _
    · exact Moves.pure ()

variable {now : Time}

/-- The attempt that the reaper fails with the task. -/
def lost (b : SqlBackend) (now : Time) (order : RowOrder) (taskId : Int) (row : TaskRow) :
    Option RunAttempt :=
  if row.status = .running then
    ((b.latestAttempt order taskId).filter fun latest => latest.2.status = .running).map
      fun latest => failedAttempt now latest.2
  else none

theorem mem_latestAttempt {order : RowOrder} {latest : Int × RunAttempt}
    (h : b.latestAttempt order taskId = some latest) :
    b.attempts.get? latest.1 = some latest.2 ∧ latest.2.taskId = some taskId := by
  have hmem := (List.mem_insertionSort _).mp (List.mem_of_head? h)
  obtain ⟨id, _, hget⟩ := List.mem_filterMap.mp hmem
  obtain ⟨attempt, hattempt, rfl⟩ := Option.map_eq_some_iff.mp hget
  obtain ⟨hattempt, hof⟩ := Option.filter_eq_some_iff.mp hattempt
  exact ⟨hattempt, (of_decide_eq_true hof).1⟩

/-- One attempt of a task is the latest of no other, whatever else it becomes. -/
theorem latestAttempt_set {order : RowOrder} {id other : Int} {attempt attempt' : RunAttempt}
    (hget : b.attempts.get? id = some attempt) (hof : attempt.taskId = some taskId)
    (hsame : attempt'.taskId = attempt.taskId) (hne : other ≠ taskId) :
    { b with attempts := b.attempts.set id attempt' }.latestAttempt order other =
      b.latestAttempt order other := by
  have hnot : ∀ attempt : RunAttempt, attempt.taskId = some taskId →
      decide (attempt.taskId = some other ∧ attempt.isDeleted = false) = false := by
    intro attempt hattempt
    simp [hattempt, Ne.symm hne]
  have hkeys : (b.attempts.set id attempt').keys = b.attempts.keys :=
    Dict.keys_set_of_mem ((Dict.mem_keys_iff _).mpr ⟨attempt, hget⟩)
  unfold latestAttempt
  simp only [hkeys]
  refine congrArg (fun l => (List.insertionSort _ l).head?) (List.filterMap_congr fun key _ => ?_)
  rw [Dict.get?_set]
  split
  · rename_i hkey
    rw [hkey, hget]
    simp [Option.filter, hnot attempt hof, hnot attempt' (hsame.trans hof)]
  · rfl

/-- One round of the loop comes down to its last part, on tables where the attempt has failed
and the task is put back or given up. -/
theorem run_reapTask_of_expired (hrow : b.tasks.get? taskId = some row)
    (hexpired : row.Expired now) (order : RowOrder) :
    ∃ attempts, (reapTask now order taskId).run b =
      (reapRun row (b.latestAttempt order taskId) (b.lost now order taskId row) taskId
        (row.LastAttempt)).run { b with
          attempts := attempts
          tasks := b.tasks.update taskId fun _ => reaped now row } ∧
      ∀ other, other ≠ taskId → { b with attempts := attempts }.latestAttempt order other =
        b.latestAttempt order other := by
  obtain ⟨attempts, hattempts, hothers⟩ : ∃ attempts, (if row.status = .running then
      failAttemptForReaper now (b.latestAttempt order taskId) else pure none).run b =
        .ok (b.lost now order taskId row) { b with attempts := attempts } ∧
      ∀ other, other ≠ taskId → { b with attempts := attempts }.latestAttempt order other =
        b.latestAttempt order other := by
    unfold lost
    split
    · unfold failAttemptForReaper
      cases hlatest : b.latestAttempt order taskId with
      | none => exact ⟨_, rfl, fun _ _ => rfl⟩
      | some latest =>
        obtain ⟨hget, hof⟩ := mem_latestAttempt hlatest
        dsimp only
        split
        · rename_i hrunning
          exact ⟨b.attempts, by simp [Option.filter, hrunning], fun _ _ => rfl⟩
        · rename_i hrunning
          refine ⟨b.attempts.set latest.1 (failedAttempt now latest.2), ?_,
            fun other hne => latestAttempt_set hget hof rfl hne⟩
          simp only [Option.filter, not_not.mp hrunning]
          rfl
    · exact ⟨_, rfl, fun _ _ => rfl⟩
  have hwith : (withTask taskId (.reap now)).run { b with attempts := attempts } =
      .ok (decide (row.LastAttempt))
        { b with
          attempts := attempts
          tasks := b.tasks.update taskId fun _ => reaped now row } := by
    show withTask taskId (.reap now) _ = _
    simp only [withTask, hrow, RowOp.act, run_reap_of_expired hexpired]
  refine ⟨attempts, ?_, hothers⟩
  unfold reapTask
  rw [EStateM.run_bind, EStateM.run_get]
  dsimp only
  rw [hrow]
  dsimp only
  rw [EStateM.run_bind, hattempts]
  dsimp only
  rw [EStateM.run_bind, hwith]

/-- The reaper leaves all rows but the one it reaps. -/
theorem tasks_reapTask (hrow : b.tasks.get? taskId = some row)
    (hexpired : row.Expired now) (order : RowOrder) :
    (endState ((reapTask now order taskId).run b)).tasks =
      b.tasks.update taskId fun _ => reaped now row := by
  obtain ⟨attempts, hrun, _⟩ := run_reapTask_of_expired hrow hexpired order
  rw [hrun]
  exact (sameTasks_reapRun row _ _ taskId _ _).1

/-- The reaper's loop, over different rows that are all expired. -/
theorem onward_reapEach (now : Time) (order : RowOrder) (taskIds : List Int) :
    ∀ b : SqlBackend, taskIds.Nodup →
      (∀ taskId ∈ taskIds, ∃ row, b.tasks.get? taskId = some row ∧ row.Expired now) →
        Onward b (endState ((reapEach now order taskIds).run b)) := by
  induction taskIds with
  | nil => exact fun b _ _ => refl b
  | cons taskId rest ih =>
    intro b hnodup hexpired
    obtain ⟨hnot, hrest⟩ := List.nodup_cons.mp hnodup
    obtain ⟨row, hrow, hrowExpired⟩ := hexpired taskId List.mem_cons_self
    have htasks := tasks_reapTask hrow hrowExpired order
    have hone := onward_update (f := fun _ => reaped now row) hrow
      (writes_reaped hrowExpired).1 id htasks
    rw [reapEach, EStateM.run_bind]
    cases hrun : (reapTask now order taskId).run b with
    | error e b' =>
      rw [hrun] at hone
      exact hone
    | ok u b' =>
      rw [hrun] at hone htasks
      -- the other rows are as they were, so they are still expired
      have hnext := ih b' hrest fun id hid => by
        rw [show b'.tasks = _ from htasks, get?_update_const hrow,
          if_neg (by rintro rfl; exact hnot hid)]
        exact hexpired id (List.mem_cons_of_mem taskId hid)
      refine IsTrans.trans _ _ _ hone ?_
      rw [endState_run_bind_pure]
      exact hnext

theorem mem_expired {order : RowOrder} :
    taskId ∈ b.expired now order ↔ ∃ row, b.tasks.get? taskId = some row ∧ row.Expired now := by
  unfold expired
  rw [List.mem_filter, (order.perm _).mem_iff, Dict.mem_keys_iff]
  constructor
  · rintro ⟨_, h⟩
    cases hget : b.tasks.get? taskId with
    | none => simp [hget] at h
    | some row =>
      simp only [hget, decide_eq_true_eq] at h
      exact ⟨row, rfl, h⟩
  · rintro ⟨row, hrow, hexpired⟩
    refine ⟨⟨row, hrow⟩, ?_⟩
    simp only [hrow, decide_eq_true_eq]
    exact hexpired

section

variable (b now) (order : RowOrder)

theorem nodup_expired : (b.expired now order).Nodup :=
  List.Nodup.filter _ ((order.perm _).nodup_iff.mpr b.tasks.rows.nodup)

theorem onward_reapExpiredLeases : Moves Onward (reapExpiredLeases now order) :=
  fun b => onward_reapEach now order (b.expired now order) b (nodup_expired b now order)
    fun _ hmem => mem_expired.mp hmem

/-! ## Lease and enqueue -/

/-- The block of a candidate leaves its scheduling state. -/
theorem onward_blocked (taskId : Int) (e : QuotaExceededError) :
    Onward b { b with tasks := b.tasks.update taskId fun row => SqlTasks.blocked row e } := by
  intro id
  refine .same ?_
  unfold board
  rw [Domain.Table.get?_update]
  split
  · rename_i hid
    rw [hid]
    cases b.tasks.get? taskId with
    | none => rfl
    | some row => rfl
  · rfl

end

theorem onward_claimQueuedTask (taskId : Int) (w : String) (u now : Time) :
    Moves Onward (claimQueuedTask taskId w u now) := by
  intro b
  show Onward b (endState (claimQueuedTask taskId w u now b))
  unfold claimQueuedTask
  cases hget : b.tasks.get? taskId with
  | none => exact refl b
  | some row =>
    dsimp only
    cases assertTaskTransition row.status .leased with
    | error e => exact refl b
    | ok _ =>
      dsimp only
      split
      · rename_i hclaim
        have hclaimed : (TaskOp.claim w u).apply (schedule row) =
            some (schedule (claimed w u now row)) := if_pos hclaim.1
        exact onward_update hget hclaimed id rfl
      · exact refl b

variable (quota : Option RuntimeQuota)

theorem onward_leaseEach (w : String) (u now : Time) (candidates : List TaskRow) :
    ∀ lastQuotaError, Moves Onward (leaseEach quota w u now candidates lastQuotaError) := by
  induction candidates with
  | nil => exact fun _ => Moves.bind (fun b => .refl b.board) fun _ => Moves.pure _
  | cons candidate rest ih =>
    intro lastQuotaError
    refine Moves.bind Moves.get fun b => ?_
    cases b.assertCanLease quota candidate with
    | error e =>
      exact Moves.bind (fun b => onward_blocked b candidate.id e) fun _ => ih (some e)
    | ok _ =>
      refine Moves.bind (onward_claimQueuedTask candidate.id w u now) fun claimed => ?_
      cases claimed with
      | none => exact ih lastQuotaError
      | some task =>
        refine Moves.bind (fun b => .refl b.board) fun _ => ?_
        exact Moves.bind Moves.get fun b => Moves.pure _

theorem onward_lease (now reapNow : Time)
    (order reapOrder : RowOrder) (queue w : String) (n : Int) :
    Moves Onward (lease quota now reapNow order reapOrder queue w n) := by
  refine Moves.bind (onward_reapExpiredLeases reapNow reapOrder) fun _ => ?_
  refine Moves.bind Moves.get fun b => ?_
  cases b.candidates now order queue with
  | nil => exact Moves.pure none
  | cons candidate rest => exact onward_leaseEach quota w _ now _ none

theorem sameTasks_field (name : String) (value : Option Int) :
    Moves SameTasks (field name value) := by
  cases value with
  | none => exact Moves.throw _
  | some value => exact Moves.pure value

theorem sameTasks_assertCanEnqueue (input : TaskInput) :
    Moves SameTasks (assertCanEnqueue quota input) := by
  cases quota with
  | none => exact Moves.pure ()
  | some quota =>
    refine Moves.bind (sameTasks_field _ _) fun tenantId => ?_
    refine Moves.bind (sameTasks_field _ _) fun projectId => ?_
    exact Moves.bind Moves.get fun b => Moves.orRaise _

/-- A task was added under the next id, or an exception was raised and the rows are as they
were. -/
def Added (b : SqlBackend) : EStateM.Result SqlError SqlBackend Int → Prop
  | .ok taskId b' => taskId = b.tasks.nextId ∧ ∃ row, b'.tasks = b.tasks.insert row
  | .error _ b' => SameTasks b b'

theorem added_bind {α : Type} {m : SqlM α} {f : α → SqlM Int} (hm : Moves SameTasks m)
    (hf : ∀ a b', SameTasks b b' → Added b ((f a).run b')) :
    ∀ b', SameTasks b b' → Added b ((m >>= f).run b') := by
  intro b' hb'
  cases hrun : m.run b' with
  | error e b'' =>
    rw [run_bind_of_error hrun]
    exact IsTrans.trans (r := SameTasks) _ _ _ hb' (hm.of_error hrun)
  | ok a b'' =>
    rw [run_bind_of_ok hrun]
    exact hf a b'' (IsTrans.trans _ _ _ hb' (hm.of_ok hrun))

theorem added_enqueue (now : Time) (input : TaskInput)
    (b : SqlBackend) : Added b ((enqueue quota now input).run b) := by
  refine added_bind (sameTasks_assertCanEnqueue quota input) (fun _ => ?_) b (refl b)
  refine added_bind (sameTasks_field _ _) (fun runId => ?_)
  refine added_bind (sameTasks_field _ _) (fun tenantId => ?_)
  refine added_bind (sameTasks_field _ _) (fun projectId => ?_)
  intro b' hb'
  simp only [EStateM.run_bind, EStateM.run_get]
  split
  · exact hb'
  split
  · exact hb'
  have hrows : b'.tasks = b.tasks := hb'.1
  refine ⟨congrArg Domain.Table.nextId hrows, newTask now input runId tenantId projectId, ?_⟩
  rw [← hrows]

/-! ## Calls -/

/-- What a call that returned has enqueued. -/
def enqueuedBy : Except SqlError (DurableReply SqlSnapshot) → Option Int
  | .ok (.enqueued taskId) => some taskId
  | _ => none

/-- What a call that returned has put into running. -/
def startedBy : Step → Except SqlError (DurableReply SqlSnapshot) → Option Int
  | .call _ (.markRunning _ taskId _ _), .ok _ => some taskId
  | _, _ => none

/-- The SQLAlchemy backend. -/
def durable (quota : Option RuntimeQuota) (str : PyValue → String) :
    DurableBackend SqlBackend Step (Except SqlError (DurableReply SqlSnapshot)) where
  exec := exec quota str
  board := board
  enqueued _ reply := enqueuedBy reply
  started := startedBy

section

variable (quota : Option RuntimeQuota) (str : PyValue → String)
  {call : DurableCall} {b b' : SqlBackend}

theorem exec_call_ok (rolledBack : Bool) {reply : DurableReply SqlSnapshot}
    (h : (method quota str call).run b = .ok reply b') :
    exec quota str b (.call rolledBack call) = (.ok reply, b') := by
  simp only [exec, h]

/-- A call that raises leaves what it has done so far, or the tables as they were. -/
theorem exec_call_error (rolledBack : Bool) {e : SqlError}
    (h : (method quota str call).run b = .error e b') :
    exec quota str b (.call rolledBack call) = (.error e, rollback b b') ∨
      exec quota str b (.call rolledBack call) = (.error e, b') := by
  simp only [exec, h]
  split
  · exact .inl rfl
  · exact .inr rfl

/-- What a call returns with, or has done when it raises: that may be rolled back. -/
theorem steps_call {α : Type} {m : SqlM α} {reply : α → DurableReply SqlSnapshot}
    {rolledBack : Bool} (hcall : method quota str call = (do let a ← m; pure (reply a)))
    (hok : ∀ a b', m.run b = .ok a b' → ∀ taskId, enqueuedBy (.ok (reply a)) ≠ some taskId →
      LivesOn (if startedBy (.call rolledBack call) (.ok (reply a)) = some taskId then 1 else 0)
        b.board b'.board taskId)
    (herror : ∀ e b', m.run b = .error e b' → Onward b b') :
    (durable quota str).Steps b (.call rolledBack call) := by
  intro taskId hid
  cases hrun : m.run b with
  | ok a b' =>
    have hmethod : (method quota str call).run b = .ok (reply a) b' := by
      rw [hcall, run_bind_of_ok hrun]
      rfl
    simp only [durable, exec_call_ok quota str rolledBack hmethod] at hid ⊢
    exact hok a b' hrun taskId hid
  | error e b' =>
    have hmethod : (method quota str call).run b = .error e b' := by
      rw [hcall, run_bind_of_error hrun]
    rcases exec_call_error quota str rolledBack hmethod with hexec | hexec
    · simp only [durable, hexec, startedBy]
      exact .same rfl
    · simp only [durable, hexec, startedBy]
      exact herror e b' hrun taskId

/-- A call that neither enqueues nor starts. -/
theorem steps_of_onward {α : Type} {m : SqlM α} {reply : α → DurableReply SqlSnapshot}
    {rolledBack : Bool} (hcall : method quota str call = (do let a ← m; pure (reply a)))
    (h : Moves Onward m) (hstarts : ∀ now taskId w k, call ≠ .markRunning now taskId w k) :
    (durable quota str).Steps b (.call rolledBack call) := by
  refine steps_call quota str hcall (fun a b' hrun taskId _ => ?_) fun e b' hrun => ?_
  · have hstarted : startedBy (.call rolledBack call) (.ok (reply a)) ≠ some taskId := by
      intro heq
      cases call with
      | markRunning now taskId w k => exact hstarts now taskId w k rfl
      | _ => cases heq
    rw [if_neg hstarted]
    exact h.of_ok hrun taskId
  · exact h.of_error hrun

/-- The task and the method of a call that is a method on one row. -/
def rowCall (str : PyValue → String) : DurableCall → Option (Int × RowOp)
  | .heartbeat now taskId w n => some (taskId, .heartbeat w n now)
  | .markRunning now taskId w k => some (taskId, .markRunning w k now)
  | .complete now taskId w k => some (taskId, .complete w k now)
  | .fail now taskId w k error => some (taskId, .fail w k (errorMessage str error) now)
  | .cancel now taskId => some (taskId, .cancel now)
  | _ => none

section

variable {str} {op : RowOp} {taskId : Int} (h : rowCall str call = some (taskId, op))
include h

theorem rowCall_ne_reap (now : Time) : op ≠ .reap now := by
  cases call <;> cases h <;> nofun

variable (rolledBack : Bool)

theorem startedBy_row (id : Int) :
    startedBy (.call rolledBack call) (.ok .done) = some id ↔ op.taskOp.Starts ∧ id = taskId := by
  cases call <;> cases h <;> simp [startedBy, RowOp.taskOp, TaskOp.Starts, eq_comm]

/-- The call does what the method is for, or it raises, because that is refused, and leaves the
rows. -/
theorem exec_row (b : SqlBackend) : (∃ row row' b', b.tasks.get? taskId = some row ∧
      op.taskOp.apply (schedule row) = some (schedule row') ∧ RowOp.Writes row row' ∧
      exec quota str b (.call rolledBack call) = (.ok .done, b') ∧
      b'.tasks = (b.tasks.update taskId fun _ => row') ∧ b'.events = b.events) ∨
    (∀ row, b.tasks.get? taskId = some row → op.taskOp.apply (schedule row) = none) ∧
      ∃ e b', exec quota str b (.call rolledBack call) = (.error e, b') ∧ b'.tasks = b.tasks ∧
        b'.events = b.events := by
  obtain ⟨after, hmethod, hafter⟩ : ∃ after : Bool → SqlM Unit,
      method quota str call = (do
        (do let dead ← withTask taskId op; after dead : SqlM Unit)
        pure .done) ∧
      ∀ dead b, ∃ b', (after dead).run b = .ok () b' ∧ b'.tasks = b.tasks ∧
        b'.events = b.events := by
    cases call with
    | fail now taskId w k error =>
      cases h
      refine ⟨_, rfl, fun dead b => ?_⟩
      cases dead <;> exact ⟨_, rfl, rfl, rfl⟩
    | _ => cases h <;> exact ⟨fun _ => pure (), rfl, fun _ b => ⟨b, rfl, rfl, rfl⟩⟩
  have hrefuse : ∀ e, (withTask taskId op).run b = .error e b →
      ∃ e b', exec quota str b (.call rolledBack call) = (.error e, b') ∧ b'.tasks = b.tasks ∧
        b'.events = b.events := by
    intro e hrun
    simp only [exec, hmethod, EStateM.run_bind, hrun]
    split <;> exact ⟨_, _, rfl, rfl, rfl⟩
  cases hget : b.tasks.get? taskId with
  | none =>
    refine .inr ⟨by simp, hrefuse (.task (.keyError taskId)) ?_⟩
    show withTask taskId op b = _
    simp only [withTask, hget]
  | some row =>
    have hrefines := RowOp.refines row op fun now heq => absurd heq (rowCall_ne_reap h now)
    cases hrun : op.act.run row with
    | ok dead row' =>
      obtain ⟨_, happly, rfl, hwrites⟩ := hrefines.of_ok hrun
      have hwith : (withTask taskId op).run b =
          .ok dead { b with tasks := b.tasks.update taskId fun _ => row' } := by
        show withTask taskId op b = _
        simp only [withTask, hget, hrun]
      obtain ⟨b', hrun', htasks, hevents⟩ :=
        hafter dead { b with tasks := b.tasks.update taskId fun _ => row' }
      refine .inl ⟨row, row', b', rfl, happly, hwrites, ?_, htasks, hevents⟩
      simp only [exec, hmethod, EStateM.run_bind, hwith, hrun', EStateM.run_pure]
    | error e row' =>
      obtain ⟨hrefused, rfl⟩ := hrefines.of_error hrun
      refine .inr ⟨by rintro _ ⟨⟩; exact hrefused, hrefuse (.task e) ?_⟩
      · show withTask taskId op b = _
        simp only [withTask, hget, hrun, update_const_self hget]

/-- A method on one row takes the task along its life, or raises and leaves all tasks. -/
theorem steps_row (b : SqlBackend) : (durable quota str).Steps b (.call rolledBack call) := by
  intro id _
  rcases exec_row quota h rolledBack b with
    ⟨row, row', b', hget, happly, _, hexec, htasks, _⟩ | ⟨_, e, b', hexec, htasks, _⟩
  · have hrows : ∀ id, b'.tasks.get? id = if id = taskId then some row' else b.tasks.get? id := by
      rw [htasks]
      exact get?_update_const hget row'
    simp only [durable, hexec, startedBy_row h]
    exact .of_write (board_of_get? hget) happly (board_of_get? ((hrows taskId).trans (if_pos rfl)))
      (fun id hid => board_eq ((hrows id).trans (if_neg hid))) id
  · simp only [durable, hexec, startedBy]
    exact .same (board_eq (by rw [htasks]))

end

/-- `enqueue` leaves the tasks that are there. -/
theorem steps_enqueue (rolledBack : Bool) (now : Time) (input : TaskInput) (b : SqlBackend) :
    (durable quota str).Steps b (.call rolledBack (.enqueue now input)) := by
  have hadded := added_enqueue quota now input b
  refine steps_call quota str (m := enqueue quota now input) rfl (fun taskId b' hrun id hid => ?_)
    fun e b' hrun id => ?_
  · rw [hrun] at hadded
    obtain ⟨htaskId, row, hrows⟩ := hadded
    simp only [enqueuedBy, ne_eq, Option.some.injEq] at hid
    refine .same (board_eq ?_)
    rw [hrows, Domain.Table.get?_insert, if_neg (by rw [← htaskId]; exact Ne.symm hid)]
  · rw [hrun] at hadded
    exact .same (board_eq (congrArg (fun tasks => Domain.Table.get? tasks id) hadded.1))

theorem steps_exec (b : SqlBackend) (step : Step) : (durable quota str).Steps b step := by
  cases step with
  | runtime runs attempts events => exact fun taskId _ => .same rfl
  | call rolledBack call =>
    cases call with
    | enqueue now input => exact steps_enqueue quota str rolledBack now input b
    | lease now reapNow order reapOrder queue w n =>
      exact steps_of_onward quota str rfl (onward_lease quota now reapNow order reapOrder queue w n)
        nofun
    | heartbeat | markRunning | complete | fail | cancel => exact steps_row quota rfl rolledBack b
    | reapExpiredLeases now order queue =>
      exact steps_of_onward quota str rfl (onward_reapExpiredLeases now order) nofun

/-- Only `enqueue` reports an id, and it is a new one. -/
theorem enqueued_fresh {step : Step} (h : enqueuedBy (exec quota str b step).1 = some taskId) :
    b.board taskId = none ∧ ∃ t, (exec quota str b step).2.board taskId = some t := by
  cases step with
  | runtime runs attempts events => cases h
  | call rolledBack call =>
    cases hrun : (method quota str call).run b with
    | error e b' =>
      rcases exec_call_error quota str rolledBack hrun with hexec | hexec
      · rw [hexec] at h
        cases h
      · rw [hexec] at h
        cases h
    | ok reply b' =>
      rw [exec_call_ok quota str rolledBack hrun] at h ⊢
      cases call with
      | enqueue now input =>
        obtain ⟨id, b'', henqueue, hpure⟩ := run_bind_eq_ok hrun
        cases hpure
        cases h
        have hadded := added_enqueue quota now input b
        rw [henqueue] at hadded
        obtain ⟨rfl, row, hrows⟩ := hadded
        constructor
        · rw [board, b.tasks.get?_nextId]
          rfl
        · have hget : b'.tasks.get? b.tasks.nextId = some (row b.tasks.nextId) := by
            rw [hrows, Domain.Table.get?_insert, if_pos rfl]
          exact ⟨_, board_of_get? hget⟩
      | _ =>
        obtain ⟨_, _, _, hpure⟩ := run_bind_eq_ok hrun
        cases hpure
        cases h

/-- No id is enqueued twice. -/
theorem enqueued_once (earlier : List Step) (step : Step) (later : List Step) (taskId : Int)
    (h : enqueuedBy (exec quota str (final (exec quota str) empty earlier) step).1 = some taskId) :
    ∀ e ∈ trace (exec quota str) (exec quota str (final (exec quota str) empty earlier) step).2
      later, enqueuedBy e.reply ≠ some taskId := by
  have hstep : ∀ (b : SqlBackend) (next : Step), True → (∃ t, b.board taskId = some t) →
      enqueuedBy (entry (exec quota str) b next).reply ≠ some taskId ∧
        ∃ t, (exec quota str b next).2.board taskId = some t := by
    intro b next _ hthere
    obtain ⟨t, ht⟩ := hthere
    have hne : enqueuedBy (exec quota str b next).1 ≠ some taskId := by
      intro heq
      cases (enqueued_fresh quota str heq).1.symm.trans ht
    obtain ⟨t', _, ht', _⟩ := steps_exec quota str b next taskId hne t ht
    exact ⟨hne, t', ht'⟩
  exact forall_mem_trace (exec quota str) hstep later _ (enqueued_fresh quota str h).2
    (admitted_true (exec quota str) later _)

theorem boundedExecutions_sql : (durable quota str).BoundedExecutions empty :=
  DurableBackend.boundedExecutions (I := fun _ => True) empty trivial (fun _ _ _ => trivial)
    fun b step _ => steps_exec quota str b step

end

end SqlBackend

end DimooRun.Scheduler
