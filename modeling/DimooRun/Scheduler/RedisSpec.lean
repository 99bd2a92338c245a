/-
  Scheduler/RedisSpec.lean --- what the methods of the Redis backend do to a task.

  One equation per method on the dictionary of a task, and the list of what the methods
  that succeed do. A method that raises does not write, and none of them but the lease
  changes the fencing token.
-/
import DimooRun.Scheduler.Redis

set_option autoImplicit false

namespace DimooRun.Scheduler

open Foundation DimooRun.Runtime RedisCommand

namespace TaskHash

theorem run_transition (target : TaskStatus) (t : TaskHash) : (transition target).run t =
      if target ∈ taskTransitions t.status then .ok () t
      else .error (refused t.status target) t := by
  simp only [transition, assertTaskTransition, assertTransition, EStateM.run_bind, EStateM.run_get]
  split_ifs <;> rfl

@[simp] theorem run_setStatus (s : TaskStatus) (t : TaskHash) :
    (setStatus s).run t = .ok () { t with status := s } := rfl

theorem run_assertFencingToken (k : Int) (t : TaskHash) : (assertFencingToken k).run t =
      if t.fencingToken ≠ k then .error (.staleFencingToken t.taskId) t else .ok () t :=
  run_check t

variable (w : String) (k : Int) (error : PyDict) (message : String) (now : Time) (t : TaskHash)

theorem run_assertOwner : (assertOwner w).run t =
      if t.owner ≠ some w then .error (.taskLease t.taskId w) t else .ok () t :=
  run_check t

theorem run_stepToRunning : stepToRunning.run t =
      if t.status = .leased then .ok () { t with status := .running } else .ok () t := by
  simp only [stepToRunning, EStateM.run_bind, EStateM.run_get]
  split
  · rename_i h
    simp [h, run_transition, taskTransitions]
  · rfl

theorem run_heartbeat (n : Int) (now : Time) (t : TaskHash) : (heartbeat w n now).run t =
      if t.owner ≠ some w then .error (.taskLease t.taskId w) t
      else
        .ok ()
          { t with heartbeatAt := some now, leasedUntil := some (some (now + seconds n)) } := by
  rw [heartbeat, run_bind_of_guard (run_assertOwner w t)]
  rfl

theorem run_markRunning : (markRunning w k now).run t =
      if t.fencingToken ≠ k then .error (.staleFencingToken t.taskId) t
      else if t.owner ≠ some w then .error (.taskLease t.taskId w) t
      else if t.status = .leased then
        .ok () { t with status := .running, startedAt := t.startedAt.or (some now) }
      else .error (refused t.status .running) t := by
  rw [markRunning, run_bind_of_guard (run_assertFencingToken k t),
    run_bind_of_guard (run_assertOwner w t), EStateM.run_bind, run_transition]
  cases hs : t.status <;> simp [taskTransitions]

theorem run_complete : (complete w k now).run t =
      if t.fencingToken ≠ k then .error (.staleFencingToken t.taskId) t
      else if t.owner ≠ some w then .error (.taskLease t.taskId w) t
      else if t.status = .leased ∨ t.status = .running then
        .ok () { t with status := .succeeded, finishedAt := some now, leasedUntil := some none }
      else .error (refused t.status .succeeded) t := by
  rw [complete, run_bind_of_guard (run_assertFencingToken k t),
    run_bind_of_guard (run_assertOwner w t),
    EStateM.run_bind, run_stepToRunning]
  cases hs : t.status <;> simp [hs, run_transition, taskTransitions]

theorem run_fail : (fail w k error message now).run t =
      if t.fencingToken ≠ k then .error (.staleFencingToken t.taskId) t
      else if t.owner ≠ some w then .error (.taskLease t.taskId w) t
      else if t.status = .leased ∨ t.status = .running then
        if t.attempt + 1 ≥ t.maxAttempts then
          .ok true { t with
              status := .deadLetter
              error := some error
              deadLetterReason := some message
              finishedAt := some now
              leasedUntil := some none }
        else
          .ok false { t with
              status := .queued
              error := some error
              attempt := t.attempt + 1
              workerId := some none
              leasedUntil := some none }
      else .error (refused t.status .failed) t := by
  rw [fail, run_bind_of_guard (run_assertFencingToken k t), run_bind_of_guard (run_assertOwner w t),
    EStateM.run_bind, run_stepToRunning]
  by_cases hd : t.attempt + 1 ≥ t.maxAttempts <;>
    cases hs : t.status <;>
      simp [-bind_pure_comp, hs, hd, run_transition, taskTransitions]

theorem run_cancel : (cancel now).run t =
      if t.status = .queued ∨ t.status = .leased ∨ t.status = .running then
        .ok () { t with status := .cancelled, finishedAt := some now }
      else .error (refused t.status .cancelled) t := by
  simp only [cancel, EStateM.run_bind, run_stepToRunning]
  cases hs : t.status <;> simp [hs, run_transition, taskTransitions]

theorem run_reap : reap.run t =
      if t.status = .running then
        if t.attempt + 1 ≥ t.maxAttempts then
          .ok true { t with
              status := .deadLetter
              deadLetterReason := some "lease_expired"
              workerId := some none
              leasedUntil := some none }
        else
          .ok false { t with
              status := .queued
              attempt := t.attempt + 1
              workerId := some none
              leasedUntil := some none }
      else if t.status = .leased ∨ t.status = .retrying then
        .ok false { t with status := .queued, workerId := some none, leasedUntil := some none }
      else .error (refused t.status .queued) t := by
  simp only [reap, EStateM.run_bind, EStateM.run_get]
  by_cases hd : t.attempt + 1 ≥ t.maxAttempts <;>
    cases hs : t.status <;>
      simp [-bind_pure_comp, hs, hd, run_transition, taskTransitions]

theorem run_reap_of_expired {now : Time} {t : TaskHash} (h : t.Expired now) :
    ∃ dead t', reap.run t = .ok dead t' := by
  rw [run_reap]
  rcases h.1 with hstatus | hstatus
  · simp [hstatus]
  · by_cases hlast : t.attempt + 1 ≥ t.maxAttempts <;> simp [hstatus, hlast]

end TaskHash

/-! ## One operation of the life of a task -/

/-- The scheduling state of the task. -/
def TaskHash.schedule (t : TaskHash) : TaskState :=
  { status := t.status
    attempt := t.attempt
    maxAttempts := t.maxAttempts
    workerId := t.owner
    leasedUntil := t.leaseEnd
    fencingToken := t.fencingToken }

/-- The fields that no method assigns. -/
structure TaskHash.SameTask (t t' : TaskHash) : Prop where
  taskId : t'.taskId = t.taskId
  runId : t'.runId = t.runId
  queue : t'.queue = t.queue
  priority : t'.priority = t.priority
  createdAt : t'.createdAt = t.createdAt
  scheduledAt : t'.scheduledAt = t.scheduledAt

/-- A method that works on one dictionary, with its arguments. -/
inductive HashOp where
  | heartbeat (workerId : String) (leaseSeconds : Int) (now : Time)
  | markRunning (workerId : String) (fencingToken : Int) (now : Time)
  | complete (workerId : String) (fencingToken : Int) (now : Time)
  | fail (workerId : String) (fencingToken : Int) (error : PyDict) (message : String) (now : Time)
  | cancel (now : Time)
  | reap (now : Time)

namespace HashOp

/-- The method; the result tells whether the task was dead-lettered. -/
def act : HashOp → HashM Bool
  | heartbeat workerId leaseSeconds now => do
      TaskHash.heartbeat workerId leaseSeconds now
      pure false
  | markRunning workerId fencingToken now => do
      TaskHash.markRunning workerId fencingToken now
      pure false
  | complete workerId fencingToken now => do
      TaskHash.complete workerId fencingToken now
      pure false
  | fail workerId fencingToken error message now =>
      TaskHash.fail workerId fencingToken error message now
  | cancel now => do
      TaskHash.cancel now
      pure false
  | reap _ => TaskHash.reap

/-- What it does to the scheduling state. -/
def taskOp : HashOp → TaskOp
  | heartbeat workerId leaseSeconds now => .heartbeat workerId (now + seconds leaseSeconds)
  | markRunning workerId fencingToken _ => .markRunning workerId fencingToken
  | complete workerId fencingToken _ => .complete workerId fencingToken
  | fail workerId fencingToken _ _ _ => .fail workerId fencingToken
  | cancel _ => .cancel
  | reap now => .expire now

/-- What a method leaves. -/
structure After (t : TaskHash) (dead : Bool) (t' : TaskHash) (state : TaskState) : Prop where
  schedule : t'.schedule = state
  same : t.SameTask t'
  dead : dead = true → t'.status = .deadLetter

theorem heldBy_iff (t : TaskHash) (w : String) (k : Int) :
    t.schedule.HeldBy w k ↔ ¬ t.fencingToken ≠ k ∧ ¬ t.owner ≠ some w :=
  (and_congr not_not not_not).symm

/-- Every method does its operation or raises; the reaper's, on the tasks it takes. -/
theorem refines (t : TaskHash) (op : HashOp) (hreap : ∀ now, op = .reap now → t.Expired now) :
    op.taskOp.Refines op.act t t.schedule (After t) := by
  have hsame : t.SameTask t := ⟨rfl, rfl, rfl, rfl, rfl, rfl⟩
  cases op with
  | heartbeat w n now =>
    exact .returning (.heartbeat not_not.symm (TaskHash.run_heartbeat w n now t)
      ⟨rfl, { hsame with }, nofun⟩)
  | markRunning w k now =>
    exact .returning (.of_held rfl (heldBy_iff t w k) (fun _ => Iff.rfl)
      (TaskHash.run_markRunning w k now t) fun _ => ⟨rfl, { hsame with }, nofun⟩)
  | complete w k now =>
    exact .returning (.of_held rfl (heldBy_iff t w k) (fun _ => Iff.rfl)
      (TaskHash.run_complete w k now t) fun _ => ⟨rfl, { hsame with }, nofun⟩)
  | fail w k error message now =>
    exact .fail (heldBy_iff t w k) Iff.rfl Int.not_lt.symm (TaskHash.run_fail w k error message now t)
      ⟨rfl, { hsame with }, fun _ => rfl⟩ ⟨rfl, { hsame with }, nofun⟩
  | cancel now =>
    exact .returning (.cancel Iff.rfl (TaskHash.run_cancel now t) ⟨rfl, { hsame with }, nofun⟩)
  | reap now =>
    exact .expire (hreap now rfl) (TaskHash.run_reap t) ⟨rfl, { hsame with }, fun _ => rfl⟩
      ⟨rfl, { hsame with }, nofun⟩ ⟨rfl, { hsame with }, nofun⟩

/-- What a method that returns has done. -/
theorem done_of_run {op : HashOp} {t t' : TaskHash} {dead : Bool}
    (hreap : ∀ now, op = .reap now → t.Expired now) (hrun : op.act.run t = .ok dead t') :
    op.taskOp.apply t.schedule = some t'.schedule ∧ t.SameTask t' ∧
      (dead = true → t'.status = .deadLetter) := by
  obtain ⟨state, happly, rfl, hsame, hdead⟩ := (refines t op hreap).of_ok hrun
  exact ⟨happly, hsame, hdead⟩

end HashOp

/-! ## The server -/

namespace RedisStore

/-- The task with its new lease, taken out of the queue. -/
def grant (store : RedisStore) (name : String) (taskId : Int) (task : TaskHash) : RedisStore :=
  { store with tasks := store.tasks.set taskId task }.removeMember name taskId

/-- The lease script takes the task. -/
def ScriptTakes (store : RedisStore) (now : Time) (taskId : Int) (task : TaskHash) : Prop :=
  store.tasks.get? taskId = some task ∧ task.status = .queued ∧
    (task.scheduledAt = none ∨
      ∃ scheduledAt, task.scheduledAt = some (some scheduledAt) ∧ TextLE scheduledAt now)

variable (store : RedisStore) (name : String) (taskId : Int)

/-- The lease script takes the first task of the list, goes on to the next one, or stops because
the time is null. -/
theorem scriptLoop_cons (name w : String) (u now : Time) (taskId : Int) (rest : List Int) :
    (∃ task, store.ScriptTakes now taskId task ∧ store.scriptLoop name w u now (taskId :: rest) =
        (.ok (some (task.leased w u now)), store.grant name taskId (task.leased w u now))) ∨
    (∀ task, ¬ store.ScriptTakes now taskId task) ∧
      (store.scriptLoop name w u now (taskId :: rest) = store.scriptLoop name w u now rest ∨
        (∃ task, store.tasks.get? taskId = some task ∧ task.scheduledAt = some none) ∧
          store.scriptLoop name w u now (taskId :: rest) = (.error .response, store)) := by
  simp only [ScriptTakes, grant, scriptLoop]
  cases store.tasks.get? taskId with
  | none => simp
  | some task =>
    by_cases hqueued : task.status = .queued
    · cases hscheduled : task.scheduledAt with
      | none => simp [hqueued, hscheduled]
      | some value =>
        cases value with
        | none => simp [hqueued, hscheduled]
        | some scheduledAt =>
          by_cases hle : TextLE scheduledAt now <;> simp [hqueued, hscheduled, hle]
    · simp [hqueued]

/-- The lease script takes a queued task of the list, or changes nothing. -/
theorem scriptLoop_cases (name w : String) (u now : Time) (taskIds : List Int) :
    (∃ taskId ∈ taskIds, ∃ task, store.ScriptTakes now taskId task ∧
      store.scriptLoop name w u now taskIds =
        (.ok (some (task.leased w u now)), store.grant name taskId (task.leased w u now))) ∨
      store.scriptLoop name w u now taskIds = (.ok none, store) ∨
        store.scriptLoop name w u now taskIds = (.error .response, store) := by
  induction taskIds with
  | nil => exact .inr (.inl rfl)
  | cons taskId rest ih =>
    rcases store.scriptLoop_cons name w u now taskId rest with htakes | ⟨_, hnext | ⟨_, hstop⟩⟩
    · exact .inl ⟨taskId, List.mem_cons_self, htakes⟩
    · rw [hnext]
      exact ih.imp_left fun ⟨id, hid, htakes⟩ => ⟨id, List.mem_cons_of_mem _ hid, htakes⟩
    · exact .inr (.inr hstop)

@[simp] theorem tasks_addMember (score : ℚ) :
    (store.addMember name taskId score).tasks = store.tasks := rfl

@[simp] theorem tasks_grant (task : TaskHash) :
    (store.grant name taskId task).tasks = store.tasks.set taskId task := rfl

theorem get?_putTask (taskId id : Int) (task : TaskHash) :
    (store.putTask taskId task).tasks.get? id =
      if id = taskId then
        some (match store.tasks.get? taskId with
          | none => task
          | some old => old.merge task)
      else store.tasks.get? id :=
  Dict.get?_set _ _ _ _

end RedisStore

/-! ## Methods that run to the end, alone -/

namespace RedisTaskBackend

open RedisCommand

theorem run_task (taskId : Int) (store : RedisStore) :
    (Program.run RedisStore.exec (task taskId)).run store =
      match store.tasks.get? taskId with
      | none => .error (.task (.keyError taskId)) store
      | some found => .ok found store := by
  simp only [task, Program.ask_bind, Program.run_send, RedisStore.exec]
  cases store.tasks.get? taskId with
  | none => rfl
  | some found => rfl

theorem run_work {α : Type} (act : HashM α) (found : TaskHash) (store : RedisStore) :
    (Program.run RedisStore.exec (work act found)).run store =
      match act.run found with
      | .ok a written => .ok (a, written) store
      | .error e _ => .error (.task e) store := by
  unfold work
  cases act.run found with
  | ok a written => rfl
  | error e written => rfl

/-- The reaper's loop, on one task: it is left, or the reaper's method is done to it. -/
theorem run_reapTask_cases (score : Int → Time → ℚ) (now : Time) (queue : String) {taskId : Int}
    {store : RedisStore} {found : TaskHash} (hfound : store.tasks.get? taskId = some found) :
    (¬ (found.queue = queue ∧ found.Expired now) ∧
      (Program.run RedisStore.exec (reapTask score now queue taskId)).run store = .ok 0 store) ∨
    (found.queue = queue ∧ found.Expired now) ∧
      ∃ dead reaped, (HashOp.reap now).act.run found = .ok dead reaped ∧
        (Program.run RedisStore.exec (reapTask score now queue taskId)).run store =
          .ok 1 (if dead then store.putTask reaped.taskId reaped
            else (store.putTask reaped.taskId reaped).addMember reaped.queue reaped.taskId
              (queueScore score reaped)) := by
  simp only [reapTask, Program.run_bind, run_task, hfound]
  by_cases hqueue : found.queue = queue
  · rw [if_neg (not_not.mpr hqueue)]
    by_cases hexpired : found.Expired now
    · obtain ⟨dead, reaped, hrun⟩ := TaskHash.run_reap_of_expired hexpired
      refine .inr ⟨⟨hqueue, hexpired⟩, dead, reaped, hrun, ?_⟩
      rw [if_neg (not_not.mpr hexpired), Program.run_bind, run_work, hrun]
      cases dead <;> rfl
    · rw [if_pos hexpired]
      exact .inl ⟨fun h => hexpired h.2, rfl⟩
  · rw [if_pos hqueue]
    exact .inl ⟨fun h => hqueue h.1, rfl⟩

/-! ## Calls on one task -/

section

variable (score : Int → Time → ℚ)

/-- What a method still sends after it has written the hash. -/
def afterwards (op : HashOp) (taskId : Int) (result : Bool × TaskHash) : RedisM Unit :=
  match op with
  | .fail _ _ error _ _ =>
      if result.1 then
        if (PyValue.dict error).Encodable then Program.ask (rpush taskId error)
        else .raised .encoding
      else Program.ask (zadd result.2.queue taskId (queueScore score result.2))
  | .cancel _ => do
      Program.ask (zrem result.2.queue taskId)
      Program.ask (publish taskId)
  | _ => pure ()

/-- Read, work, write, and go on. -/
def update (op : HashOp) (taskId : Int) : RedisM Unit := do
  let found ← task taskId
  let result ← work op.act found
  Program.ask (hset taskId result.2)
  afterwards score op taskId result

variable (str : PyValue → String) (scripts : Bool)

/-- The task and the method, if the call is on one task. -/
def methodOn : DurableCall → Option (Int × HashOp)
  | .heartbeat now taskId w n => some (taskId, .heartbeat w n now)
  | .markRunning now taskId w k => some (taskId, .markRunning w k now)
  | .complete now taskId w k => some (taskId, .complete w k now)
  | .fail now taskId w k error => some (taskId, .fail w k error (errorMessage str error) now)
  | .cancel now taskId => some (taskId, .cancel now)
  | _ => none

variable {score str} {call : DurableCall} {taskId : Int} {op : HashOp}

theorem ne_reap_of_methodOn (h : methodOn str call = some (taskId, op)) (now : Time) :
    op ≠ .reap now := by
  rintro rfl
  cases call <;> cases h

theorem method_eq_update (h : methodOn str call = some (taskId, op)) :
    method score str scripts call = (do update score op taskId; pure .done) := by
  have hunit : ∀ (act : HashM Unit) (f : TaskHash → RedisM Unit), (do
      let found ← task taskId
      let result ← work act found
      Program.ask (hset taskId result.2)
      f result.2) = (do
      let found ← task taskId
      let result ← work (do act; pure false) found
      Program.ask (hset taskId result.2)
      f result.2) := by
    intro act f
    refine congrArg (task taskId >>= ·) (funext fun found => ?_)
    unfold work
    rw [EStateM.run_bind]
    cases act.run found <;> rfl
  have hdone : ∀ {p p' : RedisM Unit}, p = p' →
      (do p; pure .done : RedisM (DurableReply TaskHash)) = (do p'; pure .done) := by
    rintro p _ rfl
    rfl
  cases call with
  | fail now id w k error =>
    cases h
    rfl
  | cancel now id =>
    cases h
    exact hdone (hunit (TaskHash.cancel now) fun written => do
      Program.ask (zrem written.queue taskId)
      Program.ask (publish taskId))
  | heartbeat now id w n =>
    cases h
    exact hdone (hunit (TaskHash.heartbeat w n now) fun _ => pure ())
  | markRunning now id w k =>
    cases h
    exact hdone (hunit (TaskHash.markRunning w k now) fun _ => pure ())
  | complete now id w k =>
    cases h
    exact hdone (hunit (TaskHash.complete w k now) fun _ => pure ())
  | _ => cases h

theorem run_update (op : HashOp) (taskId : Int) (store : RedisStore) :
    (Program.run RedisStore.exec (update score op taskId)).run store =
      match store.tasks.get? taskId with
      | none => .error (.task (.keyError taskId)) store
      | some found =>
          match op.act.run found with
          | .ok dead written =>
              (Program.run RedisStore.exec (afterwards score op taskId (dead, written))).run
                (store.putTask taskId written)
          | .error e _ => .error (.task e) store := by
  rw [update, Program.run_bind, run_task]
  cases store.tasks.get? taskId with
  | none => rfl
  | some found =>
    show (Program.run RedisStore.exec (work op.act found >>= _)).run store = _
    rw [Program.run_bind, run_work]
    dsimp only
    cases op.act.run found with
    | ok dead written => rfl
    | error e written => rfl

end

/-! ## What the methods are made of -/

/-- A property of programs that sequencing keeps, and that the commands without HSET of the
reaper and of `lease`, the reaper's work on a task and a turn of the loop of `lease` have. -/
structure Compositional (score : Int → Time → ℚ) (P : {α : Type} → RedisM α → Prop) : Prop where
  done {α : Type} (a : α) : P (.done a)
  raised {α : Type} (e : RedisError) : P (.raised e : RedisM α)
  bind {α β : Type} {p : RedisM α} {f : α → RedisM β} : P p → (∀ a, P (f a)) → P (p >>= f)
  keys (order : Domain.RowOrder) : P (Program.ask (keys order))
  zrange (queue : String) : P (Program.ask (zrange queue))
  evalLease (queue w : String) (u now : Time) : P (Program.ask (evalLease queue w u now))
  reapTask (now : Time) (queue : String) (taskId : Int) : P (reapTask score now queue taskId)
  leaseEach {now : Time} {queue w : String} {n : Int} (taskId : Int) {rest : List Int} :
    P (leaseEach now queue w n rest) → P (leaseEach now queue w n (taskId :: rest))

namespace Compositional

variable {score : Int → Time → ℚ} {P : {α : Type} → RedisM α → Prop} (h : Compositional score P)

include h

theorem reapExpiredLeases (now : Time) (order : Domain.RowOrder) (queue : Option String) :
    P (reapExpiredLeases score now order queue) := by
  refine h.bind (h.keys order) fun taskIds => ?_
  induction taskIds with
  | nil => exact h.done 0
  | cons taskId rest ih =>
    exact h.bind (h.reapTask now _ taskId) fun count => h.bind ih fun counts => h.done _

theorem lease (scripts : Bool) (now reapNow : Time) (order : Domain.RowOrder) (queue w : String)
    (n : Int) : P (lease score scripts now reapNow order queue w n) := by
  refine h.bind (h.reapExpiredLeases reapNow order _) fun _ => h.bind ?_ fun leased => ?_
  · unfold leaseWithEval
    split
    · refine h.bind (h.evalLease queue w _ now) fun answer => ?_
      cases answer with
      | ok leased => exact h.done leased
      | error e => exact h.raised e
    · exact h.done none
  · cases leased with
    | some leased => exact h.done _
    | none =>
      refine h.bind (h.zrange queue) fun taskIds => ?_
      induction taskIds with
      | nil => exact h.done none
      | cons taskId rest ih => exact h.leaseEach taskId ih

/-- The property of a method, if what it does to one task or to enqueue has it. -/
theorem method {str : PyValue → String} (scripts : Bool) {call : DurableCall}
    (hupdate : ∀ taskId op, methodOn str call = some (taskId, op) → P (update score op taskId))
    (henqueue : ∀ now input, call = .enqueue now input → P (enqueue score now input)) :
    P (method score str scripts call) := by
  cases hop : methodOn str call with
  | some on =>
    rw [method_eq_update scripts hop]
    exact h.bind (hupdate on.1 on.2 hop) fun _ => h.done _
  | none =>
    cases call with
    | enqueue now input => exact h.bind (henqueue now input rfl) fun _ => h.done _
    | lease now reapNow order reapOrder queue w n =>
      exact h.bind (h.lease scripts now reapNow reapOrder queue w n) fun _ => h.done _
    | reapExpiredLeases now order queue =>
      exact h.bind (h.reapExpiredLeases now order queue) fun _ => h.done _
    | _ => cases hop

end Compositional

end RedisTaskBackend

/-! ## Whole hashes written back by several workers

Every method but the lease script reads the hash of a task and writes all of it back
later. If another worker has leased the task in between, the write brings the old
lease back, and its token with it. -/

/-- The lease that a call is made under; a heartbeat names no token. -/
structure Claim where
  workerId : String
  fencingToken : Option Int

/-- The task is no longer under that lease. -/
def Claim.Superseded (claim : Claim) (task : TaskHash) : Prop :=
  task.owner ≠ some claim.workerId ∨
    ∃ fencingToken, claim.fencingToken = some fencingToken ∧ task.fencingToken ≠ fencingToken

/-- The lease of the caller. -/
def HashOp.claim : HashOp → Option Claim
  | heartbeat workerId _ _ => some ⟨workerId, none⟩
  | markRunning workerId fencingToken _ => some ⟨workerId, some fencingToken⟩
  | complete workerId fencingToken _ => some ⟨workerId, some fencingToken⟩
  | fail workerId fencingToken _ _ _ => some ⟨workerId, some fencingToken⟩
  | _ => none

/-- The methods refuse a task that is no longer under the lease of the caller. -/
theorem HashOp.not_superseded {op : HashOp} {t : TaskHash} {state : TaskState} {claim : Claim}
    (h : op.taskOp.apply t.schedule = some state) (hclaim : op.claim = some claim) :
    ¬ claim.Superseded t := by
  have hheld : ∀ {w : String} {k : Int}, t.schedule.HeldBy w k →
      ¬ Claim.Superseded ⟨w, some k⟩ t := by
    rintro w k ⟨htoken, howner⟩ (hne | ⟨_, ⟨⟩, hne⟩)
    · exact hne howner
    · exact hne htoken
  have happlied := TaskState.applied_of_apply h
  cases op with
  | heartbeat w n now =>
    cases hclaim
    cases happlied with
    | heartbeat howner => exact fun hnot => hnot.elim (fun hne => hne howner) nofun
  | markRunning w k now =>
    cases hclaim
    cases happlied with
    | markRunning hholds _ => exact hheld hholds
  | complete w k now =>
    cases hclaim
    cases happlied with
    | complete hholds _ => exact hheld hholds
  | fail w k error message now =>
    cases hclaim
    cases happlied with
    | retry hholds _ _ => exact hheld hholds
    | deadLetter hholds _ _ => exact hheld hholds
  | cancel now => cases hclaim
  | reap now => cases hclaim

/-- The lease that a process calls under, and the hashes it has read. -/
structure WorkerNotes where
  claim : Option Claim
  reads : Dict Int TaskHash

/-- A process notes the hashes it has read. It writes a hash only under the key that it
was read from, never with a lower token than it read, and not if it has read that the lease
of its caller is no more. -/
def readsFirst : Monitor RedisCommand RedisCommand.Answer WorkerNotes where
  allowed
    | notes, hset taskId task =>
        task.taskId = taskId ∧
          ∃ read, notes.reads.get? taskId = some read ∧ read.fencingToken ≤ task.fencingToken ∧
            ∀ claim, notes.claim = some claim → ¬ claim.Superseded read
    | _, _ => True
  possible
    | hgetall taskId => fun answer => ∀ task, answer = some task → task.taskId = taskId
    | _ => fun _ => True
  note
    | notes, hgetall taskId => fun answer =>
        match answer with
        | some task => { notes with reads := notes.reads.set taskId task }
        | none => notes
    | notes, _ => fun _ => notes

namespace RedisTaskBackend

/-- The task was read, and is what the process works on. -/
structure Read (claim : Option Claim) (taskId : Int) (notes : WorkerNotes) (task : TaskHash) :
    Prop where
  id : task.taskId = taskId
  read : notes.reads.get? taskId = some task
  claim : notes.claim = claim

theorem obeys_task (taskId : Int) (notes : WorkerNotes) :
    readsFirst.Obeys (Read notes.claim taskId) notes (task taskId) := by
  refine ⟨trivial, fun answer hanswer => ?_⟩
  cases answer with
  | none => exact trivial
  | some found => exact ⟨hanswer found rfl, Dict.get?_set_self notes.reads taskId found, rfl⟩

variable (score : Int → Time → ℚ)

theorem obeys_update (op : HashOp) (hreap : ∀ now, op ≠ .reap now) (taskId : Int)
    {notes : WorkerNotes} (hclaim : notes.claim = op.claim) :
    readsFirst.Obeys (fun _ _ => True) notes (update score op taskId) := by
  refine Monitor.obeys_bind (fun notes found hread => ?_) (obeys_task taskId notes)
  unfold work
  split
  · rename_i dead written hrun
    obtain ⟨happly, hsame, _⟩ := HashOp.done_of_run (fun now h => absurd h (hreap now)) hrun
    refine ⟨⟨hsame.taskId.trans hread.id, found, hread.read, (TaskState.apply_grows happly).2.2,
      fun claim h => HashOp.not_superseded happly (hclaim ▸ hread.claim ▸ h)⟩, fun _ _ => ?_⟩
    cases op with
    | fail w k error message now =>
      simp only [afterwards]
      split
      · split
        · exact ⟨trivial, fun _ _ => trivial⟩
        · exact trivial
      · exact ⟨trivial, fun _ _ => trivial⟩
    | cancel now => exact ⟨trivial, fun _ _ => ⟨trivial, fun _ _ => trivial⟩⟩
    | _ => exact trivial
  · exact trivial

/-- The reaper and `lease` are nobody's claim. -/
abbrev Unclaimed {α : Type} (p : RedisM α) : Prop :=
  ∀ notes, notes.claim = none → readsFirst.Obeys (fun notes _ => notes.claim = none) notes p

theorem obeys_reapTask (now : Time) (queue : String) (taskId : Int) :
    Unclaimed (reapTask score now queue taskId) := by
  intro notes hnone
  refine Monitor.obeys_bind (fun notes found hread => ?_) (obeys_task taskId notes)
  have hclaim := hread.claim.trans hnone
  split
  · exact hclaim
  split
  · exact hclaim
  rename_i hexpired
  unfold work
  split
  · rename_i dead reaped hrun
    have hrun' : (HashOp.reap now).act.run found = .ok dead reaped := hrun
    obtain ⟨happly, hsame, _⟩ :=
      HashOp.done_of_run (by rintro _ ⟨⟩; exact not_not.mp hexpired) hrun'
    refine ⟨⟨rfl, found, ?_, (TaskState.apply_grows happly).2.2,
      fun _ h => nomatch hclaim.symm.trans h⟩, fun _ _ => ?_⟩
    · rw [hsame.taskId, hread.id]
      exact hread.read
    · split
      · exact hclaim
      · exact ⟨trivial, fun _ _ => hclaim⟩
  · exact trivial

theorem compositional_unclaimed : Compositional score Unclaimed where
  done _ _ hnone := hnone
  raised _ _ _ := trivial
  bind hp hf notes hnone := Monitor.obeys_bind (fun notes a h => hf a notes h) (hp notes hnone)
  keys _ _ hnone := ⟨trivial, fun _ _ => hnone⟩
  zrange _ _ hnone := ⟨trivial, fun _ _ => hnone⟩
  evalLease _ _ _ _ _ hnone := ⟨trivial, fun _ _ => hnone⟩
  reapTask := obeys_reapTask score
  leaseEach := by
    intro now queue w n taskId rest hrest notes hnone
    refine Monitor.obeys_bind (fun notes found hread => ?_) (obeys_task taskId notes)
    have hclaim := hread.claim.trans hnone
    split
    · exact hrest notes hclaim
    split
    · exact hrest notes hclaim
    refine ⟨⟨rfl, found, ?_, ?_, fun _ h => nomatch hclaim.symm.trans h⟩,
      fun _ _ => ⟨trivial, fun _ _ => hclaim⟩⟩
    · show notes.reads.get? found.taskId = some found
      rw [hread.id]
      exact hread.read
    · show found.fencingToken ≤ found.fencingToken + 1
      omega

/-- The lease that a call is made under. -/
def claimOf (str : PyValue → String) (call : DurableCall) : Option Claim :=
  (methodOn str call).bind fun on => on.2.claim

/-- Every method but `enqueue` reads first. -/
theorem obeys_method (str : PyValue → String) (scripts : Bool) (call : DurableCall)
    (hcall : ∀ now input, call ≠ .enqueue now input) :
    readsFirst.Obeys (fun _ _ => True) ⟨claimOf str call, .empty⟩
      (method score str scripts call) := by
  cases hop : methodOn str call with
  | some on =>
    rw [method_eq_update scripts hop]
    have hclaim : claimOf str call = on.2.claim := by
      rw [claimOf, hop]
      rfl
    exact Monitor.obeys_bind (R := fun _ _ => True) (fun _ _ _ => by exact trivial)
      (obeys_update score on.2 (ne_reap_of_methodOn hop) on.1 hclaim)
  | none =>
    refine ((compositional_unclaimed score).method scripts (fun _ _ h => nomatch hop.symm.trans h)
      (fun now input h => absurd h (hcall now input)) ⟨claimOf str call, .empty⟩ ?_).mono
        fun _ _ _ => trivial
    rw [claimOf, hop]
    rfl

end RedisTaskBackend

/-! ## Commands of many workers -/

namespace RedisStore

/-- Every hash is stored under its own id. -/
def Keyed (store : RedisStore) : Prop :=
  ∀ taskId task, store.tasks.get? taskId = some task → task.taskId = taskId

/-- No token falls. -/
def TokensGrow (store store' : RedisStore) : Prop :=
  ∀ taskId task, store.tasks.get? taskId = some task →
    ∃ task', store'.tasks.get? taskId = some task' ∧ task.fencingToken ≤ task'.fencingToken

variable {store : RedisStore} {taskId : Int} {task : TaskHash}

theorem TokensGrow.same {store' : RedisStore} (h : store'.tasks = store.tasks) :
    store.TokensGrow store' := by
  intro taskId task htask
  exact ⟨task, h ▸ htask, le_refl _⟩

/-- The write of a hash: it is keyed, and its token is no lower than the stored one. -/
theorem keyed_putTask (h : store.Keyed) (hid : task.taskId = taskId) :
    (store.putTask taskId task).Keyed := by
  intro id found hfound
  rw [get?_putTask] at hfound
  split at hfound
  · rename_i heq
    cases hfound
    rw [heq]
    split <;> exact hid
  · exact h id found hfound

theorem tokensGrow_putTask
    (h : ∀ stored, store.tasks.get? taskId = some stored → stored.fencingToken ≤ task.fencingToken) :
    store.TokensGrow (store.putTask taskId task) := by
  intro id found hfound
  rw [get?_putTask]
  split
  · rename_i heq
    subst heq
    exact ⟨_, rfl, by rw [hfound]; exact h found hfound⟩
  · exact ⟨found, hfound, le_refl _⟩

/-- What every command but HSET does to the hashes. -/
theorem exec_of_not_hset {command : RedisCommand}
    (hcommand : ∀ taskId task, command ≠ hset taskId task) (h : store.Keyed) :
    (exec command store).2.Keyed ∧ store.TokensGrow (exec command store).2 := by
  cases command with
  | hset taskId task => exact absurd rfl (hcommand taskId task)
  | evalLease name w u now =>
    rcases scriptLoop_cases store name w u now (store.members name) with
      ⟨taskId, _, task, ⟨htask, _⟩, hloop⟩ | hloop | hloop
    · simp only [exec, hloop]
      constructor
      · intro id found hfound
        rcases Dict.get?_set_cases hfound with ⟨rfl, rfl⟩ | ⟨_, hold⟩
        · exact h id task htask
        · exact h id found hold
      · intro id found hfound
        rw [tasks_grant, Dict.get?_set]
        split
        · rename_i heq
          rw [heq, htask] at hfound
          cases hfound
          refine ⟨_, rfl, ?_⟩
          show task.fencingToken ≤ task.fencingToken + 1
          omega
        · exact ⟨found, hfound, le_refl _⟩
    · simp only [exec, hloop]
      exact ⟨h, .same rfl⟩
    · simp only [exec, hloop]
      exact ⟨h, .same rfl⟩
  | _ => exact ⟨h, .same rfl⟩

end RedisStore

/-- Workers of the Redis backend, with what they have read. -/
abbrev RedisWorkers : Type :=
  Processes RedisStore RedisCommand RedisCommand.Answer RedisError (DurableReply TaskHash)
    WorkerNotes

/-- A worker calls a method, or its call sends the next command. -/
inductive WorkerStep where
  | start (worker : Nat) (call : DurableCall)
  | next (worker : Nat)

namespace RedisWorkers

/-- A store with no call under way. -/
def ofStore (store : RedisStore) : RedisWorkers := ⟨store, .empty⟩

section

variable (score : Int → Time → ℚ) (str : PyValue → String) (scripts : Bool)

/-- The step of the processes. -/
def toStep : WorkerStep →
    Processes.Step RedisCommand RedisCommand.Answer RedisError (DurableReply TaskHash)
  | .start worker call => .start worker (RedisTaskBackend.method score str scripts call)
  | .next worker => .next worker

/-- What a call notes when it begins. -/
def firstNotes : WorkerStep → WorkerNotes
  | .start _ call => ⟨RedisTaskBackend.claimOf str call, .empty⟩
  | .next _ => ⟨none, .empty⟩

variable (workers : RedisWorkers) (step : WorkerStep)

/-- One step; the reply is the command that was sent, with the lease of its caller and the
hashes that the caller has read. -/
def exec : Option (RedisCommand × WorkerNotes) × RedisWorkers :=
  (workers.sent (toStep score str scripts step),
    workers.step RedisStore.exec readsFirst (firstNotes str step) (toStep score str scripts step))

/-- No token falls, and no HSET of a call whose lease is no more changes status, worker, token
or end of the lease. -/
def NoLostUpdate (record : Entry RedisWorkers WorkerStep (Option (RedisCommand × WorkerNotes))) :
    Prop :=
  record.before.state.TokensGrow record.after.state ∧
    ∀ taskId written notes claim stored, record.reply = some (hset taskId written, notes) →
      notes.claim = some claim → record.before.state.tasks.get? taskId = some stored →
        claim.Superseded stored →
          ∃ task, record.after.state.tasks.get? taskId = some task ∧
            task.status = stored.status ∧ task.workerId = stored.workerId ∧
            task.fencingToken = stored.fencingToken ∧ task.leasedUntil = stored.leasedUntil

/-- The calls are those of workers, and between the HGETALL of a call and its HSET nobody
leases the task or puts it back: the hash has the worker and the token that were read. -/
def Undisturbed : Prop :=
  (∀ worker now input, step ≠ .start worker (.enqueue now input)) ∧
    ∀ taskId written notes read stored,
      workers.sent (toStep score str scripts step) = some (hset taskId written, notes) →
        notes.reads.get? taskId = some read → workers.state.tasks.get? taskId = some stored →
          stored.owner = read.owner ∧ stored.fencingToken = read.fencingToken

/-- What holds between the steps. -/
structure Orderly : Prop where
  keyed : workers.state.Keyed
  monitored : workers.Monitored readsFirst

theorem orderly_exec {workers : RedisWorkers} (h : workers.Orderly) {step : WorkerStep}
    (hstep : Undisturbed score str scripts workers step) :
    NoLostUpdate (entry (exec score str scripts) workers step) ∧
      (exec score str scripts workers step).2.Orderly := by
  have hmonitored : (exec score str scripts workers step).2.Monitored readsFirst := by
    refine Processes.monitored_step h.monitored ?_ ?_
    · intro worker program hstart
      cases step with
      | start worker' call =>
        cases hstart
        exact RedisTaskBackend.obeys_method score str scripts call
          (fun now input hcall => hstep.1 worker now input (hcall ▸ rfl))
      | next worker' => cases hstart
    · intro command
      cases command with
      | hgetall taskId => exact fun task htask => h.keyed taskId task htask
      | _ => exact trivial
  cases hsent : workers.sent (toStep score str scripts step) with
  | none =>
    have hstate : (exec score str scripts workers step).2.state = workers.state :=
      Processes.state_of_not_sent RedisStore.exec readsFirst _ hsent
    refine ⟨⟨.same (congrArg RedisStore.tasks hstate), ?_⟩, ⟨?_, hmonitored⟩⟩
    · intro taskId written notes claim stored hreply
      cases hsent.symm.trans hreply
    · rw [hstate]
      exact h.keyed
  | some sent =>
    obtain ⟨command, notes⟩ := sent
    have hstate : (exec score str scripts workers step).2.state =
        (RedisStore.exec command workers.state).2 :=
      Processes.state_of_sent RedisStore.exec readsFirst _ hsent
    have hallowed := Processes.allowed_of_sent h.monitored hsent
    have heffect : (RedisStore.exec command workers.state).2.Keyed ∧
        workers.state.TokensGrow (RedisStore.exec command workers.state).2 := by
      cases command with
      | hset taskId written =>
        obtain ⟨hid, read, hread, hle, _⟩ := hallowed
        refine ⟨RedisStore.keyed_putTask h.keyed hid, RedisStore.tokensGrow_putTask ?_⟩
        intro stored hstored
        rw [(hstep.2 taskId written notes read stored hsent hread hstored).2]
        exact hle
      | _ => exact RedisStore.exec_of_not_hset (fun _ _ => nofun) h.keyed
    refine ⟨⟨?_, ?_⟩, ⟨?_, hmonitored⟩⟩
    · show workers.state.TokensGrow (exec score str scripts workers step).2.state
      rw [hstate]
      exact heffect.2
    · -- the call has read what is stored, so its own checks have refused it before
      intro taskId written notes' claim stored hreply hclaim hstored hsuperseded
      cases hsent.symm.trans hreply
      obtain ⟨_, read, hread, _, hcurrent⟩ := hallowed
      obtain ⟨howner, htoken⟩ := hstep.2 taskId written notes read stored hsent hread hstored
      refine absurd ?_ (hcurrent claim hclaim)
      rwa [Claim.Superseded, ← howner, ← htoken]
    · rw [hstate]
      exact heffect.1

end

/-- Task 7, which worker `a` holds with token 1 until time 10. -/
def heldHash : TaskHash :=
  { taskId := 7
    queue := "default"
    priority := 0
    status := .leased
    attempt := 0
    maxAttempts := 3
    fencingToken := 1
    createdAt := 0
    workerId := some (some "a")
    leasedUntil := some (some 10) }

/-- The store with the task. -/
def heldStore : RedisStore := { RedisStore.empty with tasks := Dict.empty.set 7 heldHash }

/-- The lease of the task that is stored after some steps. -/
def leaseAfter (steps : List WorkerStep) : Option (TaskStatus × Option String × Int) :=
  ((final (exec (fun _ _ => 0) (fun _ => "") true) (ofStore heldStore) steps).state.tasks.get?
    7).map fun task => (task.status, task.owner, task.fencingToken)

/-- The heartbeat of `a` has read the hash; then `b` leases the task, whose lease is over. -/
def overtaken : List WorkerStep :=
  [.start 1 (.heartbeat 5 7 "a" 30), .next 1, .start 2 (.lease 20 20 .byKey .byKey "default" "b" 30),
    .next 2, .next 2, .next 2, .next 2, .next 2]

end RedisWorkers

end DimooRun.Scheduler
