/-
  Scheduler/RedisQueues.lean --- queued tasks and the sorted sets of the queues.

  A task is queued by two commands: HSET writes the status, ZADD puts the id into the
  sorted set of the queue. A process that dies in between leaves a task that says
  `queued` and that no lease ever finds; the reaper looks at leased and running tasks
  only. If no process dies there, every queued task is in its set.
-/
import DimooRun.Scheduler.RedisSpec

set_option autoImplicit false

namespace DimooRun.Scheduler

open Foundation DimooRun.Runtime RedisCommand RedisTaskBackend

/-- The command is a ZADD. -/
def RedisCommand.IsZadd : RedisCommand → Prop
  | zadd _ _ _ => True
  | _ => False

instance : DecidablePred RedisCommand.IsZadd
  | zadd _ _ _ => .isTrue trivial
  | incr | hgetall _ | hset _ _ | zrem _ _ | zrange _ | keys _ | rpush _ _ | publish _
  | evalLease _ _ _ _ => .isFalse id

namespace RedisStore

/-- The task is in the sorted set of the queue. -/
def Member (store : RedisStore) (name : String) (taskId : Int) : Prop :=
  ∃ score, (store.queue name).get? taskId = some score

/-- Every task whose hash says `queued` is in the sorted set of its queue. -/
def Listed (store : RedisStore) : Prop :=
  ∀ taskId task, store.tasks.get? taskId = some task → task.status = .queued →
    store.Member task.queue taskId

/-- What holds while no task is being queued. The lease script fails on a `null`, and the
loop of `lease` on a member without a hash. -/
structure Settled (store : RedisStore) : Prop where
  keyed : store.Keyed
  listed : store.Listed
  known : ∀ name taskId, store.Member name taskId → ∃ task, store.tasks.get? taskId = some task
  scheduled : ∀ taskId task, store.tasks.get? taskId = some task → task.scheduledAt ≠ some none

theorem settled_empty : Settled .empty where
  keyed _ _ h := by simp [empty] at h
  listed _ _ h := by simp [empty] at h
  known _ _ h := by simp [Member, queue, empty] at h
  scheduled _ _ h := by simp [empty] at h

section

variable {store : RedisStore}

theorem queue_addMember (name name' : String) (taskId : Int) (score : ℚ) :
    (store.addMember name taskId score).queue name' =
      if name' = name then (store.queue name).set taskId score else store.queue name' := by
  unfold addMember queue
  simp only [Dict.get?_set]
  split <;> rfl

theorem queue_removeMember (name name' : String) (taskId : Int) :
    (store.removeMember name taskId).queue name' =
      if name' = name then (store.queue name).erase taskId else store.queue name' := by
  unfold removeMember queue
  simp only [Dict.get?_set]
  split <;> rfl

variable {name name' : String} {taskId id : Int} {task found : TaskHash}

theorem member_addMember {score : ℚ} : (store.addMember name taskId score).Member name' id ↔
      (name' = name ∧ id = taskId) ∨ store.Member name' id := by
  unfold Member
  rw [queue_addMember]
  split
  · rename_i hname
    subst hname
    simp only [Dict.get?_set]
    by_cases hid : id = taskId
    · simp [hid]
    · simp [hid]
  · rename_i hname
    simp [hname]

theorem member_removeMember (hid : id ≠ taskId) :
    (store.removeMember name taskId).Member name' id ↔ store.Member name' id := by
  unfold Member
  rw [queue_removeMember]
  split
  · rename_i hname
    simp [hname, Dict.get?_erase, hid]
  · exact Iff.rfl

theorem member_of_removeMember (h : (store.removeMember name taskId).Member name' id) :
    store.Member name' id := by
  unfold Member at h ⊢
  rw [queue_removeMember] at h
  split at h
  · rename_i hname
    obtain ⟨score, hscore⟩ := h
    exact ⟨score, hname ▸ (Dict.of_get?_erase hscore).2⟩
  · exact h

/-- What holds of the hash that is written and of the others holds of all. -/
theorem forall_task_of_write {store' : RedisStore}
    (htasks : ∀ id, store'.tasks.get? id = if id = taskId then some task else store.tasks.get? id)
    (P : Int → TaskHash → Prop) (hnew : P taskId task)
    (hold : ∀ id found, id ≠ taskId → store.tasks.get? id = some found → P id found) :
    ∀ id found, store'.tasks.get? id = some found → P id found := by
  intro id found hfound
  rw [htasks] at hfound
  split at hfound
  · rename_i hid
    cases hfound
    exact hid ▸ hnew
  · rename_i hid
    exact hold id found hid hfound

section

variable (h : store.Settled)
include h

/-- One hash is written, and only its place in the sorted sets may change. -/
theorem Settled.write {store' : RedisStore} (hid : task.taskId = taskId)
    (hscheduled : task.scheduledAt ≠ some none)
    (htasks : ∀ id, store'.tasks.get? id = if id = taskId then some task else store.tasks.get? id)
    (hothers : ∀ name id, id ≠ taskId → (store'.Member name id ↔ store.Member name id))
    (hlisted : task.status = .queued → store'.Member task.queue taskId) : store'.Settled where
  keyed := forall_task_of_write htasks _ hid fun id found _ => h.keyed id found
  listed := forall_task_of_write htasks _ hlisted fun id found hne hfound hqueued =>
    (hothers found.queue id hne).mpr (h.listed id found hfound hqueued)
  known name id hmember := by
    rw [htasks]
    split
    · exact ⟨task, rfl⟩
    · rename_i hne
      exact h.known name id ((hothers name id hne).mp hmember)
  scheduled := forall_task_of_write htasks (fun _ found => found.scheduledAt ≠ some none)
    hscheduled fun id found _ => h.scheduled id found

/-- The hash that HSET leaves has the status and the queue that were written. -/
theorem Settled.get?_putTask (taskId : Int) (task : TaskHash) :
    ∃ stored, (∀ id, (store.putTask taskId task).tasks.get? id =
        if id = taskId then some stored else store.tasks.get? id) ∧
      stored.taskId = task.taskId ∧ stored.status = task.status ∧ stored.queue = task.queue ∧
      (task.scheduledAt ≠ some none → stored.scheduledAt ≠ some none) := by
  refine ⟨_, fun id => store.get?_putTask taskId id task, ?_⟩
  cases hold : store.tasks.get? taskId with
  | none => exact ⟨rfl, rfl, rfl, id⟩
  | some old =>
    refine ⟨rfl, rfl, rfl, fun hscheduled => ?_⟩
    -- HSET leaves the old value if the dictionary has none
    show task.scheduledAt.or old.scheduledAt ≠ some none
    cases hnew : task.scheduledAt with
    | none => exact h.scheduled taskId old hold
    | some value => rwa [hnew] at hscheduled

/-- What a method writes has the schedule of what it read. -/
theorem Settled.scheduled_sameTask {written : TaskHash}
    (hfound : store.tasks.get? taskId = some found) (hsame : found.SameTask written) :
    written.scheduledAt ≠ some none := by
  rw [hsame.scheduledAt]
  exact h.scheduled taskId found hfound

/-- HSET of a task that is not queued, or is in the set of its queue. -/
theorem Settled.putTask (hid : task.taskId = taskId) (hscheduled : task.scheduledAt ≠ some none)
    (hqueued : task.status = .queued → store.Member task.queue taskId) :
    (store.putTask taskId task).Settled := by
  obtain ⟨stored, htasks, hkey, hstatus, hqueue, hnull⟩ := h.get?_putTask taskId task
  refine h.write (hkey.trans hid) (hnull hscheduled) htasks (fun _ _ _ => Iff.rfl) ?_
  rw [hstatus, hqueue]
  exact hqueued

/-- HSET of a queued task, and ZADD. -/
theorem Settled.putTask_addMember (hid : task.taskId = taskId)
    (hscheduled : task.scheduledAt ≠ some none) (score : ℚ) :
    ((store.putTask taskId task).addMember task.queue taskId score).Settled := by
  obtain ⟨stored, htasks, hkey, _, hqueue, hnull⟩ := h.get?_putTask taskId task
  refine h.write (hkey.trans hid) (hnull hscheduled) htasks (fun name id hne => ?_) fun _ => ?_
  · rw [member_addMember, or_iff_right fun heq => hne heq.2]
    rfl
  · exact member_addMember.mpr (.inl ⟨hqueue, rfl⟩)

/-- ZREM of a task that is not queued. -/
theorem Settled.removeMember (name : String)
    (hstatus : ∀ task, store.tasks.get? taskId = some task → task.status ≠ .queued) :
    (store.removeMember name taskId).Settled where
  keyed := h.keyed
  listed := by
    intro id found hfound hqueued
    have hne : id ≠ taskId := by
      rintro rfl
      exact hstatus found hfound hqueued
    exact (member_removeMember hne).mpr (h.listed id found hfound hqueued)
  known name' id hmember := h.known name' id (member_of_removeMember hmember)
  scheduled := h.scheduled

/-- A lease of a task by the script. -/
theorem Settled.grant (htask : store.tasks.get? taskId = some task) (name w : String) (u now : Time) :
    (store.grant name taskId (task.leased w u now)).Settled :=
  h.write (show (task.leased w u now).taskId = _ from h.keyed taskId task htask)
    (h.scheduled taskId task htask) (fun _ => Dict.get?_set ..)
    (fun _ _ hne => member_removeMember hne) nofun

/-- The lease script. -/
theorem Settled.evalLease (name w : String) (u now : Time) :
    (exec (evalLease name w u now) store).2.Settled := by
  rcases scriptLoop_cases store name w u now (store.members name) with
    ⟨taskId, _, task, ⟨htask, _⟩, hloop⟩ | hloop | hloop
  · simp only [exec, hloop]
    exact h.grant htask name w u now
  · simp only [exec, hloop]
    exact h
  · simp only [exec, hloop]
    exact h

end

end

end RedisStore

/-! ## Methods -/

/-- What can leave a task in the queue: a heartbeat that found it there, a failure, or the
end of its lease. -/
theorem TaskState.queued_of_apply {t t' : TaskState} {op : TaskOp} (h : op.apply t = some t')
    (hqueued : t'.status = .queued) :
    (t.status = .queued ∧ ∃ w u, op = .heartbeat w u) ∨ (∃ w k, op = .fail w k) ∨
      ∃ now, op = .expire now := by
  cases TaskState.applied_of_apply h with
  | heartbeat => exact .inl ⟨hqueued, _, _, rfl⟩
  | retry => exact .inr (.inl ⟨_, _, rfl⟩)
  | release | lostRetry => exact .inr (.inr ⟨_, rfl⟩)
  | _ => cases hqueued

namespace RedisTaskBackend

open RedisStore

/-- Whenever the next command is not a ZADD, the store is settled. -/
abbrev Safe {α : Type} (Q : α → RedisStore → Prop) (p : RedisM α) (store : RedisStore) : Prop :=
  p.Keeps RedisStore.exec IsZadd Settled Q store

variable {store : RedisStore}

theorem safe_task (h : store.Settled) (taskId : Int) :
    Safe (fun found s => s.tasks.get? taskId = some found) (task taskId) store := by
  refine ⟨fun _ => h, ?_⟩
  simp only [RedisStore.exec]
  cases hget : store.tasks.get? taskId with
  | none => exact h
  | some found => exact ⟨h, hget⟩

theorem safe_work {α : Type} (h : store.Settled) (act : HashM α) (found : TaskHash) :
    Safe (fun result s => s = store ∧ act.run found = .ok result.1 result.2) (work act found)
      store := by
  unfold work
  split
  · rename_i hrun
    exact ⟨h, rfl, hrun⟩
  · exact h

variable (score : Int → Time → ℚ)

theorem safe_enqueue (h : store.Settled) (now : Time) {input : TaskInput}
    (hinput : input.scheduledAtNone = false) :
    Safe (fun _ _ => True) (enqueue score now input) store := by
  have hid : Safe (fun _ _ => True) (idFor input) store := by
    have hincr : Safe (fun _ _ => True) (Program.ask incr : RedisM Int) store :=
      ⟨fun _ => h, ⟨h.keyed, h.listed, h.known, h.scheduled⟩, trivial⟩
    unfold idFor
    split
    · exact hincr
    · split
      · exact hincr
      · exact ⟨h, trivial⟩
  refine Program.keeps_bind _ (fun taskId s hs _ => ?_) hid
  have hid : (record now input taskId).taskId = taskId := rfl
  have hscheduled : (record now input taskId).scheduledAt ≠ some none := by
    simp only [record, hinput]
    split <;> simp
  have hadded := hs.putTask_addMember hid hscheduled (queueScore score (record now input taskId))
  exact ⟨fun _ => hs, fun hne => absurd trivial hne, hadded, trivial⟩

theorem safe_update (h : store.Settled) (op : HashOp) (hreap : ∀ now, op ≠ .reap now) (taskId : Int) :
    Safe (fun _ _ => True) (update score op taskId) store := by
  refine Program.keeps_bind _ (fun found s hs hfound => ?_) (safe_task h taskId)
  refine Program.keeps_bind _ (fun result s' _ hresult => ?_) (safe_work hs op.act found)
  obtain ⟨dead, written⟩ := result
  obtain ⟨rfl, hrun⟩ := hresult
  obtain ⟨happly, hsame, hdead⟩ := HashOp.done_of_run (fun now heq => absurd heq (hreap now)) hrun
  have hid : written.taskId = taskId := hsame.taskId.trans (hs.keyed taskId found hfound)
  have hscheduled := hs.scheduled_sameTask hfound hsame
  -- only a failure queues a task that was not queued
  have hwritten : (written.status = .queued → found.status = .queued) →
      (s'.putTask taskId written).Settled := by
    intro hqueued
    refine hs.putTask hid hscheduled fun hstatus => ?_
    rw [hsame.queue]
    exact hs.listed taskId found hfound (hqueued hstatus)
  refine ⟨fun _ => hs, ?_⟩
  cases op with
  | fail w k error message now =>
    cases dead with
    | true =>
      have hdone := hwritten fun hstatus => by rw [hdead rfl] at hstatus; cases hstatus
      show Program.Keeps _ _ _ _ (if (PyValue.dict error).Encodable then
        Program.ask (rpush taskId error) else .raised .encoding : RedisM Unit) _
      split
      · exact ⟨fun _ => hdone, ⟨hdone.keyed, hdone.listed, hdone.known, hdone.scheduled⟩, trivial⟩
      · exact hdone
    | false =>
      exact ⟨fun hne => absurd trivial hne, hs.putTask_addMember hid hscheduled _, trivial⟩
  | cancel now =>
    have hnot : written.status ≠ .queued := by
      intro hstatus
      rcases TaskState.queued_of_apply happly hstatus with ⟨_, _, _, heq⟩ | ⟨_, _, heq⟩ | ⟨_, heq⟩ <;>
        cases heq
    have hdone := hwritten fun hstatus => absurd hstatus hnot
    have hremoved := hdone.removeMember written.queue fun task htask hstatus => by
      obtain ⟨stored, htasks, _, hsame, _⟩ := hs.get?_putTask taskId written
      cases htask.symm.trans ((htasks taskId).trans (if_pos rfl))
      exact hnot (hsame ▸ hstatus)
    exact ⟨fun _ => hdone, fun _ => hremoved, hremoved, trivial⟩
  | reap now => exact absurd rfl (hreap now)
  | _ =>
    refine ⟨hwritten fun hstatus => ?_, trivial⟩
    rcases TaskState.queued_of_apply happly hstatus with ⟨hbefore, _⟩ | ⟨_, _, heq⟩ | ⟨_, heq⟩
    · exact hbefore
    · cases heq
    · cases heq

theorem safe_reapTask (h : store.Settled) (now : Time) (queue : String) (taskId : Int) :
    Safe (fun _ _ => True) (reapTask score now queue taskId) store := by
  refine Program.keeps_bind _ (fun found s hs hfound => ?_) (safe_task h taskId)
  split
  · exact ⟨hs, trivial⟩
  split
  · exact ⟨hs, trivial⟩
  rename_i hexpired
  refine Program.keeps_bind _ (fun result s' _ hresult => ?_) (safe_work hs TaskHash.reap found)
  obtain ⟨dead, reaped⟩ := result
  obtain ⟨rfl, hrun⟩ := hresult
  have hrun' : (HashOp.reap now).act.run found = .ok dead reaped := hrun
  obtain ⟨_, hsame, hdead⟩ :=
    HashOp.done_of_run (by rintro _ ⟨⟩; exact not_not.mp hexpired) hrun'
  have hscheduled := hs.scheduled_sameTask hfound hsame
  cases dead with
  | true =>
    have hwritten : (s'.putTask reaped.taskId reaped).Settled :=
      hs.putTask rfl hscheduled fun hstatus => by rw [hdead rfl] at hstatus; cases hstatus
    exact ⟨fun _ => hs, hwritten, trivial⟩
  | false =>
    exact ⟨fun _ => hs, fun hne => absurd trivial hne, hs.putTask_addMember rfl hscheduled _,
      trivial⟩

theorem compositional_safe : Compositional score fun p =>
    ∀ store : RedisStore, store.Settled → Safe (fun _ _ => True) p store where
  done _ _ h := ⟨h, trivial⟩
  raised _ _ h := h
  bind hp hf store h := Program.keeps_bind _ (fun a s hs _ => hf a s hs) (hp store h)
  keys _ _ h := ⟨fun _ => h, h, trivial⟩
  zrange _ _ h := ⟨fun _ => h, h, trivial⟩
  evalLease queue w u now _ h := ⟨fun _ => h, h.evalLease queue w u now, trivial⟩
  reapTask now queue taskId _ h := safe_reapTask score h now queue taskId
  leaseEach := by
    intro now queue w n taskId rest hrest store h
    refine Program.keeps_bind _ (fun found s hs hfound => ?_) (safe_task h taskId)
    split
    · exact hrest s hs
    split
    · exact hrest s hs
    -- the task is not queued any more when it leaves the set
    have hwritten : (s.putTask found.taskId (found.leased w (now + seconds n) now)).Settled :=
      hs.putTask rfl (hs.scheduled taskId found hfound) fun hstatus => by cases hstatus
    refine ⟨fun _ => hs, fun _ => hwritten, hwritten.removeMember queue ?_, trivial⟩
    intro stored hstored hqueued
    obtain ⟨_, htasks, _, hstatus, _⟩ :=
      hs.get?_putTask found.taskId (found.leased w (now + seconds n) now)
    cases hstored.symm.trans ((htasks found.taskId).trans (if_pos rfl))
    cases hstatus.symm.trans hqueued

/-- Every method, at every command. -/
theorem safe_method (str : PyValue → String) (scripts : Bool) {call : DurableCall}
    (hcall : ∀ now input, call = .enqueue now input → input.scheduledAtNone = false)
    (h : store.Settled) : Safe (fun _ _ => True) (method score str scripts call) store :=
  (compositional_safe score).method scripts
    (fun taskId op hop _ h => safe_update score h op (ne_reap_of_methodOn hop) taskId)
    (fun now input heq _ h => safe_enqueue score h now (hcall now input heq)) store h

/-! ## A lease of a queued task -/

variable {now : Time} {taskIds : List Int} {taskId : Int} {task : TaskHash}

/-- The reaper leaves a store in which no lease is over. -/
theorem run_reapEach_idle (queue : String)
    (h : ∀ taskId ∈ taskIds, ∃ task, store.tasks.get? taskId = some task ∧ ¬ task.Expired now) :
    (Program.run RedisStore.exec (reapEach score now queue taskIds)).run store = .ok 0 store := by
  induction taskIds with
  | nil => rfl
  | cons taskId rest ih =>
    obtain ⟨task, htask, hidle⟩ := h taskId List.mem_cons_self
    have hone : (Program.run RedisStore.exec (reapTask score now queue taskId)).run store =
        .ok 0 store := by
      rcases run_reapTask_cases score now queue htask with ⟨_, hrun⟩ | ⟨⟨_, hexpired⟩, _⟩
      · exact hrun
      · exact absurd hexpired hidle
    have hrest := ih fun id hid => h id (List.mem_cons_of_mem taskId hid)
    simp only [reapEach, Program.run_bind, hone, hrest]
    rfl

/-- The member of a set has a hash under its id, `p` tells whether it is queued and due, and the
texts tell the same as the times. -/
structure Judged (store : RedisStore) (p : Int → Bool) (now : Time) (taskId : Int)
    (task : TaskHash) : Prop where
  stored : store.tasks.get? taskId = some task
  key : task.taskId = taskId
  scheduled : task.scheduledAt ≠ some none
  due : p taskId = true ↔ task.status = .queued ∧ ¬ task.NotYet now
  texts : p taskId = true ↔ store.ScriptTakes now taskId task

/-- What a loop over members does: it grants the first one that `p` tells of, if any. -/
def Finds (store : RedisStore) (p : Int → Bool) (name : String) (taskIds : List Int) (w : String)
    (u now : Time) (leased : Option TaskHash) (store' : RedisStore) : Prop :=
  (taskIds.find? p = none ∧ leased = none ∧ store' = store) ∨
    ∃ taskId task, taskIds.find? p = some taskId ∧ store.tasks.get? taskId = some task ∧
      leased = some (task.leased w u now) ∧ store' = store.grant name taskId (task.leased w u now)

section

variable {store : RedisStore} {p : Int → Bool} {name w : String} {u : Time}

theorem Finds.skip {leased : Option TaskHash} {store' : RedisStore}
    (h : Finds store p name taskIds w u now leased store') (hnot : ¬ p taskId = true) :
    Finds store p name (taskId :: taskIds) w u now leased store' := by
  unfold Finds
  rw [List.find?_cons, Bool.eq_false_iff.mpr hnot]
  exact h

theorem Finds.take (htask : store.tasks.get? taskId = some task) (hp : p taskId = true) :
    Finds store p name (taskId :: taskIds) w u now (some (task.leased w u now))
      (store.grant name taskId (task.leased w u now)) :=
  .inr ⟨taskId, task, by rw [List.find?_cons, hp], htask, rfl, rfl⟩

/-- The lease script. -/
theorem finds_scriptLoop (name w : String) (u : Time)
    (h : ∀ id ∈ taskIds, ∃ task, Judged store p now id task) :
    ∃ leased store', store.scriptLoop name w u now taskIds = (.ok leased, store') ∧
      Finds store p name taskIds w u now leased store' := by
  induction taskIds with
  | nil => exact ⟨none, store, rfl, .inl ⟨rfl, rfl, rfl⟩⟩
  | cons taskId rest ih =>
    obtain ⟨leased, store', hloop, hfinds⟩ := ih fun id hid => h id (List.mem_cons_of_mem taskId hid)
    obtain ⟨task, hjudged⟩ := h taskId List.mem_cons_self
    rcases store.scriptLoop_cons name w u now taskId rest with
      ⟨task', htakes, hloop'⟩ | ⟨hnot, hnext | ⟨⟨task', htask', hnull⟩, _⟩⟩
    · cases hjudged.stored.symm.trans htakes.1
      exact ⟨_, _, hloop', .take hjudged.stored (hjudged.texts.mpr htakes)⟩
    · exact ⟨leased, store', hnext.trans hloop, hfinds.skip (mt hjudged.texts.mp (hnot task))⟩
    · cases hjudged.stored.symm.trans htask'
      exact absurd hnull hjudged.scheduled

/-- The loop of `lease`. -/
theorem finds_leaseEach (name w : String) (n : Int)
    (h : ∀ id ∈ taskIds, ∃ task, Judged store p now id task) :
    ∃ leased store', (Program.run RedisStore.exec (leaseEach now name w n taskIds)).run store =
        .ok leased store' ∧ Finds store p name taskIds w (now + seconds n) now leased store' := by
  induction taskIds with
  | nil => exact ⟨none, store, rfl, .inl ⟨rfl, rfl, rfl⟩⟩
  | cons taskId rest ih =>
    obtain ⟨leased, store', hloop, hfinds⟩ := ih fun id hid => h id (List.mem_cons_of_mem taskId hid)
    obtain ⟨task, hjudged⟩ := h taskId List.mem_cons_self
    have htask := hjudged.stored
    by_cases hqueued : task.status ≠ .queued
    · refine ⟨leased, store', ?_, hfinds.skip fun htrue => hqueued (hjudged.due.mp htrue).1⟩
      simp only [leaseEach, Program.run_bind, run_task, htask, if_pos hqueued]
      exact hloop
    by_cases hlater : task.NotYet now
    · refine ⟨leased, store', ?_, hfinds.skip fun htrue => (hjudged.due.mp htrue).2 hlater⟩
      simp only [leaseEach, Program.run_bind, run_task, htask, if_neg hqueued, if_pos hlater]
      exact hloop
    · refine ⟨_, _, ?_, .take htask (hjudged.due.mpr ⟨not_not.mp hqueued, hlater⟩)⟩
      have hmerge : task.merge (task.leased w (now + seconds n) now) =
          task.leased w (now + seconds n) now := by
        simp [TaskHash.merge, TaskHash.leased]
      have hput : store.putTask taskId (task.leased w (now + seconds n) now) =
          { store with
            tasks := store.tasks.set taskId (task.leased w (now + seconds n) now) } := by
        simp only [RedisStore.putTask, htask, hmerge]
      simp only [leaseEach, Program.run_bind, run_task, htask, if_neg hqueued, if_neg hlater]
      cases hjudged.key
      simp only [RedisStore.grant, ← hput]
      rfl

/-- `lease`, by the script or by the loop. -/
theorem finds_lease (scripts : Bool) {store₁ : RedisStore} {reapNow : Time}
    {order : Domain.RowOrder} {count : Nat} (w : String) (n : Int)
    (hreap : (Program.run RedisStore.exec (reapExpiredLeases score reapNow order (some name))).run
      store = .ok count store₁)
    (h : ∀ id ∈ store₁.members name, ∃ task, Judged store₁ p now id task) :
    ∃ leased store₂, (Program.run RedisStore.exec
        (lease score scripts now reapNow order name w n)).run store = .ok leased store₂ ∧
      Finds store₁ p name (store₁.members name) w (now + seconds n) now leased store₂ := by
  obtain ⟨leased, store₂, hloop, hfinds⟩ := finds_leaseEach name w n h
  have hzrange : (Program.run RedisStore.exec (do
      let taskIds ← Program.ask (zrange name)
      leaseEach now name w n taskIds)).run store₁ = .ok leased store₂ := hloop
  cases scripts with
  | false =>
    refine ⟨leased, store₂, ?_, hfinds⟩
    simp only [lease, Program.run_bind, hreap, leaseWithEval, Bool.false_eq_true, if_false]
    exact hzrange
  | true =>
    obtain ⟨leased', store₂', hscript, hfinds'⟩ := finds_scriptLoop name w (now + seconds n) h
    have heval : (Program.run RedisStore.exec (leaseWithEval true now name w n)).run store₁ =
        .ok leased' store₂' := by
      simp only [leaseWithEval, if_true, Program.ask_bind, Program.run_send, RedisStore.exec,
        hscript]
      rfl
    cases leased' with
    | some task =>
      refine ⟨some task, store₂', ?_, hfinds'⟩
      simp only [lease, Program.run_bind, hreap, heval]
      rfl
    | none =>
      have hsame : store₂' = store₁ := by
        rcases hfinds' with ⟨_, _, hsame⟩ | ⟨_, _, _, _, heq, _⟩
        · exact hsame
        · cases heq
      subst hsame
      refine ⟨leased, store₂, ?_, hfinds⟩
      simp only [lease, Program.run_bind, hreap, heval]
      exact hzrange

end

end RedisTaskBackend

namespace RedisStore

theorem mem_members {store : RedisStore} {name : String} {taskId : Int} :
    taskId ∈ store.members name ↔ store.Member name taskId := by
  unfold members Member
  simp only [List.mem_map, List.mem_insertionSort, Prod.exists, exists_and_right,
    exists_eq_right, Dict.get?_eq_some_iff]

/-- A task that is due by the clock is due by the texts. -/
theorem scriptTakes_of_due {store : RedisStore} {taskId : Int} {task : TaskHash} {now : Time}
    (htask : store.tasks.get? taskId = some task) (hscheduled : task.scheduledAt ≠ some none)
    (hdue : task.status = .queued ∧ ¬ task.NotYet now) : store.ScriptTakes now taskId task := by
  refine ⟨htask, hdue.1, ?_⟩
  cases hat : task.scheduledAt with
  | none => exact .inl rfl
  | some value =>
    cases value with
    | none => exact absurd hat hscheduled
    | some scheduledAt =>
      refine .inr ⟨scheduledAt, rfl, ?_⟩
      have hle : scheduledAt ≤ now := by
        by_contra hlater
        exact hdue.2 ⟨scheduledAt, by simp [TaskHash.dueAt, hat], Int.not_le.mp hlater⟩
      exact Int.ediv_le_ediv (by decide) hle

section

variable (score : Int → Time → ℚ) (scripts : Bool)

/-- A lease of the queue of the task returns it once it is due, if no other task is queued and
no lease is over. -/
def Leasable (store : RedisStore) (taskId : Int) (task : TaskHash) : Prop :=
  ∀ now reapNow order w n, ¬ task.NotYet now →
    (∀ id other, store.tasks.get? id = some other → ¬ other.Expired reapNow) →
    (∀ id other, store.tasks.get? id = some other → id ≠ taskId → other.status ≠ .queued) →
      ∃ store',
        (Program.run exec
          (lease score scripts now reapNow order task.queue w n)).run store =
            .ok (some (task.leased w (now + seconds n) now)) store'

theorem Settled.leasable {store : RedisStore} (h : store.Settled) {taskId : Int} {task : TaskHash}
    (htask : store.tasks.get? taskId = some task) (hqueued : task.status = .queued) :
    store.Leasable score scripts taskId task := by
  intro now reapNow order w n hdue hidle hothers
  have hjudged : ∀ id ∈ store.members task.queue,
      ∃ found, Judged store (fun id => decide (id = taskId)) now id found := by
    intro id hid
    obtain ⟨found, hfound⟩ := h.known task.queue id (mem_members.mp hid)
    have hkey := h.keyed id found hfound
    have hnull := h.scheduled id found hfound
    by_cases heq : id = taskId
    · subst heq
      cases htask.symm.trans hfound
      exact ⟨task, htask, hkey, hnull, iff_of_true (decide_eq_true rfl) ⟨hqueued, hdue⟩,
        iff_of_true (decide_eq_true rfl) (scriptTakes_of_due htask hnull ⟨hqueued, hdue⟩)⟩
    · have hnot : ¬ decide (id = taskId) = true := by simpa using heq
      have hother := hothers id found hfound heq
      exact ⟨found, hfound, hkey, hnull, iff_of_false hnot fun hall => hother hall.1,
        iff_of_false hnot fun hall => hother hall.2.1⟩
  have hreap : (Program.run exec
      (reapExpiredLeases score reapNow order (some task.queue))).run store = .ok 0 store := by
    refine run_reapEach_idle score task.queue fun id hid => ?_
    obtain ⟨other, hother⟩ := (Dict.mem_keys_iff _).mp ((order.perm _).mem_iff.mp hid)
    exact ⟨other, hother, hidle id other hother⟩
  obtain ⟨leased, store', hrun, hfinds⟩ := finds_lease score scripts w n hreap hjudged
  refine ⟨store', ?_⟩
  rcases hfinds with ⟨hnone, _⟩ | ⟨id, found, hfirst, hfound, rfl, _⟩
  · have hmem := mem_members.mpr (h.listed taskId task htask hqueued)
    exact absurd (decide_eq_true rfl) (List.find?_eq_none.mp hnone taskId hmem)
  · have heq : id = taskId := by simpa using List.find?_some hfirst
    subst heq
    cases htask.symm.trans hfound
    exact hrun

end

end RedisStore

/-! ## Processes that die -/

/-- A call, and the number of commands after which its process dies, unless it is done. -/
structure CutCall where
  call : DurableCall
  commands : Nat

namespace RedisStore

section

variable (score : Int → Time → ℚ) (str : PyValue → String) (scripts : Bool)
  (store : RedisStore) (cut : CutCall)

/-- One call, up to the death of its process; the reply is what is left of it. -/
def execCut : RedisM (DurableReply TaskHash) × RedisStore :=
  Program.stop exec cut.commands (method score str scripts cut.call) store

/-- The store after the reaper's next round on the queue. -/
def reapedStore (now : Time) (order : Domain.RowOrder) (queue : String) :
    RedisStore :=
  match (Program.run exec (reapExpiredLeases score now order (some queue))).run store with
  | .ok _ store' => store'
  | .error _ store' => store'

/-- Every queued task is in the set of its queue, or the reaper's next round puts it there, and
a lease of the queue returns it once it is its turn. -/
def NotStranded : Prop :=
  ∀ taskId task, store.tasks.get? taskId = some task → task.status = .queued →
    (store.Member task.queue taskId ∨
      ∀ now order, (store.reapedStore score now order task.queue).Member task.queue taskId) ∧
      store.Leasable score scripts taskId task

/-- The process does not die before a ZADD, and no task is given a `None` as `scheduled_at`. -/
def QueuedWhole : Prop :=
  ¬ (store.execCut score str scripts cut).1.About IsZadd ∧
    ∀ now input, cut.call = .enqueue now input → input.scheduledAtNone = false

theorem settled_execCut {store : RedisStore} (h : store.Settled) {cut : CutCall}
    (hcut : store.QueuedWhole score str scripts cut) :
    (store.execCut score str scripts cut).2.Settled :=
  (safe_method score str scripts hcut.2 h).stop exec cut.commands hcut.1

/-- In every run in which no process dies before a ZADD and no task is given a `None` as
`scheduled_at`, no task is stranded. -/
theorem not_stranded_when_queued_whole (cuts : List CutCall)
    (h : Admitted (execCut score str scripts) (QueuedWhole score str scripts) empty cuts) :
    NotStranded score scripts (final (execCut score str scripts) empty cuts) := by
  have hsettled : (final (execCut score str scripts) empty cuts).Settled :=
    invariant_final (execCut score str scripts) (I := Settled)
      (fun store cut hcut hstore => settled_execCut score str scripts hstore hcut) cuts empty
      settled_empty h
  intro taskId task htask hqueued
  exact ⟨.inl (hsettled.listed taskId task htask hqueued),
    hsettled.leasable score scripts htask hqueued⟩

end

/-- The store after some calls, of processes that may die. -/
def afterCuts (cuts : List CutCall) : RedisStore :=
  final (execCut (fun _ _ => 0) (fun _ => "") true) empty cuts

/-- Two tasks are enqueued, and a worker dies after the lease script. -/
theorem not_stranded_when_queued_whole_dead_worker : NotStranded (fun _ _ => 0) true
      (final (execCut (fun _ _ => 0) (fun _ => "") true) empty
        [⟨.enqueue 5 {}, 9⟩, ⟨.enqueue 6 {}, 9⟩,
          ⟨.lease 7 7 .byKey .byKey "default" "a" 30, 4⟩]) := by
  apply not_stranded_when_queued_whole
  refine ⟨⟨by decide, ?_⟩, ⟨by decide, ?_⟩, ⟨by decide, ?_⟩, trivial⟩
  · rintro now input ⟨⟩
    rfl
  · rintro now input ⟨⟩
    rfl
  · rintro now input hcall
    cases hcall

/-- A process dies between HSET and ZADD of an `enqueue`: the task is queued, and no round of
the reaper puts it into the set. And a task whose `scheduled_at` is given as `None` makes
every lease of its queue fail. -/
theorem cut_enqueue_strands_task :
    (∃ task, (afterCuts [⟨.enqueue 5 {}, 2⟩]).tasks.get? 1 = some task ∧ task.status = .queued ∧
      task.queue = "default" ∧ ¬ (afterCuts [⟨.enqueue 5 {}, 2⟩]).Member "default" 1 ∧
      ∀ now, ¬ ((afterCuts [⟨.enqueue 5 {}, 2⟩]).reapedStore (fun _ _ => 0) now .byKey
        "default").Member "default" 1) ∧
    ¬ NotStranded (fun _ _ => 0) true (afterCuts [⟨.enqueue 5 { scheduledAtNone := true }, 9⟩]) := by
  have hmember : ¬ (afterCuts [⟨.enqueue 5 {}, 2⟩]).Member "default" 1 := by
    rintro ⟨score, hscore⟩
    cases (show none = some score from hscore)
  refine ⟨⟨_, rfl, rfl, rfl, hmember, fun now => ?_⟩, fun h => ?_⟩
  · -- the reaper reads the one task, which is not leased, whatever the time
    exact hmember
  · obtain ⟨_, hlease⟩ := h 1 _ rfl rfl
    have hidle : ∀ id other, (afterCuts
        [⟨.enqueue 5 { scheduledAtNone := true }, 9⟩]).tasks.get? id = some other →
          id = 1 ∧ ¬ other.Expired 10 := by
      intro id other hother
      cases List.mem_singleton.mp ((Dict.get?_eq_some_iff _).mp hother)
      exact ⟨rfl, by decide⟩
    obtain ⟨store', hrun⟩ := hlease 10 10 .byKey "a" 30 (by decide)
      (fun id other hother => (hidle id other hother).2)
      (fun id other hother hne => absurd (hidle id other hother).1 hne)
    cases hrun

end RedisStore

end DimooRun.Scheduler
