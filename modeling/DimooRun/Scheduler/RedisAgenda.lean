/-
  Scheduler/RedisAgenda.lean --- the Redis backend keeps an agenda.

  On fair calls every call of the Redis backend, run to its end, is a call on the agenda
  that its hashes hold. The sorted set adds nothing to the hashes: it has every queued
  task under the score of its key.
-/
import Mathlib.Algebra.Order.Field.Rat
import Mathlib.Data.String.Basic
import Mathlib.Tactic.NormNum
import Mathlib.Tactic.Ring
import DimooRun.Scheduler.Agenda
import DimooRun.Scheduler.RedisLives
import DimooRun.Scheduler.RedisQueues

set_option autoImplicit false

namespace DimooRun.Scheduler

open Foundation DimooRun.Runtime
open Domain (RowOrder)
open RedisCommand
open RedisTaskBackend (queueScore record)

/-- The hash as a job. -/
def TaskHash.job (t : TaskHash) : Job :=
  { state := t.schedule
    priority := t.priority
    createdAt := t.createdAt
    scheduledAt := t.dueAt }

theorem TaskHash.job_sameTask {t t' : TaskHash} (h : t.SameTask t') :
    t'.job = { t.job with state := t'.schedule } := by
  ext1
  · rfl
  · exact h.priority
  · exact h.createdAt
  · exact congrArg Option.join h.scheduledAt

theorem queueScore_sameTask (score : Int → Time → ℚ) {t t' : TaskHash}
    (h : t.SameTask t') : queueScore score t' = queueScore score t := by
  unfold queueScore
  rw [h.priority, h.createdAt]

namespace RedisStore

theorem memberLE_iff (x y : Int × ℚ) :
    MemberLE x y ↔ toLex (x.2, toString x.1) ≤ toLex (y.2, toString y.1) := by
  simp only [MemberLE, Prod.Lex.toLex_le_toLex]

instance : Std.Total MemberLE := total_of_key _ memberLE_iff

instance : IsTrans (Int × ℚ) MemberLE := trans_of_key _ memberLE_iff

/-! ## The agenda of the store -/

variable {score : Int → Time → ℚ}

/-- The hashes are the jobs of the agenda, and the sorted set is their order. -/
structure Shows (score : Int → Time → ℚ) (store : RedisStore) (a : Agenda) : Prop where
  nextId : a.nextId = store.taskIdSeq + 1
  jobs : ∀ id, a.jobs id = (store.tasks.get? id).map TaskHash.job
  keyed : store.Keyed
  queue : ∀ id task, store.tasks.get? id = some task → task.queue = "default"
  scheduled : ∀ id task, store.tasks.get? id = some task → task.scheduledAt ≠ some none
  known : ∀ id, store.Member "default" id → ∃ task, store.tasks.get? id = some task
  listed : ∀ id task, store.tasks.get? id = some task → task.status = .queued →
    (store.queue "default").get? id = some (queueScore score task)

theorem shows_empty : Shows score .empty .empty where
  nextId := rfl
  jobs _ := rfl
  keyed _ _ h := by simp [empty] at h
  queue _ _ h := by simp [empty] at h
  scheduled _ _ h := by simp [empty] at h
  known _ h := by simp [Member, RedisStore.queue, empty] at h
  listed _ _ h := by simp [empty] at h

variable {store : RedisStore} {a : Agenda}

theorem Shows.job (h : store.Shows score a) {id : Int} {task : TaskHash}
    (htask : store.tasks.get? id = some task) : a.jobs id = some task.job := by
  rw [h.jobs, htask]
  rfl

/-- One hash is replaced by another version of it, and only its place in the sorted set may
change. -/
structure Writes (score : Int → Time → ℚ) (store : RedisStore) (taskId : Int) (written : TaskHash)
    (store' : RedisStore) : Prop where
  taskIdSeq : store'.taskIdSeq = store.taskIdSeq
  tasks : ∀ id, store'.tasks.get? id = if id = taskId then some written else store.tasks.get? id
  others : ∀ id, id ≠ taskId → (store'.queue "default").get? id = (store.queue "default").get? id
  listed : written.status = .queued →
    (store'.queue "default").get? taskId = some (queueScore score written)

variable {store' : RedisStore} {taskId : Int} {found written : TaskHash} {op : HashOp} {dead : Bool}

/-- The write of a hash, new or old, is the write of its job. -/
theorem Shows.put {a' : Agenda} (h : store.Shows score a) (hkey : written.taskId = taskId)
    (hnext : a'.nextId = store'.taskIdSeq + 1)
    (hjobs : ∀ id, a'.jobs id = if id = taskId then some written.job else a.jobs id)
    (htasks : ∀ id, store'.tasks.get? id = if id = taskId then some written else store.tasks.get? id)
    (hothers : ∀ id, id ≠ taskId →
      (store'.queue "default").get? id = (store.queue "default").get? id)
    (hlisted : written.status = .queued →
      (store'.queue "default").get? taskId = some (queueScore score written))
    (hqueue : written.queue = "default") (hscheduled : written.scheduledAt ≠ some none) :
    store'.Shows score a' := by
  have hall := forall_task_of_write htasks
  refine ⟨hnext, fun id => ?_, hall _ hkey fun id task _ => h.keyed id task,
    hall (fun _ task => task.queue = "default") hqueue fun id task _ => h.queue id task,
    hall (fun _ task => task.scheduledAt ≠ some none) hscheduled fun id task _ => h.scheduled id task,
    fun id hmember => ?_, hall _ hlisted fun id task hid htask hqueued => ?_⟩
  · rw [hjobs, htasks, h.jobs]
    split <;> rfl
  · rw [htasks]
    split
    · exact ⟨written, rfl⟩
    · rename_i hid
      obtain ⟨value, hvalue⟩ := hmember
      exact h.known id ⟨value, (hothers id hid).symm.trans hvalue⟩
  · rw [hothers id hid]
    exact h.listed id task htask hqueued

theorem Writes.shows (hwrites : store.Writes score taskId written store') (h : store.Shows score a)
    (hfound : store.tasks.get? taskId = some found) (hsame : found.SameTask written) :
    store'.Shows score (a.setState taskId written.schedule) := by
  refine h.put (hsame.taskId.trans (h.keyed taskId found hfound))
    (by rw [hwrites.taskIdSeq]; exact h.nextId) (fun id => ?_) hwrites.tasks hwrites.others
    hwrites.listed (hsame.queue.trans (h.queue taskId found hfound))
    (by rw [hsame.scheduledAt]; exact h.scheduled taskId found hfound)
  rw [Agenda.jobs_setState]
  split
  · rename_i hid
    rw [hid, h.job hfound, Option.map_some, TaskHash.job_sameTask hsame]
  · rfl

/-- HSET of what a method has made of a hash, and then something to its place. -/
theorem Writes.of_run (hfound : store.tasks.get? taskId = some found)
    (hrun : op.act.run found = .ok dead written) (hseq : store'.taskIdSeq = store.taskIdSeq)
    (htasks : store'.tasks = (store.putTask taskId written).tasks) (hothers : ∀ id, id ≠ taskId →
      (store'.queue "default").get? id = (store.queue "default").get? id)
    (hlisted : written.status = .queued →
      (store'.queue "default").get? taskId = some (queueScore score written)) :
    store.Writes score taskId written store' :=
  ⟨hseq, fun id => by rw [htasks]; exact get?_putTask_of_run hfound hrun id, hothers, hlisted⟩

/-- HSET and ZADD. -/
theorem Writes.of_addMember (hfound : store.tasks.get? taskId = some found)
    (hrun : op.act.run found = .ok dead written) (hqueue : written.queue = "default") :
    store.Writes score taskId written ((store.putTask taskId written).addMember written.queue taskId
      (queueScore score written)) := by
  refine .of_run hfound hrun rfl rfl (fun id hid => ?_) fun _ => ?_
  · rw [queue_addMember, if_pos hqueue.symm, hqueue, Dict.get?_set, if_neg hid]
    rfl
  · rw [queue_addMember, if_pos hqueue.symm, Dict.get?_set, if_pos rfl]

end RedisStore

namespace RedisTaskBackend

open RedisStore

variable {score : Int → Time → ℚ} {str : PyValue → String} {scripts : Bool} {store : RedisStore}
  {a : Agenda}

section

variable (h : store.Shows score a)
include h

/-! ## Methods on one task -/

/-- A method that has written the hash goes on to put it into its place. -/
theorem writes_afterwards {taskId : Int} {op : HashOp} (hreap : ∀ now, op ≠ .reap now)
    {found written : TaskHash} {dead : Bool} (hfound : store.tasks.get? taskId = some found)
    (hrun : op.act.run found = .ok dead written) :
    store.Writes score taskId written (endState ((Program.run RedisStore.exec
      (afterwards score op taskId (dead, written))).run (store.putTask taskId written))) := by
  obtain ⟨happly, hsame, hdead⟩ := HashOp.done_of_run (fun now heq => absurd heq (hreap now)) hrun
  have hqueue : written.queue = "default" := hsame.queue.trans (h.queue taskId found hfound)
  cases op with
  | fail w k error message now =>
    cases dead with
    | true =>
      have hnot : written.status ≠ .queued := by simp [hdead rfl]
      simp only [afterwards, if_true]
      split <;> exact .of_run hfound hrun rfl rfl (fun _ _ => rfl) fun hqueued => absurd hqueued hnot
    | false => exact .of_addMember hfound hrun hqueue
  | cancel now =>
    refine .of_run hfound hrun rfl rfl (fun id hid => ?_) fun hqueued => ?_
    · show (((store.putTask taskId written).removeMember written.queue taskId).queue
        "default").get? id = _
      rw [queue_removeMember, if_pos hqueue.symm, hqueue, Dict.get?_erase, if_neg hid]
      rfl
    · rcases TaskState.queued_of_apply happly hqueued with ⟨_, _, _, heq⟩ | ⟨_, _, heq⟩ | ⟨_, heq⟩ <;>
        cases heq
  | reap now => exact absurd rfl (hreap now)
  | _ =>
    -- what is queued was queued, and stays in its place
    refine .of_run hfound hrun rfl rfl (fun _ _ => rfl) fun hqueued => ?_
    rcases TaskState.queued_of_apply happly hqueued with ⟨hwas, _⟩ | ⟨_, _, heq⟩ | ⟨_, heq⟩
    · rw [queueScore_sameTask score hsame]
      exact h.listed taskId found hfound hwas
    · cases heq
    · cases heq

/-- A call on one task is the operation on the agenda. -/
theorem take_update {call : DurableCall} {taskId : Int} (op : HashOp)
    (hop : methodOn str call = some (taskId, op))
    (hencodes : ∀ w k error message now, op = .fail w k error message now →
      (PyValue.dict error).Encodable) :
    ∃ a', (Agenda.Outcome.of TaskHash.taskId (exec score str scripts store call).1, a') =
        a.take taskId op.taskOp ∧ (exec score str scripts store call).2.Shows score a' := by
  have hexec := exec_update score str scripts hop store
  have hreap := ne_reap_of_methodOn hop
  cases hfound : store.tasks.get? taskId with
  | none =>
    simp only [hfound] at hexec
    rw [hexec]
    refine ⟨a, ?_, h⟩
    rw [Agenda.take_of_none (by rw [h.jobs, hfound]; rfl)]
    rfl
  | some found =>
    cases hrun : op.act.run found with
    | error e t =>
      have hrefines := HashOp.refines found op fun now heq => absurd heq (hreap now)
      simp only [hfound, hrun] at hexec
      rw [hexec, Agenda.take_of_refused (h.job hfound) (hrefines.of_error hrun).1]
      exact ⟨a, rfl, h⟩
    | ok dead written =>
      obtain ⟨happly, hsame, _⟩ := HashOp.done_of_run (fun now heq => absurd heq (hreap now)) hrun
      simp only [hfound, hrun, report_afterwards score hencodes] at hexec
      rw [hexec, Agenda.take_of_apply (h.job hfound) happly]
      exact ⟨_, rfl, (writes_afterwards h hreap hfound hrun).shows h hfound hsame⟩

/-! ## The reaper -/

theorem run_reapTask {taskId : Int} {found : TaskHash}
    (hfound : store.tasks.get? taskId = some found) (now : Time) :
    ∃ count store', (Program.run RedisStore.exec (reapTask score now "default" taskId)).run store =
      .ok count store' ∧ store'.Shows score (a.reapIn now [taskId]) := by
  rcases run_reapTask_cases score now "default" hfound with
    ⟨hidle, hrun⟩ | ⟨⟨_, hexpired⟩, dead, reaped, hreaped, hrun⟩
  · refine ⟨0, store, hrun, ?_⟩
    rw [Agenda.reapIn_of_not_expired (h.job hfound)
      fun hexpired => hidle ⟨h.queue taskId found hfound, hexpired⟩]
    exact h
  · obtain ⟨happly, hsame, hdead⟩ := HashOp.done_of_run (by rintro _ ⟨⟩; exact hexpired) hreaped
    have hid : reaped.taskId = taskId := hsame.taskId.trans (h.keyed taskId found hfound)
    have hname : reaped.queue = "default" := hsame.queue.trans (h.queue taskId found hfound)
    rw [hid] at hrun
    rw [Agenda.reapIn_of_apply (h.job hfound) happly]
    refine ⟨1, _, hrun, Writes.shows ?_ h hfound hsame⟩
    cases dead with
    | true =>
      refine .of_run hfound hreaped rfl rfl (fun _ _ => rfl) fun hqueued => ?_
      rw [hdead rfl] at hqueued
      cases hqueued
    | false => exact .of_addMember hfound hreaped hname

end

theorem run_reapEach (now : Time) (taskIds : List Int) :
    ∀ {store : RedisStore} {a : Agenda}, store.Shows score a →
      (∀ id ∈ taskIds, ∃ job, a.jobs id = some job) →
        ∃ count store', (Program.run RedisStore.exec (reapEach score now "default" taskIds)).run
          store = .ok count store' ∧ store'.Shows score (a.reapIn now taskIds) := by
  induction taskIds with
  | nil =>
    intro store a h _
    refine ⟨0, store, rfl, ?_⟩
    rw [Agenda.reapIn_nil]
    exact h
  | cons taskId rest ih =>
    intro store a h hknown
    obtain ⟨job, hjob⟩ := hknown taskId List.mem_cons_self
    rw [h.jobs] at hjob
    obtain ⟨found, hfound, _⟩ := Option.map_eq_some_iff.mp hjob
    obtain ⟨count, store₁, hrun, hshows⟩ := run_reapTask h hfound now
    obtain ⟨counts, store₂, hrun', hshows'⟩ := ih hshows fun id hid => by
      obtain ⟨job, hjob⟩ := hknown id (List.mem_cons_of_mem taskId hid)
      exact ⟨_, congrArg (Option.map _) hjob⟩
    refine ⟨count + counts, store₂, ?_, ?_⟩
    · simp only [reapEach, Program.run_bind, hrun, hrun']
      rfl
    · rw [← Agenda.reapIn_cons]
      exact hshows'

theorem run_reapExpiredLeases (h : store.Shows score a) (now : Time) (order : RowOrder)
    (queue : Option String) (hqueue : queue.getD "default" = "default") :
    ∃ count store', (Program.run RedisStore.exec (reapExpiredLeases score now order queue)).run
      store = .ok count store' ∧ store'.Shows score (a.reap now) := by
  have hkeys : ∀ id, id ∈ order.arrange store.tasks.keys ↔ ∃ job, a.jobs id = some job := by
    intro id
    rw [(order.perm _).mem_iff, Dict.mem_keys_iff, h.jobs]
    cases store.tasks.get? id with
    | none => simp
    | some found => simp
  obtain ⟨count, store', hrun, hshows⟩ := run_reapEach now (order.arrange store.tasks.keys) h
    fun id hid => (hkeys id).mp hid
  rw [Agenda.reapIn_eq_reap fun id job hjob => (hkeys id).mpr ⟨job, hjob⟩] at hshows
  refine ⟨count, store', ?_, hshows⟩
  simp only [reapExpiredLeases, Program.ask_bind, Program.run_send, RedisStore.exec, hqueue]
  exact hrun

/-! ## Lease -/

section

variable {now : Time} {p : Int → Bool}

theorem dueAt_iff (h : store.Shows score a) {taskId : Int} {found : TaskHash}
    (hfound : store.tasks.get? taskId = some found) (now : Time) :
    a.DueAt now taskId ↔ found.job.Due now := by
  constructor
  · rintro ⟨job, hjob, hdue⟩
    cases (h.job hfound).symm.trans hjob
    exact hdue
  · exact fun hdue => ⟨found.job, h.job hfound, hdue⟩

theorem due_job_iff (task : TaskHash) (now : Time) :
    task.job.Due now ↔ task.status = .queued ∧ ¬ task.NotYet now := by
  refine and_congr Iff.rfl ⟨?_, ?_⟩
  · rintro hle ⟨dueAt, hat, hlt⟩
    exact Int.not_le.mpr hlt (hle dueAt hat)
  · exact fun hnot dueAt hat => Int.not_lt.mp fun hlt => hnot ⟨dueAt, hat, hlt⟩

/-- The texts tell which jobs are due. -/
theorem judged (h : store.Shows score a) (hp : ∀ id, p id = true ↔ a.DueAt now id)
    (hordered : a.Ordered score now) {taskId : Int} (hmem : taskId ∈ store.members "default") :
    ∃ found, Judged store p now taskId found := by
  obtain ⟨found, hfound⟩ := h.known taskId (mem_members.mp hmem)
  have hnull := h.scheduled taskId found hfound
  have hdue := (hp taskId).trans ((dueAt_iff h hfound now).trans (due_job_iff found now))
  refine ⟨found, hfound, h.keyed taskId found hfound, hnull, hdue,
    hdue.trans ⟨scriptTakes_of_due hfound hnull, ?_⟩⟩
  rintro ⟨_, hqueued, htext⟩
  refine ⟨hqueued, fun ⟨dueAt, hat, hlt⟩ => Int.not_le.mpr hlt ?_⟩
  rcases htext with hnone | ⟨scheduledAt, hsome, hle⟩
  · simp [TaskHash.dueAt, hnone] at hat
  · have hsame : scheduledAt = dueAt := by simpa [TaskHash.dueAt, hsome] using hat
    exact hordered.texts taskId found.job dueAt (h.job hfound) hqueued hat (hsame ▸ hle)

open Classical in
/-- `lease` grants the first due job of the sorted set. -/
theorem does_lease (scripts : Bool) (h : store.Shows score a) {reapNow : Time}
    (hordered : (a.reap reapNow).Ordered score now) (order reapOrder : RowOrder) (w : String)
    (n : Int) :
    ∃ leased store' a', (Program.run RedisStore.exec
        (lease score scripts now reapNow reapOrder "default" w n)).run store = .ok leased store' ∧
      a.Does (.lease now reapNow order reapOrder "default" w n)
        (.leased (leased.map TaskHash.taskId)) a' ∧ store'.Shows score a' := by
  obtain ⟨count, store₁, hreap, h₁⟩ := run_reapExpiredLeases h reapNow reapOrder (some "default")
    rfl
  let p : Int → Bool := fun id => decide ((a.reap reapNow).DueAt now id)
  have hp : ∀ id, p id = true ↔ (a.reap reapNow).DueAt now id := fun id => decide_eq_true_iff
  obtain ⟨leased, store₂, hrun, hfinds⟩ := finds_lease score scripts w n hreap
    fun id hid => judged h₁ hp hordered hid
  refine ⟨leased, store₂, ?_⟩
  rcases hfinds with ⟨hnone, rfl, hsame⟩ | ⟨taskId, found, hmembers, hfound, rfl, rfl⟩
  · subst hsame
    refine ⟨a.reap reapNow, hrun, .inl ⟨rfl, rfl, fun id job hjob hdue => ?_⟩, h₁⟩
    rw [h₁.jobs] at hjob
    obtain ⟨task, htask, rfl⟩ := Option.map_eq_some_iff.mp hjob
    have hmember : id ∈ store₂.members "default" :=
      mem_members.mpr ⟨_, h₁.listed id task htask hdue.1⟩
    exact List.find?_eq_none.mp hnone id hmember ((hp id).mpr ⟨_, h₁.job htask, hdue⟩)
  · rw [members, List.find?_map] at hmembers
    obtain ⟨⟨id, value⟩, hfind, hid⟩ := Option.map_eq_some_iff.mp hmembers
    have hid' : id = taskId := hid
    subst hid'
    obtain ⟨hmem, hpid, hfirst⟩ := find?_insertionSort _ hfind
    have hdue := (dueAt_iff h₁ hfound now).mp ((hp id).mp hpid)
    have hvalue : value = queueScore score found := by
      have hget := (Dict.get?_eq_some_iff _).mpr hmem
      rw [h₁.listed id found hfound hdue.1] at hget
      cases hget
      rfl
    have hwrites : store₁.Writes score id (found.leased w (now + seconds n) now)
        (store₁.grant "default" id (found.leased w (now + seconds n) now)) := by
      refine ⟨rfl, fun other => ?_, fun other hne => ?_, fun hqueued => by cases hqueued⟩
      · rw [tasks_grant, Dict.get?_set]
      · rw [RedisStore.grant, queue_removeMember, if_pos rfl, Dict.get?_erase, if_neg hne]
        rfl
    refine ⟨_, hrun, .inr ⟨id, found.job, _, ⟨h₁.job hfound, hdue, fun other job hjob hdue' => ?_⟩,
      if_pos hdue.1, ?_, rfl⟩, hwrites.shows h₁ hfound ⟨rfl, rfl, rfl, rfl, rfl, rfl⟩⟩
    · -- the scores of the sorted set are in the order of the keys
      have hother := hjob
      rw [h₁.jobs] at hother
      obtain ⟨task, htask, rfl⟩ := Option.map_eq_some_iff.mp hother
      have hle := hfirst (other, queueScore score task)
        ((Dict.get?_eq_some_iff _).mp (h₁.listed other task htask hdue'.1))
        ((hp other).mpr ⟨_, hjob, hdue'⟩)
      by_contra hkey
      have hlt := hordered.scored other task.job id found.job hjob (h₁.job hfound) hdue'.1 hdue.1 hkey
      rcases hle with hlt' | ⟨heq, _⟩
      · rw [hvalue] at hlt'
        exact lt_asymm hlt hlt'
      · rw [hvalue] at heq
        exact (ne_of_gt hlt) heq
    · exact congrArg (fun taskId => Agenda.Outcome.leased (some taskId)) (h₁.keyed id found hfound)

end

/-! ## Enqueue -/

theorem job_record {now : Time} {input : TaskInput} (hcreated : input.createdAt = none)
    (taskId : Int) : (record now input taskId).job = Job.ofInput now input := by
  ext1
  · rfl
  · rfl
  · show input.createdAt.getD now = now
    rw [hcreated]
    rfl
  · show (record now input taskId).scheduledAt.join = input.scheduledAt
    unfold record
    cases input.scheduledAt with
    | some scheduledAt => rfl
    | none =>
      dsimp only
      split <;> rfl

/-- `enqueue` adds a job under the next id. -/
theorem shows_enqueue (h : store.Shows score a) (now : Time) {input : TaskInput}
    (htaskId : input.taskId = none) (hqueue : input.queue.getD "default" = "default")
    (hcreated : input.createdAt = none) (hscheduled : input.scheduledAtNone = false) :
    ∃ store', (Program.run RedisStore.exec (enqueue score now input)).run store =
        .ok a.nextId store' ∧ store'.Shows score (a.add (Job.ofInput now input)) := by
  have hid : (Program.run RedisStore.exec (idFor input)).run store =
      .ok a.nextId { store with taskIdSeq := a.nextId } := by
    rw [h.nextId]
    unfold idFor
    rw [htaskId]
    rfl
  have hfree : store.tasks.get? a.nextId = none := by
    cases hfound : store.tasks.get? a.nextId with
    | none => rfl
    | some found => exact absurd (a.lt_nextId _ _ (h.job hfound)) (lt_irrefl _)
  let task := record now input a.nextId
  let store' : RedisStore := (({ store with taskIdSeq := a.nextId }).putTask a.nextId task).addMember
    task.queue a.nextId (queueScore score task)
  have hname : task.queue = "default" := hqueue
  have hset : ∀ id, (store'.queue "default").get? id =
      if id = a.nextId then some (queueScore score task) else (store.queue "default").get? id := by
    intro id
    rw [queue_addMember, if_pos hname.symm, Dict.get?_set, hname]
    rfl
  have hscheduled' : task.scheduledAt ≠ some none := by
    show (record now input a.nextId).scheduledAt ≠ some none
    unfold record
    cases input.scheduledAt with
    | some scheduledAt => simp
    | none => simp [hscheduled]
  refine ⟨store', ?_, ?_⟩
  · simp only [enqueue, Program.run_bind, hid]
    rfl
  · have hkey : task.taskId = a.nextId := rfl
    refine h.put hkey rfl (fun id => ?_) (fun id => ?_) (fun id hid => by rw [hset, if_neg hid])
      (fun _ => by rw [hset, if_pos rfl]) hname hscheduled'
    · rw [job_record hcreated]
      rfl
    · rw [tasks_addMember, get?_putTask, hfree]

/-! ## Calls -/

/-- A method that returns makes the reply of its result. -/
theorem exec_of_run {α : Type} {call : DurableCall} {p : RedisM α} (f : α → DurableReply TaskHash)
    {result : α} {store' : RedisStore}
    (hrun : (Program.run RedisStore.exec p).run store = .ok result store')
    (hmethod : method score str scripts call = p >>= fun result => pure (f result)) :
    exec score str scripts store call = (.ok (f result), store') := by
  simp only [exec, hmethod, Program.run_bind, hrun]
  rfl

/-- Every fair call is a call on the agenda. -/
theorem does_exec {tenantId projectId : Int} (str : PyValue → String) (scripts : Bool)
    (h : store.Shows score a) {call : DurableCall} (hfair : a.Fair score tenantId projectId call) :
    ∃ a', a.Does call (.of TaskHash.taskId (exec score str scripts store call).1) a' ∧
      (exec score str scripts store call).2.Shows score a' := by
  cases call with
  | enqueue now input =>
    obtain ⟨htaskId, _, _, _, hqueue, hcreated, hscheduled, _⟩ := hfair
    obtain ⟨store', hrun, hshows⟩ := shows_enqueue h now htaskId hqueue hcreated hscheduled
    rw [exec_of_run .enqueued hrun rfl]
    exact ⟨_, ⟨rfl, rfl⟩, hshows⟩
  | lease now reapNow order reapOrder queue w n =>
    obtain ⟨rfl, _, hordered⟩ := hfair
    obtain ⟨leased, store', a', hrun, hdoes, hshows⟩ := does_lease scripts h hordered order
      reapOrder w n
    rw [exec_of_run .leased hrun rfl]
    exact ⟨a', hdoes, hshows⟩
  | heartbeat now taskId w n => exact take_update h (.heartbeat w n now) rfl nofun
  | markRunning now taskId w k => exact take_update h (.markRunning w k now) rfl nofun
  | complete now taskId w k => exact take_update h (.complete w k now) rfl nofun
  | fail now taskId w k error =>
    refine take_update h (.fail w k error (errorMessage str error) now) rfl ?_
    rintro _ _ _ _ _ ⟨⟩
    exact hfair
  | cancel now taskId => exact take_update h (.cancel now) rfl nofun
  | reapExpiredLeases now order queue =>
    obtain ⟨count, store', hrun, hshows⟩ := run_reapExpiredLeases h now order queue hfair.1
    rw [exec_of_run .reaped hrun rfl]
    exact ⟨_, ⟨rfl, rfl⟩, hshows⟩

end RedisTaskBackend

/-! ## Exact scores -/

/-- `-priority * 1_000_000_000_000 + created_at.timestamp()`, without rounding. -/
def exactScore (priority : Int) (createdAt : Time) : ℚ :=
  -priority * 1000000000000 + createdAt / 1000000

/-- The time of a `datetime`: the fields count microseconds from the year 1 to the end of the
year 9999, and the offset is less than a day. -/
def IsDatetime (t : Time) : Prop :=
  ∃ fields offset : Int, 0 ≤ fields ∧ fields < 315537897600000000 ∧ -86400000000 < offset ∧
    offset < 86400000000 ∧ fields - offset - 62135596800000000 = t

section

variable {p p' t t' : Int}

theorem exactScore_eq (p t : Int) :
    exactScore p t = ((-p * 1000000000000000000 + t : Int) : ℚ) / 1000000 := by
  unfold exactScore
  push_cast
  ring

/-- One step of the priority outweighs all times. -/
theorem exactScore_lt_iff (ht : IsDatetime t) (ht' : IsDatetime t') :
    exactScore p t < exactScore p' t' ↔ p' < p ∨ p = p' ∧ t < t' := by
  rw [exactScore_eq, exactScore_eq, div_lt_div_iff_of_pos_right (by norm_num), Int.cast_lt]
  obtain ⟨_, _, _, _, _, _, rfl⟩ := ht
  obtain ⟨_, _, _, _, _, _, rfl⟩ := ht'
  omega

theorem exactScore_inj (ht : IsDatetime t) (ht' : IsDatetime t') :
    exactScore p t = exactScore p' t' ↔ p = p' ∧ t = t' := by
  rw [exactScore_eq, exactScore_eq, div_left_inj' (by norm_num), Int.cast_inj]
  obtain ⟨_, _, _, _, _, _, rfl⟩ := ht
  obtain ⟨_, _, _, _, _, _, rfl⟩ := ht'
  omega

end

/-- Scores of tasks with times of datetimes are in the order of priorities, from high to low, and
of times; so the sorted set is in this order, and only then in that of the texts of the ids. -/
theorem scores_in_order (task task' : TaskHash) (id id' : Int) (ht : IsDatetime task.createdAt)
    (ht' : IsDatetime task'.createdAt) :
    (queueScore exactScore task < queueScore exactScore task' ↔ task'.priority < task.priority ∨
        task.priority = task'.priority ∧ task.createdAt < task'.createdAt) ∧
    (RedisStore.MemberLE (id, queueScore exactScore task) (id', queueScore exactScore task') ↔
      task'.priority < task.priority ∨ task.priority = task'.priority ∧
        (task.createdAt < task'.createdAt ∨
          task.createdAt = task'.createdAt ∧ toString id ≤ toString id')) := by
  refine ⟨exactScore_lt_iff ht ht', ?_⟩
  unfold RedisStore.MemberLE queueScore
  rw [exactScore_lt_iff ht ht', exactScore_inj ht ht']
  tauto

/-- The first and the last time, one step of the priority apart. -/
theorem scores_in_order_ends :
    let task : Int → Time → TaskHash := fun priority now =>
      RedisTaskBackend.record now { priority := some priority } 1
    queueScore exactScore (task 1 253402300799999999) <
      queueScore exactScore (task 0 (-62135596800000000)) := by
  intro task
  exact (scores_in_order _ _ 1 1 ⟨315537897599999999, 0, by decide⟩ ⟨0, 0, by decide⟩).1.mpr
    (.inl (by decide))

end DimooRun.Scheduler
