/-
  Scheduler/InMemoryAgenda.lean --- the in-memory backend keeps an agenda.

  On fair calls every call of the in-memory backend is a call on an agenda. A record keeps
  the end of its lease after the task is over, where the agenda has none; so the two agree
  on that field for active tasks only.
-/
import DimooRun.Scheduler.Agenda
import DimooRun.Scheduler.InMemoryCalls

set_option autoImplicit false

namespace DimooRun.Scheduler

open Foundation DimooRun.Runtime

/-- The record under an id, in the one queue, is the job. -/
structure InMemoryTask.Is (id : Int) (t : InMemoryTask) (job : Job) : Prop where
  taskId : t.taskId = id
  queue : t.queue = "default"
  status : job.state.status = t.status
  attempt : job.state.attempt = t.attempt
  maxAttempts : job.state.maxAttempts = t.maxAttempts
  workerId : job.state.workerId = t.workerId
  fencingToken : job.state.fencingToken = t.fencingToken
  leasedUntil : job.state.Active → job.state.leasedUntil = t.leasedUntil
  priority : job.priority = t.priority
  createdAt : job.createdAt = t.createdAt
  scheduledAt : job.scheduledAt = t.scheduledAt

namespace InMemoryTask

variable {id : Int} {t : InMemoryTask} {job : Job}

section

variable (h : Is id t job) (w : String) (k : Int)
include h

theorem Is.heldBy_iff : job.state.HeldBy w k ↔ ¬ t.fencingToken ≠ k ∧ ¬ t.workerId ≠ some w := by
  unfold TaskState.HeldBy
  rw [h.fencingToken, h.workerId, not_not, not_not]

theorem Is.active_iff : job.state.Active ↔ t.status = .leased ∨ t.status = .running := by
  unfold TaskState.Active
  rw [h.status]

/-- The method is the operation on the job. -/
def Refines {α : Type} (act : TaskM α) (op : TaskOp) (id : Int) (t : InMemoryTask) (job : Job) :
    Prop :=
  op.Refines act t job.state fun _ t' state => Is id t' { job with state := state }

theorem refines_heartbeat (n : Int) (now : Time) :
    Refines (heartbeat w n now) (.heartbeat w (now + seconds n)) id t job :=
  .heartbeat (by rw [h.workerId, not_not]) (run_heartbeat w n now t)
    { h with leasedUntil := fun _ => rfl }

theorem refines_markRunning : Refines (markRunning w k) (.markRunning w k) id t job :=
  .of_held rfl ((h.heldBy_iff w k).trans and_comm) (fun _ => by rw [h.status])
    (run_markRunning w k t) fun hleased =>
      { h with status := rfl, leasedUntil := fun _ => h.leasedUntil (.inl hleased) }

variable {w k} in
/-- `complete` does not step a leased task to running, as the other backends do. -/
theorem refines_complete (hnot : job.state.HeldBy w k → job.state.status ≠ .leased) :
    Refines (complete w k) (.complete w k) id t job := by
  refine .of_held rfl (h.heldBy_iff w k) (fun hheld => h.active_iff.trans (or_iff_right ?_))
    (run_complete w k t) fun _ => { h with
      status := rfl
      leasedUntil := fun hactive => by simp [TaskState.Active] at hactive }
  exact fun hleased => hnot hheld (h.status.trans hleased)

theorem refines_fail (error : PyDict) : Refines (fail w k error) (.fail w k) id t job := by
  refine .fail (h.heldBy_iff w k) h.active_iff ?_ (run_fail w k error t) { h with
      status := rfl
      leasedUntil := fun hactive => by simp [TaskState.Active] at hactive } { h with
      status := rfl
      attempt := congrArg (· + 1) h.attempt
      workerId := rfl
      leasedUntil := fun _ => rfl }
  rw [h.attempt, h.maxAttempts]
  exact Int.not_lt.symm

theorem refines_cancel : Refines cancel .cancel id t job :=
  .cancel (by rw [h.status, h.active_iff]) (run_cancel t) { h with
    status := rfl
    leasedUntil := fun hactive => by simp [TaskState.Active] at hactive }

theorem Is.expired_iff (now : Time) : job.state.Expired now ↔ t.Expired now := by
  constructor
  · rintro ⟨hactive, u, hu, hlt⟩
    exact ⟨h.active_iff.mp hactive, u, (h.leasedUntil hactive).symm.trans hu, hlt⟩
  · rintro ⟨hactive, u, hu, hlt⟩
    have hactive' := h.active_iff.mpr hactive
    exact ⟨hactive', u, (h.leasedUntil hactive').trans hu, hlt⟩

/-- The reaper does not count an attempt, so it agrees on tasks that are not running only. -/
theorem Is.reaped {now : Time} (hcalm : job.state.status = .running → ¬ job.state.Expired now) :
    Is id (t.reaped now) (job.reaped now) := by
  unfold InMemoryTask.reaped
  by_cases hexpired : t.Expired now
  · have hexpired' := (h.expired_iff now).mpr hexpired
    have hrunning : ¬ job.state.status = .running := fun hrunning => hcalm hrunning hexpired'
    have happly : (TaskOp.expire now).apply job.state = some
        { job.state with status := .queued, workerId := none, leasedUntil := none } := by
      simp only [TaskOp.apply, if_pos hexpired', if_neg hrunning]
    rw [if_pos hexpired, Job.reaped_eq happly]
    exact { h with status := rfl, workerId := rfl, leasedUntil := fun _ => rfl }
  · rw [if_neg hexpired, Job.reaped_of_not_expired fun h' => hexpired ((h.expired_iff now).mp h')]
    exact h

theorem Is.due_iff (now : Time) : t.Due "default" now ↔ job.Due now := by
  unfold InMemoryTask.Due Job.Due
  rw [h.status, h.scheduledAt]
  exact ⟨fun hdue => hdue.2, fun hdue => ⟨h.queue, hdue⟩⟩

theorem Is.keyLE_iff {id' : Int} {t' : InMemoryTask} {job' : Job} (h' : Is id' t' job') :
    t.KeyLE t' ↔ job.KeyLE job' := by
  unfold InMemoryTask.KeyLE Job.KeyLE
  rw [h.priority, h.createdAt, h'.priority, h'.createdAt]

end

end InMemoryTask

/-- The record as a job of its own. -/
def InMemoryTask.job (t : InMemoryTask) : Job where
  state :=
    { status := t.status
      attempt := t.attempt
      maxAttempts := t.maxAttempts
      workerId := t.workerId
      leasedUntil := t.leasedUntil
      fencingToken := t.fencingToken }
  priority := t.priority
  createdAt := t.createdAt
  scheduledAt := t.scheduledAt

/-! ## The agenda of the backend -/

/-- The call of the in-memory backend. -/
def DurableCall.toCall : DurableCall → Call
  | .enqueue now input => .enqueue now input
  | .lease now reapNow _ _ queue workerId leaseSeconds =>
      .lease now reapNow queue workerId leaseSeconds
  | .heartbeat now taskId workerId leaseSeconds => .heartbeat now taskId workerId leaseSeconds
  | .markRunning _ taskId workerId fencingToken => .markRunning taskId workerId fencingToken
  | .complete _ taskId workerId fencingToken => .complete taskId workerId fencingToken
  | .fail _ taskId workerId fencingToken error => .fail taskId workerId fencingToken error
  | .cancel _ taskId => .cancel taskId
  | .reapExpiredLeases now _ _ => .reapExpiredLeases now

/-- What the reply of the in-memory backend says. -/
def Agenda.Outcome.ofReply : Except TaskError Reply → Agenda.Outcome
  | .error _ => .raised
  | .ok (.enqueued taskId) => .enqueued taskId
  | .ok (.leased snapshot) => .leased (snapshot.map TaskSnapshot.taskId)
  | .ok .done => .done

namespace InMemoryTaskBackend

/-- The records are the jobs of the agenda. -/
structure Shows (m : InMemoryTaskBackend) (a : Agenda) : Prop where
  nextId : a.nextId = m.nextId
  tasks : ∀ id, Option.Rel (InMemoryTask.Is id) (m.tasks.get? id) (a.jobs id)

theorem shows_init : Shows .init .empty where
  nextId := rfl
  tasks _ := .none

variable {m : InMemoryTaskBackend} {a : Agenda} {id taskId : Int} {op : TaskOp} {now : Time}

theorem Shows.missing (h : m.Shows a) (hnone : m.tasks.get? id = none) : a.jobs id = none := by
  have htask := h.tasks id
  rw [hnone] at htask
  generalize a.jobs id = job at htask ⊢
  cases htask
  rfl

theorem Shows.job (h : m.Shows a) {t : InMemoryTask} (ht : m.tasks.get? id = some t) :
    ∃ job, a.jobs id = some job ∧ t.Is id job := by
  have htask := h.tasks id
  rw [ht] at htask
  generalize a.jobs id = job at htask ⊢
  cases htask with
  | some his => exact ⟨_, rfl, his⟩

theorem Shows.record (h : m.Shows a) {job : Job} (hjob : a.jobs id = some job) :
    ∃ t, m.tasks.get? id = some t ∧ t.Is id job := by
  have htask := h.tasks id
  rw [hjob] at htask
  generalize m.tasks.get? id = t at htask ⊢
  cases htask with
  | some his => exact ⟨_, rfl, his⟩

variable {t' : InMemoryTask} {m' : InMemoryTaskBackend}

/-- A record is put in, new or in the place of another version of it. -/
theorem Shows.put (h : m.Shows a) {job : Job} {a' : Agenda} (hnext : a'.nextId = m'.nextId)
    (htasks : m'.tasks = m.tasks.set id t')
    (hjobs : ∀ id', a'.jobs id' = if id' = id then some job else a.jobs id') (his : t'.Is id job) :
    m'.Shows a' := by
  refine ⟨hnext, fun id' => ?_⟩
  rw [htasks, Dict.get?_set, hjobs]
  split
  · rename_i heq
    exact heq ▸ .some his
  · exact h.tasks id'

theorem Shows.set (h : m.Shows a) {job : Job} {state : TaskState} (hjob : a.jobs id = some job)
    (his : t'.Is id { job with state := state }) :
    Shows { m with tasks := m.tasks.set id t' } (a.setState id state) := by
  refine h.put h.nextId rfl (fun id' => ?_) his
  rw [Agenda.jobs_setState]
  split
  · rename_i heq
    rw [heq, hjob]
    rfl
  · rfl

/-! ## Methods on one task -/

/-- A method on one record is the operation on the agenda. -/
theorem Shows.withTask {α : Type} (h : m.Shows a) {act : TaskM α}
    (hact : ∀ t job, a.jobs taskId = some job → t.Is taskId job →
      InMemoryTask.Refines act op taskId t job) :
    (∃ r m' a', (withTask taskId act).run m = .ok r m' ∧ a.take taskId op = (.done, a') ∧
      m'.Shows a') ∨
    ∃ e, (InMemoryTaskBackend.withTask taskId act).run m = .error e m ∧
      a.take taskId op = (.raised, a) := by
  cases ht : m.tasks.get? taskId with
  | none => exact .inr ⟨_, run_withTask_of_none act ht, Agenda.take_of_none (h.missing ht) op⟩
  | some t =>
    obtain ⟨job, hjob, his⟩ := h.job ht
    have hrefines := hact t job hjob his
    cases hrun : act.run t with
    | ok r t' =>
      obtain ⟨state, happly, his'⟩ := hrefines.of_ok hrun
      refine .inl ⟨r, _, _, ?_, Agenda.take_of_apply hjob happly, h.set hjob his'⟩
      rw [run_withTask_of_some act ht, hrun]
    | error e t' =>
      obtain ⟨happly, rfl⟩ := hrefines.of_error hrun
      exact .inr ⟨e, run_withTask_of_error ht hrun, Agenda.take_of_refused hjob happly⟩

/-- A call that is a method on one record, and then does nothing to the records. -/
theorem exec_withTask {α : Type} (h : m.Shows a) {act : TaskM α} {call : Call}
    (after : α → BackendM Unit) (hmethod : method call = (do
      (do let r ← withTask taskId act; after r : BackendM Unit)
      pure .done))
    (hafter : ∀ r m, ∃ m', (after r).run m = .ok () m' ∧ m'.tasks = m.tasks ∧ m'.nextId = m.nextId)
    (hact : ∀ t job, a.jobs taskId = some job → t.Is taskId job →
      InMemoryTask.Refines act op taskId t job) :
    ∃ a', (Agenda.Outcome.ofReply (exec m call).1, a') = a.take taskId op ∧
      (exec m call).2.Shows a' := by
  rcases h.withTask hact with ⟨r, m', a', hrun, htake, hshows⟩ | ⟨e, hrun, htake⟩
  · obtain ⟨m'', hrun', htasks, hnext⟩ := hafter r m'
    have hexec : exec m call = (.ok .done, m'') := by
      simp only [exec, hmethod, EStateM.run_bind, hrun, hrun']
      rfl
    rw [hexec]
    exact ⟨a', htake.symm, hshows.nextId.trans hnext.symm, fun id => htasks ▸ hshows.tasks id⟩
  · have hexec : exec m call = (.error e, m) := by
      simp only [exec, hmethod, EStateM.run_bind, hrun]
      rfl
    rw [hexec]
    exact ⟨a, htake.symm, h⟩

/-! ## The reaper and the lease -/

theorem Shows.reap (h : m.Shows a) (hcalm : a.Calm now) (hnext : m'.nextId = m.nextId)
    (hget : ∀ id, m'.tasks.get? id = (m.tasks.get? id).map (InMemoryTask.reaped now)) :
    m'.Shows (a.reap now) := by
  refine ⟨h.nextId.trans hnext.symm, fun id => ?_⟩
  rw [hget, Agenda.jobs_reap]
  cases ht : m.tasks.get? id with
  | none =>
    rw [h.missing ht]
    exact .none
  | some t =>
    obtain ⟨job, hjob, his⟩ := h.job ht
    rw [hjob]
    exact .some (his.reaped (hcalm id job hjob))

/-- The order of the candidates. -/
def EntryLE (x y : Int × InMemoryTask) : Prop := x.2.KeyLE y.2

instance : DecidableRel EntryLE := fun x y => inferInstanceAs (Decidable (x.2.KeyLE y.2))

theorem entryLE_iff (x y : Int × InMemoryTask) : EntryLE x y ↔ x.2.job.key ≤ y.2.job.key :=
  Job.keyLE_iff x.2.job y.2.job

instance : Std.Total EntryLE := total_of_key _ entryLE_iff

instance : IsTrans (Int × InMemoryTask) EntryLE := trans_of_key _ entryLE_iff

variable (h : m.Shows a)

include h

/-- The candidate of `lease` comes first on the agenda. -/
theorem Shows.first (hfirst : m.firstCandidate "default" now = some id) :
    ∃ t job, m.tasks.get? id = some t ∧ t.Is id job ∧ a.First now id job := by
  obtain ⟨⟨id', t⟩, hhead, hid⟩ := Option.map_eq_some_iff.mp hfirst
  have hid' : id' = id := hid
  subst hid'
  obtain ⟨rest, hsorted⟩ := List.head?_eq_some_iff.mp hhead
  obtain ⟨hmem, hleast⟩ := head_insertionSort EntryLE hsorted
  obtain ⟨hmem, hdue⟩ := List.mem_filter.mp hmem
  have ht : m.tasks.get? id' = some t := m.tasks.get?_eq_some_iff.mpr hmem
  obtain ⟨job, hjob, his⟩ := h.job ht
  refine ⟨t, job, ht, his, hjob, (his.due_iff now).mp (of_decide_eq_true hdue),
    fun other job' hjob' hdue' => ?_⟩
  obtain ⟨t', ht', his'⟩ := h.record hjob'
  refine (his.keyLE_iff his').mp (hleast (other, t') (List.mem_filter.mpr
    ⟨m.tasks.get?_eq_some_iff.mp ht', ?_⟩))
  exact decide_eq_true ((his'.due_iff now).mpr hdue')

theorem Shows.no_first (hnone : m.firstCandidate "default" now = none) {job : Job}
    (hjob : a.jobs id = some job) : ¬ job.Due now := by
  intro hdue
  obtain ⟨t, ht, his⟩ := h.record hjob
  have hmem : (id, t) ∈ m.tasks.entries.filter fun e => decide (e.2.Due "default" now) :=
    List.mem_filter.mpr ⟨m.tasks.get?_eq_some_iff.mp ht,
      decide_eq_true ((his.due_iff now).mpr hdue)⟩
  have hsorted := (List.mem_insertionSort EntryLE).mpr hmem
  have hempty := List.head?_eq_none_iff.mp (Option.map_eq_none_iff.mp hnone)
  rw [show (m.tasks.entries.filter fun e => decide (e.2.Due "default" now)).insertionSort EntryLE =
    [] from hempty] at hsorted
  cases hsorted

theorem does_lease {reapNow : Time} (hcalm : a.Calm reapNow) (now : Time)
    (order reapOrder : Domain.RowOrder) (w : String) (n : Int) :
    ∃ leased m' a', (lease now reapNow "default" w n).run m = .ok leased m' ∧
      a.Does (.lease now reapNow order reapOrder "default" w n)
        (.leased (leased.map TaskSnapshot.taskId)) a' ∧ m'.Shows a' := by
  obtain ⟨mid, hnext, _, hget, hcases⟩ := run_lease now reapNow "default" w n m
  have hmid := h.reap hcalm hnext hget
  rcases hcases with ⟨hnone, hrun⟩ | ⟨id, t, hfirst, ht, _, hrun⟩
  · exact ⟨none, mid, a.reap reapNow, hrun,
      .inl ⟨rfl, rfl, fun id job hjob => hmid.no_first hnone hjob⟩, hmid⟩
  · obtain ⟨t', job, ht', his, hfirst'⟩ := hmid.first hfirst
    cases ht.symm.trans ht'
    refine ⟨_, _, (a.reap reapNow).setState id _, hrun, .inr ⟨id, job, _, hfirst',
      if_pos hfirst'.2.1.1, ?_, rfl⟩, hmid.set hfirst'.1 ?_⟩
    · exact congrArg (fun taskId => Agenda.Outcome.leased (some taskId)) his.taskId
    · exact { his with
        status := rfl
        workerId := rfl
        fencingToken := congrArg (· + 1) his.fencingToken
        leasedUntil := fun _ => rfl }

/-! ## Calls -/

/-- `enqueue` adds a job under the next id. -/
theorem shows_enqueue (now : Time) {input : TaskInput} {runId : Int}
    (hrunId : input.runId = some runId) (htaskId : input.taskId = none)
    (hqueue : input.queue.getD "default" = "default") :
    ∃ m', (enqueue now input).run m = .ok a.nextId m' ∧
      m'.Shows (a.add (Job.ofInput now input)) := by
  have hid : m.idFor input = a.nextId := by
    unfold idFor
    rw [htaskId]
    exact h.nextId.symm
  have hnext : m.nextIdAfter input = a.nextId + 1 := by
    unfold nextIdAfter
    rw [htaskId, h.nextId]
  refine ⟨{ m with
    nextId := a.nextId + 1
    tasks := m.tasks.set a.nextId (newTask a.nextId runId now input) }, ?_, ?_⟩
  · rw [run_enqueue, hrunId, hid, hnext]
  · exact h.put rfl rfl (fun _ => rfl)
      ⟨rfl, hqueue, rfl, rfl, rfl, rfl, rfl, fun _ => rfl, rfl, rfl, rfl⟩

/-- Every fair call is a call on the agenda. -/
theorem does_exec {score : Int → Time → ℚ} {tenantId projectId : Int}
    {call : DurableCall} (hfair : a.Fair score tenantId projectId call) :
    ∃ a', a.Does call (.ofReply (exec m call.toCall).1) a' ∧ (exec m call.toCall).2.Shows a' := by
  cases call with
  | enqueue now input =>
    obtain ⟨htaskId, hrunId, _, _, hqueue, _⟩ := hfair
    obtain ⟨runId, hrunId⟩ := Option.ne_none_iff_exists'.mp hrunId
    obtain ⟨m', hrun, hshows⟩ := shows_enqueue h now hrunId htaskId hqueue
    have hmethod : (method (.enqueue now input)).run m = .ok (.enqueued a.nextId) m' :=
      run_bind_of_ok hrun
    simp only [DurableCall.toCall, exec, hmethod]
    exact ⟨_, ⟨rfl, rfl⟩, hshows⟩
  | lease now reapNow order reapOrder queue w n =>
    obtain ⟨rfl, hcalm, _⟩ := hfair
    obtain ⟨leased, m', a', hrun, hdoes, hshows⟩ := does_lease h hcalm now order reapOrder w n
    have hmethod : (method (.lease now reapNow "default" w n)).run m = .ok (.leased leased) m' :=
      run_bind_of_ok hrun
    simp only [DurableCall.toCall, exec, hmethod]
    exact ⟨a', hdoes, hshows⟩
  | heartbeat now taskId w n =>
    exact exec_withTask h pure (by rw [bind_pure]; rfl) (fun _ m => ⟨m, rfl, rfl, rfl⟩)
      fun t job _ his => InMemoryTask.refines_heartbeat his w n now
  | markRunning now taskId w k =>
    exact exec_withTask h pure (by rw [bind_pure]; rfl) (fun _ m => ⟨m, rfl, rfl, rfl⟩)
      fun t job _ his => InMemoryTask.refines_markRunning his w k
  | complete now taskId w k =>
    exact exec_withTask h pure (by rw [bind_pure]; rfl) (fun _ m => ⟨m, rfl, rfl, rfl⟩)
      fun t job hjob his => InMemoryTask.refines_complete his (hfair job hjob)
  | fail now taskId w k error =>
    refine exec_withTask h _ rfl (fun dead m => ?_)
      fun t job _ his => InMemoryTask.refines_fail his w k error
    cases dead with
    | false => exact ⟨m, rfl, rfl, rfl⟩
    | true => exact ⟨_, rfl, rfl, rfl⟩
  | cancel now taskId =>
    exact exec_withTask h pure (by rw [bind_pure]; rfl) (fun _ m => ⟨m, rfl, rfl, rfl⟩)
      fun t job _ his => InMemoryTask.refines_cancel his
  | reapExpiredLeases now order queue =>
    obtain ⟨m', hrun, _, hnext, _, hget⟩ := run_reapExpiredLeases now m
    have hmethod : (method (.reapExpiredLeases now)).run m = .ok .done m' :=
      run_bind_of_ok hrun
    simp only [DurableCall.toCall, exec, hmethod]
    exact ⟨_, ⟨rfl, rfl⟩, h.reap hfair.2 hnext hget⟩

end InMemoryTaskBackend

end DimooRun.Scheduler
