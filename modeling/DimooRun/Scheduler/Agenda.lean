/-
  Scheduler/Agenda.lean --- what a task backend is for.

  The agenda is the common abstraction of the task backends on one queue: the jobs by
  their ids, each with its scheduling state and what its turn depends on. A call on the
  agenda adds a job, does one operation of `Scheduler/Lifecycle.lean` to a job, puts
  expired jobs back, or grants the first job that is due. The grant is a relation, for
  nothing says which of two jobs with the same priority and time comes first.

  The three backends agree with the agenda, and so with each other, on calls that are
  fair: calls on which the differences between the backends have no effect.
-/
import Mathlib.Data.Prod.Lex
import DimooRun.Scheduler.Redis

set_option autoImplicit false

namespace DimooRun.Scheduler

open Foundation DimooRun.Runtime

section

theorem total_of_key {α κ : Type} [LinearOrder κ] {r : α → α → Prop} (key : α → κ)
    (h : ∀ x y, r x y ↔ key x ≤ key y) : Std.Total r :=
  ⟨fun x y => by simpa only [h] using le_total (key x) (key y)⟩

theorem trans_of_key {α κ : Type} [LinearOrder κ] {r : α → α → Prop} (key : α → κ)
    (h : ∀ x y, r x y ↔ key x ≤ key y) : IsTrans α r :=
  ⟨fun x y z => by simpa only [h] using le_trans⟩

variable {α : Type} (r : α → α → Prop) [DecidableRel r] [Std.Total r] [IsTrans α r]

/-- The first element of the kind in a sorted list is before all of its kind. -/
theorem find?_insertionSort {l : List α} {x : α} {p : α → Bool}
    (h : (l.insertionSort r).find? p = some x) :
    x ∈ l ∧ p x = true ∧ ∀ y ∈ l, p y = true → r x y := by
  have hsorted := List.pairwise_insertionSort r l
  obtain ⟨hx, before, after, hsplit, hbefore⟩ := List.find?_eq_some_iff_append.mp h
  rw [hsplit, List.pairwise_append, List.pairwise_cons] at hsorted
  have hmem : ∀ y, y ∈ l ↔ y ∈ before ++ x :: after := fun y => by
    rw [← hsplit, List.mem_insertionSort]
  refine ⟨(hmem x).mpr (by simp), hx, fun y hy hyp => ?_⟩
  rcases List.mem_append.mp ((hmem y).mp hy) with hy | hy
  · have hnot := hbefore y hy
    simp [hyp] at hnot
  · rcases List.mem_cons.mp hy with rfl | hy
    · exact (Std.Total.total (r := r) y y).elim id id
    · exact hsorted.2.1.1 y hy

theorem head_insertionSort {l rest : List α} {x : α} (h : l.insertionSort r = x :: rest) :
    x ∈ l ∧ ∀ y ∈ l, r x y := by
  have hfind : (l.insertionSort r).find? (fun _ => true) = some x := by
    rw [h]
    rfl
  obtain ⟨hx, _, hfirst⟩ := find?_insertionSort r hfind
  exact ⟨hx, fun y hy => hfirst y hy rfl⟩

end

/-! ## Jobs -/

/-- A task, as far as its turn and its life are concerned. -/
@[ext]
structure Job where
  state : TaskState
  priority : Int
  createdAt : Time
  scheduledAt : Option Time

namespace Job

/-- The key `(-priority, created_at)` is no greater. -/
def KeyLE (a b : Job) : Prop :=
  -a.priority < -b.priority ∨ (-a.priority = -b.priority ∧ a.createdAt ≤ b.createdAt)

/-- The key, in the order of tuples. -/
def key (a : Job) : ℤ ×ₗ Time := toLex (-a.priority, a.createdAt)

theorem keyLE_iff (a b : Job) : a.KeyLE b ↔ a.key ≤ b.key := by
  simp only [KeyLE, key, Prod.Lex.toLex_le_toLex]

variable (now : Time) (job : Job)

/-- The job may be granted. -/
def Due : Prop :=
  job.state.status = .queued ∧ ∀ scheduledAt, job.scheduledAt = some scheduledAt → scheduledAt ≤ now

/-- The job after the reaper has seen it. -/
def reaped : Job :=
  { job with state := ((TaskOp.expire now).apply job.state).getD job.state }

theorem reaped_eq {now : Time} {job : Job} {state : TaskState}
    (h : (TaskOp.expire now).apply job.state = some state) :
    job.reaped now = { job with state := state } := by
  unfold reaped
  rw [h]
  rfl

theorem reaped_of_not_expired {now : Time} {job : Job} (h : ¬ job.state.Expired now) :
    job.reaped now = job := by
  unfold reaped
  rw [show (TaskOp.expire now).apply job.state = none from if_neg h]
  rfl

/-- After the reaper no lease is over. -/
theorem reaped_reaped : (job.reaped now).reaped now = job.reaped now := by
  by_cases hexpired : job.state.Expired now
  · cases happly : (TaskOp.expire now).apply job.state with
    | none =>
      simp only [TaskOp.apply, if_pos hexpired] at happly
      split at happly
      · split at happly <;> cases happly
      · cases happly
    | some state =>
      rw [reaped_eq happly]
      refine reaped_of_not_expired fun hagain => ?_
      have hactive := hagain.1
      cases TaskState.applied_of_apply happly with
      | release => simp at hactive
      | lostRetry => simp [TaskState.retried] at hactive
      | lostLast => simp at hactive
  · rw [reaped_of_not_expired hexpired, reaped_of_not_expired hexpired]

/-- A new job. -/
def ofInput (input : TaskInput) : Job where
  state :=
    { status := .queued
      attempt := input.attempt.getD 0
      maxAttempts := input.maxAttempts.getD 3
      workerId := none
      leasedUntil := none
      fencingToken := 0 }
  priority := input.priority.getD 0
  createdAt := now
  scheduledAt := input.scheduledAt

end Job

/-! ## The agenda -/

/-- The jobs; ids are handed out in order. -/
structure Agenda where
  nextId : Int
  jobs : Int → Option Job
  lt_nextId : ∀ id job, jobs id = some job → id < nextId

namespace Agenda

variable {a : Agenda} {score : Int → Time → ℚ} {now : Time} {taskId : Int} {job : Job} {op : TaskOp}
  {state : TaskState}

theorem ext {b : Agenda} (hnext : a.nextId = b.nextId) (hjobs : ∀ id, a.jobs id = b.jobs id) :
    a = b := by
  obtain ⟨nextId, jobs, hlt⟩ := a
  obtain ⟨nextId', jobs', hlt'⟩ := b
  have hjobs' : jobs = jobs' := funext hjobs
  have hnext' : nextId = nextId' := hnext
  subst hjobs'
  subst hnext'
  rfl

/-- No jobs. -/
def empty : Agenda := ⟨1, fun _ => none, fun _ _ h => by cases h⟩

section

variable (a now taskId)

/-- Add a job under the next id. -/
def add (job : Job) : Agenda where
  nextId := a.nextId + 1
  jobs id := if id = a.nextId then some job else a.jobs id
  lt_nextId := by
    intro id found hfound
    split at hfound
    · omega
    · have := a.lt_nextId id found hfound
      omega

/-- Change the jobs. -/
def modify (f : Int → Job → Job) : Agenda where
  nextId := a.nextId
  jobs id := (a.jobs id).map (f id)
  lt_nextId := by
    intro id job hjob
    obtain ⟨old, hold, _⟩ := Option.map_eq_some_iff.mp hjob
    exact a.lt_nextId id old hold

/-- Give a job another state. -/
def setState (state : TaskState) : Agenda :=
  a.modify fun id job => if id = taskId then { job with state := state } else job

/-- Put the expired jobs back. -/
def reap : Agenda := a.modify fun _ job => job.reaped now

/-- Put the expired jobs of a list back. -/
def reapIn (taskIds : List Int) : Agenda :=
  a.modify fun id job => if id ∈ taskIds then job.reaped now else job

/-- The job is due, and none that is due comes before it. -/
def First (job : Job) : Prop :=
  a.jobs taskId = some job ∧ job.Due now ∧
    ∀ id other, a.jobs id = some other → other.Due now → job.KeyLE other

/-- There is such a job, and it is due. -/
def DueAt : Prop :=
  ∃ job, a.jobs taskId = some job ∧ job.Due now

end

/-- What a call comes to. -/
inductive Outcome where
  | raised
  | enqueued (taskId : Int)
  | leased (taskId : Option Int)
  | done
  deriving DecidableEq, Repr

/-- What the reply of a durable backend says. -/
def Outcome.of {ε τ : Type} (taskId : τ → Int) : Except ε (DurableReply τ) → Outcome
  | .error _ => .raised
  | .ok (.enqueued id) => .enqueued id
  | .ok (.leased task) => .leased (task.map taskId)
  | .ok .done => .done
  | .ok (.reaped _) => .done

/-- An operation on one job; it is refused if there is no such job. -/
def take (a : Agenda) (taskId : Int) (op : TaskOp) : Outcome × Agenda :=
  match a.jobs taskId with
  | none => (.raised, a)
  | some job =>
      match op.apply job.state with
      | none => (.raised, a)
      | some state => (.done, a.setState taskId state)

/-- A call on the agenda. -/
def Does (a : Agenda) : DurableCall → Outcome → Agenda → Prop
  | .enqueue now input, outcome, a' =>
      outcome = .enqueued a.nextId ∧ a' = a.add (Job.ofInput now input)
  | .lease now reapNow _ _ _ workerId leaseSeconds, outcome, a' =>
      (outcome = .leased none ∧ a' = a.reap reapNow ∧
        ∀ id job, (a.reap reapNow).jobs id = some job → ¬ job.Due now) ∨
      ∃ taskId job state, (a.reap reapNow).First now taskId job ∧
        (TaskOp.claim workerId (now + seconds leaseSeconds)).apply job.state = some state ∧
        outcome = .leased (some taskId) ∧ a' = (a.reap reapNow).setState taskId state
  | .heartbeat now taskId workerId leaseSeconds, outcome, a' =>
      (outcome, a') = a.take taskId (.heartbeat workerId (now + seconds leaseSeconds))
  | .markRunning _ taskId workerId fencingToken, outcome, a' =>
      (outcome, a') = a.take taskId (.markRunning workerId fencingToken)
  | .complete _ taskId workerId fencingToken, outcome, a' =>
      (outcome, a') = a.take taskId (.complete workerId fencingToken)
  | .fail _ taskId workerId fencingToken _, outcome, a' =>
      (outcome, a') = a.take taskId (.fail workerId fencingToken)
  | .cancel _ taskId, outcome, a' => (outcome, a') = a.take taskId .cancel
  | .reapExpiredLeases now _ _, outcome, a' => outcome = .done ∧ a' = a.reap now

/-! ## Fair calls -/

/-- No lease of a running task is over. -/
def Calm (a : Agenda) (now : Time) : Prop :=
  ∀ id job, a.jobs id = some job → job.state.status = .running → ¬ job.state.Expired now

/-- The turns of the queued jobs are clear: no two have the same priority and time, the scores
are in the order of the keys, and the lease script finds a job due when it is. -/
structure Ordered (score : Int → Time → ℚ) (now : Time) (a : Agenda) : Prop where
  distinct : ∀ id job id' job', a.jobs id = some job → a.jobs id' = some job' →
    job.state.status = .queued → job'.state.status = .queued → job.KeyLE job' → job'.KeyLE job →
      id = id'
  scored : ∀ id job id' job', a.jobs id = some job → a.jobs id' = some job' →
    job.state.status = .queued → job'.state.status = .queued → ¬ job'.KeyLE job →
      score job.priority job.createdAt < score job'.priority job'.createdAt
  texts : ∀ id job scheduledAt, a.jobs id = some job → job.state.status = .queued →
    job.scheduledAt = some scheduledAt → RedisStore.TextLE scheduledAt now → scheduledAt ≤ now

theorem ordered_of_single (taskId : Int)
    (h : ∀ id job, a.jobs id = some job → id = taskId ∧ job.scheduledAt = none) :
    a.Ordered score now where
  distinct id job id' job' hjob hjob' _ _ _ _ := (h id job hjob).1.trans (h id' job' hjob').1.symm
  scored id job id' job' hjob hjob' _ _ hnot := by
    have hid := (h id job hjob).1.trans (h id' job' hjob').1.symm
    subst hid
    cases hjob.symm.trans hjob'
    exact absurd (.inr ⟨rfl, le_rfl⟩) hnot
  texts id job scheduledAt hjob _ hat _ := by
    rw [(h id job hjob).2] at hat
    cases hat

/-- A call on which the backends agree. -/
def Fair (score : Int → Time → ℚ) (tenantId projectId : Int) (a : Agenda) : DurableCall → Prop
  | .enqueue _ input =>
      input.taskId = none ∧ input.runId ≠ none ∧ input.tenantId = some tenantId ∧
        input.projectId = some projectId ∧ input.queue.getD "default" = "default" ∧
        input.createdAt = none ∧ input.scheduledAtNone = false ∧
        (PyValue.dict input.metadata).Encodable
  | .lease now reapNow _ _ queue _ _ =>
      queue = "default" ∧ a.Calm reapNow ∧ (a.reap reapNow).Ordered score now
  | .complete _ taskId workerId fencingToken =>
      ∀ job, a.jobs taskId = some job → job.state.HeldBy workerId fencingToken →
        job.state.status ≠ .leased
  | .fail _ _ _ _ error => (PyValue.dict error).Encodable
  | .reapExpiredLeases now _ queue => queue.getD "default" = "default" ∧ a.Calm now
  | _ => True

/-- With one job, which is neither put off nor running, a lease is fair. -/
theorem fair_lease_of_single (taskId : Int) (h : ∀ id job, a.jobs id = some job →
      id = taskId ∧ job.scheduledAt = none ∧ job.state.status ≠ .running)
    (tenantId projectId : Int) (now reapNow : Time) (order reapOrder : Domain.RowOrder) (w : String)
    (n : Int) :
    a.Fair score tenantId projectId (.lease now reapNow order reapOrder "default" w n) := by
  refine ⟨rfl, fun id job hjob hrunning => absurd hrunning (h id job hjob).2.2,
    ordered_of_single taskId fun id job hjob => ?_⟩
  obtain ⟨old, hold, rfl⟩ := Option.map_eq_some_iff.mp hjob
  exact ⟨(h id old hold).1, (h id old hold).2.1⟩

theorem take_of_none (h : a.jobs taskId = none) (op : TaskOp) :
    a.take taskId op = (.raised, a) := by
  simp only [take, h]

theorem take_of_refused (h : a.jobs taskId = some job) (hop : op.apply job.state = none) :
    a.take taskId op = (.raised, a) := by
  simp only [take, h, hop]

theorem take_of_apply (h : a.jobs taskId = some job) (hop : op.apply job.state = some state) :
    a.take taskId op = (.done, a.setState taskId state) := by
  simp only [take, h, hop]

/-- Of a fair call there is one outcome. -/
theorem does_unique {tenantId projectId : Int} {call : DurableCall}
    (hfair : a.Fair score tenantId projectId call) {o o' : Outcome} {a' a'' : Agenda}
    (h : a.Does call o a') (h' : a.Does call o' a'') : o = o' ∧ a' = a'' := by
  cases call with
  | enqueue now input | reapExpiredLeases now order queue =>
    exact ⟨h.1.trans h'.1.symm, h.2.trans h'.2.symm⟩
  | lease now reapNow order reapOrder queue w n =>
    obtain ⟨_, _, hordered⟩ := hfair
    rcases h with ⟨ho, ha, hnone⟩ | ⟨taskId, job, state, ⟨hjob, hdue, hfirst⟩, hclaim, ho, ha⟩
    · rcases h' with ⟨ho', ha', _⟩ | ⟨id', job', _, ⟨hjob', hdue', _⟩, _⟩
      · exact ⟨ho.trans ho'.symm, ha.trans ha'.symm⟩
      · exact absurd hdue' (hnone id' job' hjob')
    · rcases h' with ⟨_, _, hnone⟩ | ⟨id', job', state', ⟨hjob', hdue', hfirst'⟩, hclaim', ho', ha'⟩
      · exact absurd hdue (hnone taskId job hjob)
      · -- both jobs come first, so their keys are the same
        have hid : taskId = id' :=
          hordered.distinct taskId job id' job' hjob hjob' hdue.1 hdue'.1
            (hfirst id' job' hjob' hdue') (hfirst' taskId job hjob hdue)
        subst hid
        cases hjob.symm.trans hjob'
        cases hclaim.symm.trans hclaim'
        exact ⟨ho.trans ho'.symm, ha.trans ha'.symm⟩
  | _ => exact Prod.mk.inj (h.trans h'.symm)

/-! ## What the steps leave -/

theorem jobs_setState (a : Agenda) (taskId id : Int) (state : TaskState) :
    (a.setState taskId state).jobs id =
      if id = taskId then (a.jobs id).map fun job => { job with state := state }
      else a.jobs id := by
  simp only [setState, modify]
  split
  · rfl
  · exact Option.map_id'

theorem modify_id (a : Agenda) {f : Int → Job → Job}
    (h : ∀ id job, a.jobs id = some job → f id job = job) : a.modify f = a := by
  refine ext rfl fun id => ?_
  show (a.jobs id).map (f id) = a.jobs id
  cases hjob : a.jobs id with
  | none => rfl
  | some job => exact congrArg some (h id job hjob)

theorem reapIn_nil (a : Agenda) (now : Time) : a.reapIn now [] = a :=
  a.modify_id fun _ _ _ => if_neg List.not_mem_nil

theorem reapIn_of_not_expired (hjob : a.jobs taskId = some job) (h : ¬ job.state.Expired now) :
    a.reapIn now [taskId] = a := by
  refine a.modify_id fun id found hfound => ?_
  split
  · rename_i hid
    have heq : id = taskId := List.mem_singleton.mp hid
    cases (heq ▸ hfound).symm.trans hjob
    exact Job.reaped_of_not_expired h
  · rfl

theorem reapIn_of_apply (hjob : a.jobs taskId = some job)
    (h : (TaskOp.expire now).apply job.state = some state) :
    a.reapIn now [taskId] = a.setState taskId state := by
  refine ext rfl fun id => ?_
  rw [jobs_setState]
  show (a.jobs id).map _ = _
  split
  · rename_i hid
    rw [hid, hjob]
    simp only [Option.map_some, List.mem_singleton, if_true, Job.reaped_eq h]
  · rename_i hid
    simp only [List.mem_singleton, if_neg hid, Option.map_id']

theorem reapIn_cons (a : Agenda) (now : Time) (taskId : Int) (rest : List Int) :
    (a.reapIn now [taskId]).reapIn now rest = a.reapIn now (taskId :: rest) := by
  refine ext rfl fun id => ?_
  show ((a.jobs id).map _).map _ = (a.jobs id).map _
  rw [Option.map_map]
  refine congrArg (Option.map · (a.jobs id)) (funext fun job => ?_)
  simp only [Function.comp, List.mem_cons, List.not_mem_nil, or_false]
  by_cases hid : id = taskId
  · by_cases hrest : id ∈ rest
    · simp only [hid ▸ hrest, hid, if_true, or_true, Job.reaped_reaped]
    · simp only [if_neg hrest, if_pos hid, if_pos (Or.inl hid : id = taskId ∨ id ∈ rest)]
  · by_cases hrest : id ∈ rest
    · simp only [if_pos hrest, if_neg hid, if_pos (Or.inr hrest : id = taskId ∨ id ∈ rest)]
    · simp only [if_neg hrest, if_neg hid, if_neg (not_or.mpr ⟨hid, hrest⟩)]

theorem reapIn_eq_reap {taskIds : List Int} (h : ∀ id job, a.jobs id = some job → id ∈ taskIds)
    (now : Time) : a.reapIn now taskIds = a.reap now := by
  refine ext rfl fun id => ?_
  show (a.jobs id).map _ = (a.jobs id).map _
  cases hjob : a.jobs id with
  | none => rfl
  | some job => exact congrArg some (if_pos (h id job hjob))

theorem jobs_reap (a : Agenda) (now : Time) (id : Int) :
    (a.reap now).jobs id = (a.jobs id).map (Job.reaped now) := rfl

end Agenda

end DimooRun.Scheduler
