/-
  Scheduler/InMemoryCalls.lean --- the call interface of the in-memory backend.

  A run of the backend is a list of calls by any workers, with any tokens and any
  clock readings. `Call.exec` is the method behind each call. The second half
  says, once for all calls, what a call does to a task that is already stored:
  nothing, or one `Change`; a `lease` may first reap the task it then grants.
-/
import DimooRun.Foundation.Fencing
import DimooRun.Scheduler.InMemory

set_option autoImplicit false

namespace DimooRun.Scheduler

open Foundation DimooRun.Runtime

/-- One call of a backend method, with the clock readings it makes. -/
inductive Call where
  | enqueue (now : Time) (task : TaskInput)
  | lease (now reapNow : Time) (queue workerId : String) (leaseSeconds : Int)
  | heartbeat (now : Time) (taskId : Int) (workerId : String) (leaseSeconds : Int)
  | markRunning (taskId : Int) (workerId : String) (fencingToken : Int)
  | complete (taskId : Int) (workerId : String) (fencingToken : Int)
  | fail (taskId : Int) (workerId : String) (fencingToken : Int) (error : PyDict)
  | cancel (taskId : Int)
  | reapExpiredLeases (now : Time)

/-- What a call returns. -/
inductive Reply where
  | enqueued (taskId : Int)
  | leased (snapshot : Option TaskSnapshot)
  | done

namespace InMemoryTaskBackend

/-- The method behind a call. -/
def method : Call → BackendM Reply
  | .enqueue now task => do
      let taskId ← enqueue now task
      pure (.enqueued taskId)
  | .lease now reapNow queue workerId leaseSeconds => do
      let snapshot ← lease now reapNow queue workerId leaseSeconds
      pure (.leased snapshot)
  | .heartbeat now taskId workerId leaseSeconds => do
      heartbeat now taskId workerId leaseSeconds
      pure .done
  | .markRunning taskId workerId fencingToken => do
      markRunning taskId workerId fencingToken
      pure .done
  | .complete taskId workerId fencingToken => do
      complete taskId workerId fencingToken
      pure .done
  | .fail taskId workerId fencingToken error => do
      fail taskId workerId fencingToken error
      pure .done
  | .cancel taskId => do
      cancel taskId
      pure .done
  | .reapExpiredLeases now => do
      reapExpiredLeases now
      pure .done

variable (b : InMemoryTaskBackend)

/-- One call: what it reports, and the backend it leaves. -/
def exec (c : Call) : Except TaskError Reply × InMemoryTaskBackend :=
  (report ((method c).run b), endState ((method c).run b))

/-- An explicit task id is not one already in use. -/
def FreshId : Call → Prop
  | .enqueue _ task => ∀ taskId, task.taskId = some taskId → taskId ≠ 0 → b.tasks.get? taskId = none
  | _ => True

/-- The record under an id carries that id, and ids stay below the counter. -/
structure WellFormed : Prop where
  taskId_eq : ∀ id t, b.tasks.get? id = some t → t.taskId = id
  lt_nextId : ∀ id t, b.tasks.get? id = some t → id < b.nextId

theorem wellFormed_init : WellFormed .init where
  taskId_eq := by
    intro id t h
    simp [init] at h
  lt_nextId := by
    intro id t h
    simp [init] at h

end InMemoryTaskBackend

/-! ## What a call does to a stored task -/

/-- The writes a call can make to a task, with the guard each is made under. -/
inductive Change : InMemoryTask → InMemoryTask → Prop where
  | reap (t : InMemoryTask) (h : t.status = .leased ∨ t.status = .running) :
      Change t { t with status := .queued, workerId := none, leasedUntil := none }
  | heartbeat (t : InMemoryTask) (now leasedUntil : Time) (w : String)
      (h : t.workerId = some w) :
      Change t { t with heartbeatAt := some now, leasedUntil := some leasedUntil }
  | markRunning (t : InMemoryTask) (h : t.status = .leased) : Change t { t with status := .running }
  | complete (t : InMemoryTask) (h : t.status = .running) : Change t { t with status := .succeeded }
  | deadLetter (t : InMemoryTask) (error : PyDict) (h : t.status = .leased ∨ t.status = .running)
      (hlast : t.attempt + 1 ≥ t.maxAttempts) :
      Change t { t with status := .deadLetter, error := some error }
  | retry (t : InMemoryTask) (error : PyDict) (h : t.status = .leased ∨ t.status = .running)
      (hmore : t.attempt + 1 < t.maxAttempts) :
      Change t
        { t with
          status := .queued
          attempt := t.attempt + 1
          workerId := none
          leasedUntil := none
          error := some error }
  | cancel (t : InMemoryTask)
      (h : t.status = .queued ∨ t.status = .leased ∨ t.status = .running) :
      Change t { t with status := .cancelled }

theorem Change.taskId_eq {t t' : InMemoryTask} (h : Change t t') : t'.taskId = t.taskId := by
  cases h <;> rfl

/-- The record a grant leaves. -/
def InMemoryTask.granted (t : InMemoryTask) (w : String) (leasedUntil now : Time) :
    InMemoryTask :=
  { t with
    status := .leased
    workerId := some w
    leasedUntil := some leasedUntil
    heartbeatAt := some now
    fencingToken := t.fencingToken + 1 }

namespace InMemoryTask

variable (w : String) (k : Int) (now : Time) (t : InMemoryTask)

theorem reaped_change : t.reaped now = t ∨ Change t (t.reaped now) := by
  by_cases h : t.Expired now
  · right
    rw [reaped, if_pos h]
    exact Change.reap t h.1
  · left
    rw [reaped, if_neg h]

@[simp] theorem taskId_reaped : (t.reaped now).taskId = t.taskId := by
  unfold reaped
  split <;> rfl

@[simp] theorem fencingToken_reaped : (t.reaped now).fencingToken = t.fencingToken := by
  unfold reaped
  split <;> rfl

theorem heartbeat_change (n : Int) (now : Time) (t : InMemoryTask) :
    endState ((heartbeat w n now).run t) = t ∨ Change t (endState ((heartbeat w n now).run t)) := by
  rw [run_heartbeat]
  split_ifs with hw
  · exact .inl rfl
  · exact .inr (.heartbeat t _ _ w (not_not.mp hw))

theorem markRunning_change :
    endState ((markRunning w k).run t) = t ∨ Change t (endState ((markRunning w k).run t)) := by
  rw [run_markRunning]
  split_ifs with _ _ hs
  exacts [.inl rfl, .inl rfl, .inr (.markRunning t hs), .inl rfl]

theorem complete_change :
    endState ((complete w k).run t) = t ∨ Change t (endState ((complete w k).run t)) := by
  rw [run_complete]
  split_ifs with _ _ hs
  exacts [.inl rfl, .inl rfl, .inr (.complete t hs), .inl rfl]

theorem fail_change (error : PyDict) (t : InMemoryTask) :
    endState ((fail w k error).run t) = t ∨ Change t (endState ((fail w k error).run t)) := by
  rw [run_fail]
  split_ifs with _ _ hs hlast
  · exact .inl rfl
  · exact .inl rfl
  · exact .inr (.deadLetter t error hs hlast)
  · exact .inr (.retry t error hs (not_le.mp hlast))
  · exact .inl rfl

theorem cancel_change : endState (cancel.run t) = t ∨ Change t (endState (cancel.run t)) := by
  rw [run_cancel]
  split_ifs with hs
  exacts [.inr (.cancel t hs), .inl rfl]

end InMemoryTask

namespace InMemoryTaskBackend

variable {b : InMemoryTaskBackend} {id : Int} {t : InMemoryTask} {c : Call}

/-- The stored tasks after a method on a task: the method's record in its place. -/
theorem get?_withTask {α : Type} (id₀ : Int) (act : TaskM α) (id : Int) :
    (endState ((withTask id₀ act).run b)).tasks.get? id =
      (b.tasks.get? id).map fun t => if id = id₀ then endState (act.run t) else t := by
  by_cases hid : id = id₀
  · subst hid
    cases h : b.tasks.get? id with
    | none =>
      rw [run_withTask_of_none act h]
      exact h
    | some t =>
      rw [endState_withTask act h]
      simp
  · simp only [if_neg hid, Option.map_id']
    cases h₀ : b.tasks.get? id₀ with
    | none => rw [run_withTask_of_none act h₀]; rfl
    | some t₀ => rw [endState_withTask act h₀, Dict.get?_set_ne _ _ hid]

theorem nextId_withTask {α : Type} (id₀ : Int) (act : TaskM α) :
    (endState ((withTask id₀ act).run b)).nextId = b.nextId := by
  cases h₀ : b.tasks.get? id₀ with
  | none => rw [run_withTask_of_none act h₀]; rfl
  | some t₀ => rw [endState_withTask act h₀]

/-- `lease` returns. It reaps first; then it grants the first candidate, if there
is one. -/
theorem run_lease (now reapNow : Time) (queue w : String) (n : Int) (b : InMemoryTaskBackend) :
    ∃ mid : InMemoryTaskBackend,
      mid.nextId = b.nextId ∧ mid.deadLetters = b.deadLetters ∧
      (∀ id, mid.tasks.get? id = (b.tasks.get? id).map (InMemoryTask.reaped reapNow)) ∧
      ((mid.firstCandidate queue now = none ∧ (lease now reapNow queue w n).run b = .ok none mid) ∨
        ∃ id t, mid.firstCandidate queue now = some id ∧ mid.tasks.get? id = some t ∧
          t.Due queue now ∧
          (lease now reapNow queue w n).run b =
            .ok (some (t.granted w (now + seconds n) now).snapshot)
              { mid with tasks := mid.tasks.set id (t.granted w (now + seconds n) now) }) := by
  obtain ⟨mid, hrun, hdead, hnext, _, hget⟩ := run_reapExpiredLeases reapNow b
  refine ⟨mid, hnext, hdead, hget, ?_⟩
  simp only [lease, EStateM.run_bind, hrun, EStateM.run_get]
  cases hfirst : mid.firstCandidate queue now with
  | none => exact .inl ⟨rfl, rfl⟩
  | some id =>
    obtain ⟨t, ht, hdue⟩ := firstCandidate_spec hfirst
    refine .inr ⟨id, t, rfl, ht, hdue, ?_⟩
    simp only [EStateM.run_bind, run_withTask_of_some _ ht, InMemoryTask.run_lease, hdue.2.1]
    rfl

/-! ## Whole calls -/

section

variable (id) (e : Entry InMemoryTaskBackend Call (Except TaskError Reply))

/-- The lease of task `id` that a call handed out: worker and token. -/
def leaseOf : Option (String × Int) :=
  match e.call, e.reply with
  | .lease _ _ _ w _, .ok (.leased (some snapshot)) =>
      if snapshot.taskId = id then some (w, snapshot.fencingToken) else none
  | _, _ => none

/-- A call that is not a grant of `id` makes at most one change to it; a grant may
follow a reaping of the same task. -/
def Effect (t t' : InMemoryTask) : Prop :=
  (leaseOf id e = none ∧ (t' = t ∨ Change t t')) ∨
    ∃ m w leasedUntil now, (m = t ∨ Change t m) ∧ m.status = .queued ∧
      m.fencingToken = t.fencingToken ∧ t' = m.granted w leasedUntil now ∧
      leaseOf id e = some (w, t'.fencingToken)

/-- The record `enqueue` stores. -/
def newTask (runId : Int) (now : Time) (task : TaskInput) : InMemoryTask :=
  { taskId := id
    payload := task
    runId := runId
    queue := task.queue.getD "default"
    priority := task.priority.getD 0
    attempt := task.attempt.getD 0
    maxAttempts := task.maxAttempts.getD 3
    scheduledAt := task.scheduledAt
    createdAt := now }

end

section

variable (b) (task : TaskInput)

/-- The id counter after `enqueue`. -/
def nextIdAfter : Int :=
  match task.taskId with
  | none => b.nextId + 1
  | some _ => max b.nextId (b.idFor task + 1)

theorem run_enqueue (now : Time) (task : TaskInput) (b : InMemoryTaskBackend) :
    (enqueue now task).run b =
      match task.runId with
      | none => .error (.missingField "run_id") { b with nextId := b.nextIdAfter task }
      | some runId =>
          .ok (b.idFor task) { b with
              nextId := b.nextIdAfter task
              tasks := b.tasks.set (b.idFor task) (newTask (b.idFor task) runId now task) } := by
  simp only [enqueue, EStateM.run_bind, EStateM.run_get, nextIdAfter]
  cases task.taskId <;> cases task.runId <;> rfl

/-- A new id is below the counter afterwards. -/
theorem idFor_lt_nextIdAfter : b.idFor task < b.nextIdAfter task := by
  unfold nextIdAfter
  cases h : task.taskId with
  | none =>
    simp only [idFor, h]
    omega
  | some taskId => exact lt_of_lt_of_le (by omega) (le_max_right _ _)

theorem nextId_le_nextIdAfter : b.nextId ≤ b.nextIdAfter task := by
  unfold nextIdAfter
  cases task.taskId with
  | none => exact Int.le_add_one (Int.le_refl _)
  | some taskId => exact le_max_left _ _

end

/-- `enqueue` never overwrites a task, whether the id is given or counted. -/
theorem get?_idFor {now : Time} {task : TaskInput} (hwf : b.WellFormed)
    (hfresh : b.FreshId (.enqueue now task)) : b.tasks.get? (b.idFor task) = none := by
  have hcounter : b.tasks.get? b.nextId = none := by
    cases h : b.tasks.get? b.nextId with
    | none => rfl
    | some t => exact absurd (hwf.lt_nextId _ _ h) (lt_irrefl _)
  cases h : task.taskId with
  | none =>
    simp only [idFor, h]
    exact hcounter
  | some taskId =>
    simp only [idFor, h]
    split
    · exact hcounter
    · rename_i hne
      exact hfresh taskId h hne

theorem endState_fail (id : Int) (w : String) (k : Int) (error : PyDict) (b : InMemoryTaskBackend) :
    (endState ((fail id w k error).run b)).tasks =
        (endState ((withTask id (InMemoryTask.fail w k error)).run b)).tasks ∧
      (endState ((fail id w k error).run b)).nextId = b.nextId := by
  rw [← nextId_withTask (b := b) id (InMemoryTask.fail w k error)]
  simp only [fail, EStateM.run_bind]
  cases hrun : (withTask id (InMemoryTask.fail w k error)).run b with
  | error e b' => exact ⟨rfl, rfl⟩
  | ok dead b' => cases dead <;> exact ⟨rfl, rfl⟩

/-- What a call does: it enqueues, it changes stored tasks, or it reaps and grants a task. -/
inductive Does (b : InMemoryTaskBackend) (c : Call) : Prop where
  | enqueues (now : Time) (task : TaskInput) (h : c = .enqueue now task)
  | changes (f : Int → InMemoryTask → InMemoryTask) (hf : ∀ id t, f id t = t ∨ Change t (f id t))
      (hnext : (exec b c).2.nextId = b.nextId)
      (hget : ∀ id, (exec b c).2.tasks.get? id = (b.tasks.get? id).map (f id))
      (hlease : ∀ id, leaseOf id (entry exec b c) = none)
  | grants (id₀ : Int) (t₀ : InMemoryTask) (reapNow now u : Time) (w : String)
      (h₀ : b.tasks.get? id₀ = some t₀) (hqueued : (t₀.reaped reapNow).status = .queued)
      (hnext : (exec b c).2.nextId = b.nextId)
      (hget : ∀ id, (exec b c).2.tasks.get? id =
        if id = id₀ then some ((t₀.reaped reapNow).granted w u now)
        else (b.tasks.get? id).map (InMemoryTask.reaped reapNow))
      (hlease : ∀ id, leaseOf id (entry exec b c) =
        if id = id₀ then some (w, t₀.fencingToken + 1) else none)

theorem does_of_method {α : Type} (id₀ : Int) (act : TaskM α)
    (hend : (exec b c).2.tasks = (endState ((withTask id₀ act).run b)).tasks ∧
      (exec b c).2.nextId = b.nextId) (hlease : ∀ id, leaseOf id (entry exec b c) = none)
    (hact : ∀ t, endState (act.run t) = t ∨ Change t (endState (act.run t))) : Does b c := by
  refine .changes (fun id t => if id = id₀ then endState (act.run t) else t) (fun id t => ?_) hend.2
    (fun id => by rw [hend.1]; exact get?_withTask id₀ act id) hlease
  by_cases hid : id = id₀
  · rw [if_pos hid]
    exact hact t
  · exact .inl (if_neg hid)

theorem does_call (hwf : b.WellFormed) (c : Call) : Does b c := by
  cases c with
  | enqueue now task => exact .enqueues now task rfl
  | lease now reapNow queue w n =>
    obtain ⟨mid, hnext, _, hget, ⟨_, hrun⟩ | ⟨id₀, t₁, _, ht₁, hdue, hrun⟩⟩ :=
      run_lease now reapNow queue w n b
    · have hexec : exec b (.lease now reapNow queue w n) = (.ok (.leased none), mid) := by
        simp only [exec, method, EStateM.run_bind, hrun]
        rfl
      refine .changes (fun _ => InMemoryTask.reaped reapNow) (fun _ t => t.reaped_change reapNow)
        (by rw [hexec, hnext]) (fun id => by rw [hexec, hget]) fun id => ?_
      simp only [leaseOf, entry, hexec]
    · have hexec : exec b (.lease now reapNow queue w n) =
          (.ok (.leased (some (t₁.granted w (now + seconds n) now).snapshot)),
            { mid with tasks := mid.tasks.set id₀ (t₁.granted w (now + seconds n) now) }) := by
        simp only [exec, method, EStateM.run_bind, hrun]
        rfl
      rw [hget id₀] at ht₁
      obtain ⟨t₀, h₀, rfl⟩ := Option.map_eq_some_iff.mp ht₁
      refine .grants id₀ t₀ reapNow now (now + seconds n) w h₀ hdue.2.1 (by rw [hexec, hnext])
        (fun id => ?_) fun id => ?_
      · rw [hexec, ← hget id]
        exact Dict.get?_set _ _ _ _
      · simp only [leaseOf, entry, hexec, InMemoryTask.snapshot, InMemoryTask.granted,
          InMemoryTask.taskId_reaped, InMemoryTask.fencingToken_reaped, hwf.taskId_eq id₀ t₀ h₀,
          eq_comm (a := id₀)]
  | heartbeat now id₀ w n =>
    exact does_of_method id₀ (InMemoryTask.heartbeat w n now)
      (by simp only [exec, method, bind_pure_comp, endState_run_map, heartbeat, nextId_withTask,
        true_and]) (fun _ => rfl) (InMemoryTask.heartbeat_change w n now)
  | markRunning id₀ w k =>
    exact does_of_method id₀ (InMemoryTask.markRunning w k)
      (by simp only [exec, method, bind_pure_comp, endState_run_map, markRunning, nextId_withTask,
        true_and]) (fun _ => rfl) (InMemoryTask.markRunning_change w k)
  | complete id₀ w k =>
    exact does_of_method id₀ (InMemoryTask.complete w k)
      (by simp only [exec, method, bind_pure_comp, endState_run_map, complete, nextId_withTask,
        true_and]) (fun _ => rfl) (InMemoryTask.complete_change w k)
  | fail id₀ w k error =>
    exact does_of_method id₀ (InMemoryTask.fail w k error)
      (by simp only [exec, method, bind_pure_comp, endState_run_map, endState_fail, true_and])
      (fun _ => rfl) (InMemoryTask.fail_change w k error)
  | cancel id₀ =>
    exact does_of_method id₀ InMemoryTask.cancel
      (by simp only [exec, method, bind_pure_comp, endState_run_map, cancel, nextId_withTask,
        true_and]) (fun _ => rfl) InMemoryTask.cancel_change
  | reapExpiredLeases now =>
    obtain ⟨b', hrun, _, hnext, _, hget⟩ := run_reapExpiredLeases now b
    have hexec : exec b (.reapExpiredLeases now) = (.ok .done, b') := by
      simp only [exec, method, EStateM.run_bind, hrun]
      rfl
    exact .changes (fun _ => InMemoryTask.reaped now) (fun _ t => t.reaped_change now)
      (by rw [hexec, hnext]) (fun id => by rw [hexec, hget]) fun _ => rfl

/-- What a call does to a task stored before it. -/
theorem exec_stored (hwf : b.WellFormed) (hfresh : b.FreshId c) (h : b.tasks.get? id = some t) :
    ∃ t', (exec b c).2.tasks.get? id = some t' ∧ Effect id (entry exec b c) t t' := by
  cases does_call hwf c with
  | enqueues now task hc =>
    subst hc
    have hnew := get?_idFor hwf hfresh
    have hne : id ≠ b.idFor task := by
      rintro rfl
      cases h.symm.trans hnew
    refine ⟨t, ?_, Or.inl ⟨rfl, Or.inl rfl⟩⟩
    simp only [exec, method, bind_pure_comp, endState_run_map, run_enqueue]
    cases task.runId with
    | none => exact h
    | some runId => exact (Dict.get?_set_ne _ _ hne).trans h
  | changes f hf _ hget hlease =>
    refine ⟨f id t, ?_, .inl ⟨hlease id, hf id t⟩⟩
    rw [hget, h]
    rfl
  | grants id₀ t₀ reapNow now u w h₀ hqueued _ hget hlease =>
    by_cases hid : id = id₀
    · subst hid
      cases h.symm.trans h₀
      refine ⟨_, (hget id).trans (if_pos rfl), .inr ⟨t.reaped reapNow, w, u, now,
        t.reaped_change reapNow, hqueued, t.fencingToken_reaped reapNow, rfl, ?_⟩⟩
      rw [hlease, if_pos rfl, ← t.fencingToken_reaped reapNow]
      rfl
    · refine ⟨t.reaped reapNow, ?_, .inl ⟨(hlease id).trans (if_neg hid), t.reaped_change reapNow⟩⟩
      rw [hget, if_neg hid, h]
      rfl

/-- A call on a backend without task `id` hands out no lease of it, and stores it
only as a fresh, unowned task. -/
theorem exec_absent (hwf : b.WellFormed) (h : b.tasks.get? id = none) :
    leaseOf id (entry exec b c) = none ∧ ((exec b c).2.tasks.get? id = none ∨
        ∃ runId now task, (exec b c).2.tasks.get? id = some (newTask id runId now task) ∧
          id < (exec b c).2.nextId) := by
  cases does_call hwf c with
  | enqueues now task hc =>
    subst hc
    refine ⟨rfl, ?_⟩
    simp only [exec, method, bind_pure_comp, endState_run_map, run_enqueue]
    cases task.runId with
    | none => exact .inl h
    | some runId =>
      by_cases hid : id = b.idFor task
      · subst hid
        exact .inr ⟨runId, now, task, Dict.get?_set_self _ _ _, b.idFor_lt_nextIdAfter task⟩
      · exact .inl ((Dict.get?_set_ne _ _ hid).trans h)
  | changes f _ _ hget hlease => exact ⟨hlease id, .inl (by rw [hget, h]; rfl)⟩
  | grants id₀ t₀ reapNow now u w h₀ _ _ hget hlease =>
    have hid : id ≠ id₀ := by
      rintro rfl
      cases h.symm.trans h₀
    exact ⟨(hlease id).trans (if_neg hid), .inl (by rw [hget, if_neg hid, h]; rfl)⟩

theorem nextId_le_exec (hwf : b.WellFormed) (c : Call) : b.nextId ≤ (exec b c).2.nextId := by
  cases does_call hwf c with
  | enqueues now task hc =>
    subst hc
    simp only [exec, method, bind_pure_comp, endState_run_map, run_enqueue]
    cases task.runId <;> exact b.nextId_le_nextIdAfter task
  | changes _ _ hnext | grants _ _ _ _ _ _ _ _ hnext => exact hnext.ge

theorem Effect.taskId_eq {e : Entry InMemoryTaskBackend Call (Except TaskError Reply)}
    {t' : InMemoryTask} (h : Effect id e t t') : t'.taskId = t.taskId := by
  rcases h with ⟨_, rfl | h⟩ | ⟨m, w, _, _, hm, _, _, rfl, _⟩
  · rfl
  · exact h.taskId_eq
  · rcases hm with rfl | hm
    · rfl
    · exact hm.taskId_eq

theorem wellFormed_exec (hwf : b.WellFormed) (hfresh : b.FreshId c) : (exec b c).2.WellFormed := by
  have key : ∀ id t', (exec b c).2.tasks.get? id = some t' →
      t'.taskId = id ∧ id < (exec b c).2.nextId := by
    intro id t' ht'
    cases h : b.tasks.get? id with
    | none =>
      rcases (exec_absent (c := c) hwf h).2 with hnone | ⟨runId, now, task, hnew, hlt⟩
      · rw [hnone] at ht'
        simp at ht'
      · rw [hnew] at ht'
        cases ht'
        exact ⟨rfl, hlt⟩
    | some t =>
      obtain ⟨t'', ht'', heffect⟩ := exec_stored hwf hfresh h
      rw [ht''] at ht'
      cases ht'
      refine ⟨heffect.taskId_eq.trans (hwf.taskId_eq id t h), ?_⟩
      exact lt_of_lt_of_le (hwf.lt_nextId id t h) (nextId_le_exec hwf c)
  exact ⟨fun id t h => (key id t h).1, fun id t h => (key id t h).2⟩

end InMemoryTaskBackend

end DimooRun.Scheduler
