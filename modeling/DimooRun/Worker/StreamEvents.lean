/-
  Worker/StreamEvents.lean --- the terminal stream event of a task.

  Executors execute tasks one call after another, in any order, on shared stores.
  The stream of a task is closed by an event of the executor, `stream.completed` or
  `stream.failed`. It is appended exactly when the task finishes, and nothing is
  appended for the task afterwards, because a finished task is never leased again.
-/
import DimooRun.Worker.JointState

set_option autoImplicit false

namespace DimooRun.Worker

open Foundation DimooRun.Runtime Scheduler Streaming

/-! ## One execution -/

/-- The execution left the task unfinished, and appended no terminal event. -/
def Unfinished (id : Int) (s s' : ExecState) : Prop :=
  AppendedFor id s s' ∧ ∃ t, s'.stores.backend.tasks.get? id = some t ∧ ¬ t.status.Final

/-- The execution finished the task, and appended a terminal event last. -/
def Finished (id : Int) (s s' : ExecState) : Prop :=
  (∃ l last, s'.appended = s.appended ++ (l ++ [last]) ∧
      (∀ a ∈ l, a.taskId = some id ∧ ¬ a.Terminal) ∧ last.taskId = some id ∧ last.Terminal) ∧
    ∃ t, s'.stores.backend.tasks.get? id = some t ∧ (t.status = .succeeded ∨ t.status = .deadLetter)

section

variable (ex : WorkerExecutor) {leased : TaskSnapshot} {s s' : ExecState}

theorem unfinished_of_running {id : Int} {t : InMemoryTask} (happended : AppendedFor id s s')
    (ht : s'.stores.backend.tasks.get? id = some t) (hstatus : t.status = .running) :
    Unfinished id s s' := by
  refine ⟨happended, t, ht, ?_⟩
  rw [hstatus]
  decide

variable {attemptId : Int} {s₀ : ExecState} {e : PyException}

/-- The events of a closing sequence without a terminal one. -/
theorem appendedFor_of_types {types : List String} (h : s'.appended = s.appended ++
      types.map (Append.mk .executor (some leased.taskId) leased.runId attemptId))
    (htypes : ∀ type ∈ types, type ≠ "stream.completed" ∧ type ≠ "stream.failed") :
    AppendedFor leased.taskId s s' := by
  refine ⟨_, h, ?_⟩
  intro a ha
  obtain ⟨type, htype, rfl⟩ := List.mem_map.mp ha
  refine ⟨rfl, ?_⟩
  rintro ⟨_, hterminal | hterminal⟩
  · exact (htypes type htype).1 hterminal
  · exact (htypes type htype).2 hterminal

/-- The events of a closing sequence that ends with a terminal one. -/
theorem finished_of_types (types : List String) {last : String}
    (hbefore : AppendedFor leased.taskId s₀ s) (h : s'.appended = s.appended ++
      (types ++ [last]).map (Append.mk .executor (some leased.taskId) leased.runId attemptId))
    (htypes : ∀ type ∈ types, type ≠ "stream.completed" ∧ type ≠ "stream.failed")
    (hlast : last = "stream.completed" ∨ last = "stream.failed") :
    ∃ l a, s'.appended = s₀.appended ++ (l ++ [a]) ∧
      (∀ a ∈ l, a.taskId = some leased.taskId ∧ ¬ a.Terminal) ∧ a.taskId = some leased.taskId ∧
      a.Terminal := by
  let mid : ExecState :=
    { s with
      appended := s.appended ++
        types.map (Append.mk .executor (some leased.taskId) leased.runId attemptId) }
  have hmid : AppendedFor leased.taskId s mid := appendedFor_of_types rfl htypes
  obtain ⟨l, hl, hall⟩ := hbefore.trans hmid
  refine ⟨l, Append.mk .executor (some leased.taskId) leased.runId attemptId last, ?_, hall, rfl,
    rfl, hlast⟩
  rw [← List.append_assoc, ← hl, h, List.map_append, ← List.append_assoc]
  rfl

/-- Exceptions no handler reports pass through with nothing written. -/
theorem run_handle_of_not_reported (locals : Locals) (he : ¬ e.Reported) (s : ExecState) :
    ∃ active, endState ((ex.handle locals e).run s) = { s with active := active } := by
  unfold WorkerExecutor.handle
  cases hkind : e.kind with
  | staleFencingToken => exact ⟨_, rfl⟩
  | base => exact ⟨s.active, rfl⟩
  | timeout => exact absurd (Or.inr hkind) he
  | ordinary => exact absurd (Or.inl hkind) he

/-- A handler that reports. -/
theorem progress_of_reported (he : e.Reported) (h : Amid ex leased s 0 s₀) :
    let next := endState ((ex.handle (localsOf leased s) e).run s₀)
    (Unfinished leased.taskId s next ∨ Finished leased.taskId s next) ∧
      OnlyTask leased.taskId s.stores.backend next.stores.backend := by
  intro next
  obtain ⟨status, attemptEvent, runEvent, s', _, hattemptEvent, hrunEvent, hhandle, honly',
    hretried, hended⟩ := givenUp_of_handle ex he h.engaged
  have hattempt : attemptEvent ≠ "stream.completed" ∧ attemptEvent ≠ "stream.failed" := by
    rcases hattemptEvent with rfl | rfl <;> decide
  have hrun : runEvent ≠ "stream.completed" ∧ runEvent ≠ "stream.failed" := by
    rcases hrunEvent with rfl | rfl <;> decide
  obtain rfl : next = s' := congrArg endState hhandle
  refine ⟨?_, h.only.trans honly'⟩
  by_cases hmore : leased.attempt + 1 < leased.maxAttempts
  · obtain ⟨hrecords, happended'⟩ := hretried hmore
    obtain ⟨t, ht, hqueued, _⟩ := hrecords.task
    refine .inl ⟨h.appended.trans (appendedFor_of_types happended' ?_), t, ht, ?_⟩
    · simpa using hattempt
    · rw [hqueued]
      decide
  · obtain ⟨hrecords, happended'⟩ := hended hmore
    obtain ⟨t, ht, hdead⟩ := hrecords.task
    refine .inr ⟨?_, t, ht, Or.inr hdead⟩
    refine finished_of_types [attemptEvent, runEvent] h.appended happended' ?_ (Or.inr rfl)
    simpa using ⟨hattempt, hrun⟩

/-- An execution finishes its task and closes its stream, or does neither. -/
theorem execute_progress (hgranted : Granted ex.workerId leased s.stores.backend)
    (behaviour : AdapterBehaviour) :
    let next := endState ((ex.execute leased (undisturbed behaviour leased)).run s)
    (Unfinished leased.taskId s next ∨ Finished leased.taskId s next) ∧
      OnlyTask leased.taskId s.stores.backend next.stores.backend := by
  intro next
  by_cases hstart : ∃ run, s.stores.runStore.runs.get? leased.runId = some run ∧
      InMemoryRunStore.Startable run.status
  · obtain ⟨run, hrun, hstart⟩ := hstart
    have hcases := execute_cases ex hgranted hrun hstart (replies_quietScript behaviour leased)
      (raises_quietScript (K := fun _ => True) (fun _ => trivial) (fun _ _ => trivial)
        (fun _ _ _ _ => trivial) leased) (fun _ _ _ => trivial) (fun _ _ _ => trivial)
    rw [← undisturbed_eq, cancels_quietScript] at hcases
    rcases hcases with ⟨result, context, s₁, _, hamid, hcontext, hout⟩ |
      ⟨e, n, s₁, _, _, hle, hamid, hout⟩
    · by_cases houtput : (PyValue.dict result.output).Encodable
      · obtain ⟨s₂, hfinish, hrecords, happended₂, honly₂⟩ :=
          allSucceeded_of_finish ex hamid.engaged houtput
        obtain rfl : next = s₂ := congrArg endState (hout.trans hfinish)
        obtain ⟨t, ht, hstatus⟩ := hrecords.task
        refine ⟨Or.inr ⟨?_, t, ht, Or.inl hstatus⟩, hamid.only.trans honly₂⟩
        exact finished_of_types ["run.completed"] hamid.appended happended₂ (by simp) (Or.inl rfl)
      · obtain ⟨e, s₂, hrecorded, hfinish⟩ := run_finish_of_not_encodable ex (localsOf leased s)
          hamid.engaged hcontext houtput
        obtain rfl : next = s₂ := congrArg endState (hout.trans hfinish)
        obtain ⟨t, ht, _, _, hstatus, _⟩ := hamid.engaged.task_of_recorded hrecorded
        have happended := hamid.appended.trans (appendedFor_of_types hrecorded.appended (by simp))
        exact ⟨Or.inl (unfinished_of_running happended ht hstatus), hrecorded.backend ▸ hamid.only⟩
    · obtain rfl : n = 0 := Nat.le_zero.mp hle
      have hnext : next = _ := congrArg endState hout
      rw [hnext]
      by_cases he : e.Reported
      · exact progress_of_reported ex he hamid
      · obtain ⟨active, hend⟩ := run_handle_of_not_reported ex (localsOf leased s) he s₁
        rw [hend]
        obtain ⟨t, ht, _, _, hstatus, _⟩ := hamid.engaged.task
        exact ⟨Or.inl (unfinished_of_running hamid.appended ht hstatus), hamid.only⟩
  · obtain ⟨e, s₁, hbegin, happended, _, _, ⟨t, ht, hstatus⟩, honly⟩ :=
      begin_of_not_startable ex hgranted (fun run hrun hyes => hstart ⟨run, hrun, hyes⟩)
    obtain rfl : next = s₁ := congrArg endState (run_bind_of_error hbegin)
    have happended' : AppendedFor leased.taskId s next :=
      ⟨[], happended.trans (List.append_nil _).symm, by simp⟩
    exact ⟨Or.inl (unfinished_of_running happended' ht hstatus), honly⟩

end

/-! ## One call after another -/

/-- A call of `execute_once`: the executor, the clock readings of its lease, its
arguments, and what the adapter does. -/
structure Job (ι : Type) where
  executor : ι
  now : Time
  reapNow : Time
  queue : String
  leaseSeconds : Int
  behaviour : AdapterBehaviour

section

variable (id : Int) (status : TaskStatus) (appended : List Append)

/-- The task has finished. -/
def Over : Prop := status = .succeeded ∨ status = .deadLetter

theorem Over.final {status : TaskStatus} (h : Over status) : status.Final := by
  rcases h with rfl | rfl <;> decide

theorem not_cancelled_of_not_final {status : TaskStatus} (h : ¬ status.Final) :
    status ≠ .cancelled := by
  rintro rfl
  exact h (by decide)

/-- The events appended for task `id`, oldest first. -/
def eventsOf : List Append :=
  appended.filter fun a => a.taskId = some id

theorem eventsOf_append (l l' : List Append) :
    eventsOf id (l ++ l') = eventsOf id l ++ eventsOf id l' := List.filter_append _ _

theorem eventsOf_self {id : Int} {l : List Append} (h : ∀ a ∈ l, a.taskId = some id) :
    eventsOf id l = l := by
  unfold eventsOf
  simpa using h

theorem eventsOf_other {id id' : Int} {l : List Append} (h : ∀ a ∈ l, a.taskId = some id')
    (hne : id' ≠ id) : eventsOf id l = [] := by
  unfold eventsOf
  rw [List.filter_eq_nil_iff]
  intro a ha
  rw [h a ha]
  simpa using hne

/-- The stream of task `id`: while the task is not finished there is no terminal event,
and a finished task has one, as the last of its events. -/
def StreamClosed : Prop :=
  (Over status → ∃ l last, eventsOf id appended = l ++ [last] ∧ last.Terminal ∧
      ∀ a ∈ l, ¬ a.Terminal) ∧
    (¬ Over status → ∀ a ∈ eventsOf id appended, ¬ a.Terminal)

end

namespace System

variable {ι : Type} [DecidableEq ι]

/-- A call of `execute_once` from its beginning to its end, with nobody in between. -/
def work (ex : ι → WorkerExecutor) (sys : System ι) (job : Job ι) :
    Except PyException Progress × System ι :=
  let result := ((ex job.executor).executeOnce job.now job.reapNow job.queue job.leaseSeconds
    (undisturbed job.behaviour)).run (sys.view job.executor)
  (report result, sys.put job.executor (endState result) none)

/-- The state in which an executor goes on once it has a lease. -/
def afterLease (sys : System ι) (i : ι) (b : InMemoryTaskBackend) : ExecState :=
  { sys.view i with stores := { sys.stores with backend := b } }

variable {sys : System ι} {i : ι} {now reapNow : Time} {queue : String} {n id : Int}
  {b : InMemoryTaskBackend}

omit [DecidableEq ι] in
theorem run_executeOnce (ex : WorkerExecutor) {snapshot : Option TaskSnapshot}
    (script : TaskSnapshot → List (List Call × AdapterReply))
    (hlease : (InMemoryTaskBackend.lease now reapNow queue ex.workerId n).run sys.stores.backend =
      .ok snapshot b) :
    (ex.executeOnce now reapNow queue n script).run (sys.view i) =
      (snapshot.elim (pure (.returned none)) fun leased => ex.execute leased (script leased)).run
        (sys.afterLease i b) := by
  have hrun : (taskBackend (InMemoryTaskBackend.lease now reapNow queue ex.workerId n)).run
      (sys.view i) = .ok snapshot (sys.afterLease i b) := run_taskBackend_of_ok hlease
  unfold WorkerExecutor.executeOnce
  rw [run_bind_of_ok hrun]
  cases snapshot <;> rfl

theorem unconditional_undisturbed (behaviour : AdapterBehaviour) (leased : TaskSnapshot) :
    Unconditional (undisturbed behaviour leased) := by
  intro p hp c hc
  obtain ⟨reply, _, rfl⟩ := List.mem_map.mp hp
  simp at hc

variable (ex : ι → WorkerExecutor)

/-- An undisturbed call keeps the backend sound. -/
theorem sound_work (job : Job ι) (hsound : sys.stores.backend.Sound) :
    (work ex sys job).2.stores.backend.Sound := by
  have hmoves : Moves BackendEvolves ((ex job.executor).executeOnce job.now job.reapNow job.queue
      job.leaseSeconds (undisturbed job.behaviour)) := by
    refine Moves.bind (moves_taskBackend (InMemoryTaskBackend.moves_lease _ _ _ _ _)) ?_
    rintro (_ | leased)
    · exact Moves.pure _
    · exact moves_execute _ leased (unconditional_undisturbed _ _)
  exact (hmoves (sys.view job.executor) hsound).1

/-- What an undisturbed call does to task `id` and its stream: another task is
executed, or none, and `id` is only reaped; or `id` is executed. -/
theorem work_cases (job : Job ι) (hsound : sys.stores.backend.Sound)
    {t : InMemoryTask} (ht : sys.stores.backend.tasks.get? id = some t) :
    (∃ l, (work ex sys job).2.stores.backend.tasks.get? id = some (t.reaped job.reapNow) ∧
        (work ex sys job).2.appended = sys.appended ++ l ∧ eventsOf id l = []) ∨
      (¬ t.status.Final ∧
        ∃ s s', s.appended = sys.appended ∧ (work ex sys job).2.appended = s'.appended ∧
          (work ex sys job).2.stores = s'.stores ∧ (Unfinished id s s' ∨ Finished id s s')) := by
  obtain ⟨snapshot, b, hlease⟩ := InMemoryTaskBackend.lease_ok job.now job.reapNow job.queue
    (ex job.executor).workerId job.leaseSeconds sys.stores.backend
  have htask := InMemoryTaskBackend.get?_lease hsound hlease ht
  have hout : ∀ r, ((ex job.executor).executeOnce job.now job.reapNow job.queue job.leaseSeconds
      (undisturbed job.behaviour)).run (sys.view job.executor) = r →
      (work ex sys job).2 = sys.put job.executor (endState r) none := by
    rintro r rfl
    rfl
  cases snapshot with
  | none =>
    rw [hout _ (run_executeOnce _ _ hlease)]
    rcases htask with ⟨leased, hsome, _⟩ | ⟨_, htask⟩
    · simp at hsome
    · exact .inl ⟨[], htask, (List.append_nil _).symm, rfl⟩
  | some leased =>
    have hgranted : Granted (ex job.executor).workerId leased
        (sys.afterLease job.executor b).stores.backend := granted_of_lease hsound hlease
    obtain ⟨hprogress, honly⟩ := execute_progress _ hgranted job.behaviour
    rw [hout _ (run_executeOnce _ _ hlease)]
    rcases htask with ⟨_, hsome, hid, hqueued⟩ | ⟨hother, htask⟩
    · cases hsome
      subst hid
      refine .inr ⟨?_, _, _, rfl, rfl, rfl, hprogress⟩
      intro hfinal
      have hsame := (InMemoryTaskBackend.final_reaped job.reapNow t).2 hfinal
      rw [← hsame, hqueued] at hfinal
      exact absurd hfinal (by decide)
    · have hne : leased.taskId ≠ id := hother leased rfl
      have hkept := (honly id (Ne.symm hne)).trans htask
      have happended : ∃ l, (endState (((ex job.executor).execute leased
          (undisturbed job.behaviour leased)).run (sys.afterLease job.executor b))).appended =
            sys.appended ++ l ∧ ∀ a ∈ l, a.taskId = some leased.taskId := by
        rcases hprogress with ⟨⟨l, hl, hall⟩, _⟩ | ⟨⟨l, last, hl, hall, hlast, _⟩, _⟩
        · exact ⟨l, hl, fun a ha => (hall a ha).1⟩
        · exact ⟨l ++ [last], hl, List.forall_mem_append.mpr
            ⟨fun a ha => (hall a ha).1, List.forall_mem_singleton.mpr hlast⟩⟩
      obtain ⟨l, hl, hall⟩ := happended
      exact .inl ⟨l, hkept, hl, eventsOf_other hall hne⟩

/-- The stream of task `id` follows the task, and the task was not cancelled. -/
structure Streaming (id : Int) (sys : System ι) : Prop where
  sound : sys.stores.backend.Sound
  stream : ∃ t, sys.stores.backend.tasks.get? id = some t ∧ t.status ≠ .cancelled ∧
    StreamClosed id t.status sys.appended

/-- An undisturbed call keeps the stream in step with the task. -/
theorem streaming_work (job : Job ι) (h : Streaming id sys) : Streaming id (work ex sys job).2 := by
  refine ⟨sound_work ex job h.sound, ?_⟩
  obtain ⟨t, ht, hcancelled, hstream⟩ := h.stream
  rcases work_cases ex job h.sound ht with ⟨l, ht', happended, hnone⟩ |
    ⟨hnot, s, s', hs, happended, hstores, hprogress⟩
  · -- the task was only reaped, and its events are the same
    have hevents : eventsOf id (work ex sys job).2.appended = eventsOf id sys.appended := by
      rw [happended, eventsOf_append, hnone, List.append_nil]
    obtain ⟨hfinal, hsame⟩ := InMemoryTaskBackend.final_reaped job.reapNow t
    refine ⟨_, ht', ?_⟩
    unfold StreamClosed
    rw [hevents]
    by_cases hf : t.status.Final
    · rw [hsame hf]
      exact ⟨hcancelled, hstream⟩
    · have hf' := mt hfinal.mp hf
      refine ⟨not_cancelled_of_not_final hf', fun hover => absurd hover.final hf', fun _ => ?_⟩
      exact hstream.2 (mt Over.final hf)
  · -- the task was executed: before that, its stream was open
    have hopen := hstream.2 (mt Over.final hnot)
    rw [← hs] at hopen
    rw [hstores, happended]
    rcases hprogress with ⟨⟨l, hl, hall⟩, t', ht', hnot'⟩ |
      ⟨⟨l, last, hl, hall, hlast, hterminal⟩, t', ht', hover⟩
    · refine ⟨t', ht', not_cancelled_of_not_final hnot',
        fun hover => absurd hover.final hnot', fun _ => ?_⟩
      rw [hl, eventsOf_append, eventsOf_self fun a ha => (hall a ha).1]
      exact List.forall_mem_append.mpr ⟨hopen, fun a ha => (hall a ha).2⟩
    · refine ⟨t', ht', ?_, fun _ => ⟨eventsOf id s.appended ++ l, last, ?_, hterminal, ?_⟩,
        fun hnever => absurd hover hnever⟩
      · rcases hover with hstatus | hstatus <;> simp [hstatus]
      · have hown : ∀ a ∈ l ++ [last], a.taskId = some id := List.forall_mem_append.mpr
          ⟨fun a ha => (hall a ha).1, List.forall_mem_singleton.mpr hlast⟩
        rw [hl, eventsOf_append, eventsOf_self hown, List.append_assoc]
      · exact List.forall_mem_append.mpr ⟨hopen, fun a ha => (hall a ha).2⟩

/-! ## Run, task and attempt -/

omit [DecidableEq ι] in
/-- An undisturbed call that gets a lease ends in step exactly when no output is
delivered that the encoder refuses. -/
theorem executeOnce_inStep_iff (hsound : sys.stores.backend.Sound)
    (job : Job ι) {leased : TaskSnapshot} {run : RuntimeRun}
    (hlease : (InMemoryTaskBackend.lease job.now job.reapNow job.queue
      (ex job.executor).workerId job.leaseSeconds).run sys.stores.backend = .ok (some leased) b)
    (hrun : sys.stores.runStore.runs.get? leased.runId = some run)
    (hstart : InMemoryRunStore.Startable run.status) (hhost : OrdinaryHost (ex job.executor))
    (hadapter : job.behaviour.Ordinary) :
    InStep leased sys.stores.runStore.nextAttemptId
        (((ex job.executor).executeOnce job.now job.reapNow job.queue job.leaseSeconds
          (undisturbed job.behaviour)).run (sys.view job.executor)) ↔
      ∀ result, Completes (ex job.executor) run leased sys.stores.runStore.nextAttemptId
        job.behaviour result → (PyValue.dict result.output).Encodable := by
  have hgranted : Granted (ex job.executor).workerId leased
      (sys.afterLease job.executor b).stores.backend := granted_of_lease hsound hlease
  rw [run_executeOnce _ _ hlease]
  exact execute_inStep_iff _ hgranted hrun hstart hhost hadapter

/-- Run, task and attempt stay in step, except when the adapter delivers an output that
`json.dumps` refuses; and the terminal stream event of a task, whose run of calls
begins with no event of it, is appended exactly when the task finishes, and last. -/
theorem run_task_and_attempt_in_step (ex : ι → WorkerExecutor) {sys : System ι}
    (hreach : sys.stores.backend.Reachable) :
    (∀ (job : Job ι) (leased : TaskSnapshot) (b : InMemoryTaskBackend) (run : RuntimeRun),
        (InMemoryTaskBackend.lease job.now job.reapNow job.queue (ex job.executor).workerId
          job.leaseSeconds).run sys.stores.backend = .ok (some leased) b →
        sys.stores.runStore.runs.get? leased.runId = some run →
        run.status ∈ [.pending, .running, .interrupted, .failed, .timeout] →
        OrdinaryHost (ex job.executor) → job.behaviour.Ordinary →
        (InStep leased sys.stores.runStore.nextAttemptId
            (((ex job.executor).executeOnce job.now job.reapNow job.queue job.leaseSeconds
              (undisturbed job.behaviour)).run (sys.view job.executor)) ↔
          ∀ result, Completes (ex job.executor) run leased sys.stores.runStore.nextAttemptId
              job.behaviour result → (PyValue.dict result.output).Encodable)) ∧
      ∀ (id : Int) (t : InMemoryTask), sys.stores.backend.tasks.get? id = some t →
        ¬ t.status.Final → eventsOf id sys.appended = [] → ∀ jobs : List (Job ι),
        ∃ t', (final (work ex) sys jobs).stores.backend.tasks.get? id = some t' ∧
          StreamClosed id t'.status (final (work ex) sys jobs).appended := by
  refine ⟨?_, ?_⟩
  · intro job leased b run hlease hrun hstatus hhost hadapter
    have hstart : InMemoryRunStore.Startable run.status := by
      rw [InMemoryRunStore.startable_iff]
      revert hstatus
      cases run.status <;> simp [runTransitions]
    exact executeOnce_inStep_iff ex hreach.sound job hlease hrun hstart hhost hadapter
  · intro id t ht hnot hnone jobs
    have hstart : Streaming id sys := by
      refine ⟨hreach.sound, t, ht, not_cancelled_of_not_final hnot,
        fun hover => absurd hover.final hnot, fun _ => ?_⟩
      rw [hnone]
      simp
    have hend : Streaming id (final (work ex) sys jobs) :=
      invariant_final (work ex) (I := Streaming id)
        (fun _ job _ h => streaming_work ex job h) jobs sys hstart (admitted_true _ jobs sys)
    obtain ⟨t', ht', _, hstream⟩ := hend.stream
    exact ⟨t', ht', hstream⟩

/-- One task in the queue, for a pending run. -/
def oneQueued : System Bool :=
  { System.init with
    stores :=
      { backend := final InMemoryTaskBackend.exec .init
          [.enqueue 0 { runId := some 1, inputData := some (.dict []) }]
        runStore :=
          { InMemoryRunStore.init with
            runs := Dict.empty.set 1
              { runId := 1
                tenantId := 1
                projectId := 1
                agentId := 1
                agentVersionId := 1
                deploymentId := none
                inputData := [] } }
        replayBuffer := {} } }

/-- The first executor takes a task, and its adapter answers with `value`. -/
def answering (value : PyValue) : Job Bool :=
  { executor := true
    now := 1
    reapNow := 1
    queue := "default"
    leaseSeconds := 1
    behaviour :=
      { load := .agent
        first := .result { output := [("answer", value)] }
        events := []
        last := .exhausted
        last_ne_event := by simp } }

theorem reachable_oneQueued : oneQueued.stores.backend.Reachable := by
  refine ⟨[.enqueue 0 { runId := some 1, inputData := some (.dict []) }], ⟨?_, trivial⟩, rfl⟩
  intro taskId h
  simp at h

theorem ordinaryHost_twins (i : Bool) : OrdinaryHost (twins i) :=
  ⟨by simp [twins], by simp [twins], by simp [twins]⟩

theorem ordinary_answering (value : PyValue) : (answering value).behaviour.Ordinary := by
  simp [AdapterBehaviour.Ordinary, answering]

theorem run_task_and_attempt_in_step_answer :
    (∃ leased b, (InMemoryTaskBackend.lease 1 1 "default" "worker" 1).run
        oneQueued.stores.backend = .ok (some leased) b ∧
      InStep leased 1 (((twins true).executeOnce 1 1 "default" 1
        (undisturbed (answering (.str "yes")).behaviour)).run (oneQueued.view true))) ∧
    ∃ t', (final (work twins) oneQueued [answering (.str "yes"),
        answering (.str "again")]).stores.backend.tasks.get? 1 = some t' ∧
      StreamClosed 1 t'.status (final (work twins) oneQueued [answering (.str "yes"),
        answering (.str "again")]).appended := by
  obtain ⟨hstep, hstream⟩ := run_task_and_attempt_in_step twins reachable_oneQueued
  refine ⟨⟨_, _, rfl, ?_⟩, hstream 1 _ rfl (by decide) rfl _⟩
  refine (hstep (answering (.str "yes")) _ _ _ rfl rfl (by decide) (ordinaryHost_twins _)
    (ordinary_answering _)).mpr ?_
  rintro result ⟨_, _, _, _, _, _, hresult⟩
  obtain ⟨hresult, _⟩ := hresult
  cases hresult
  decide

/-- The adapter answers with an instance of a class of its own. -/
theorem unserializable_output_out_of_step :
    ∃ leased b, (InMemoryTaskBackend.lease 1 1 "default" "worker" 1).run
        oneQueued.stores.backend = .ok (some leased) b ∧
      (oneQueued.stores.runStore.runs.get? leased.runId).map (·.status) = some .pending ∧
      ¬ InStep leased 1 (((twins true).executeOnce 1 1 "default" 1
        (undisturbed (answering (.object "Answer")).behaviour)).run (oneQueued.view true)) := by
  refine ⟨_, _, rfl, rfl, ?_⟩
  intro hstep
  have hall := (executeOnce_inStep_iff twins reachable_oneQueued.sound
    (answering (.object "Answer")) rfl rfl (by decide) (ordinaryHost_twins _)
    (ordinary_answering _)).mp hstep
  have hencodable : (PyValue.dict [("answer", .object "Answer")]).Encodable := by
    refine hall { output := [("answer", .object "Answer")] } ⟨_, _, rfl, ?_⟩
    exact ⟨by simp [answering], rfl, rfl, rfl, by simp⟩
  exact absurd hencodable (by decide)

end System

end DimooRun.Worker
