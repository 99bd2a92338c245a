/-
  Worker/Execution.lean --- whole executions.

  A whole call of `execute_once` is its first segment and then one segment for
  every answer of the adapter; before each answer other parties may have made
  scheduler calls. While the executor holds its task the call goes through two
  phases. Inside the `try` block it only appends events (`Quiet`); then exactly
  one closing sequence runs, which is the only place where runs, attempts and the
  task change.
-/
import Mathlib.Algebra.GroupWithZero.Nat
import DimooRun.Worker.ExecutorSpec

set_option autoImplicit false

namespace DimooRun.Worker

open Foundation Observability DimooRun.Runtime Scheduler Streaming InMemoryTaskBackend

/-! ## Driving a call to its end -/

/-- Scheduler calls of other parties. -/
def interfere (calls : List Call) : ExecM Unit :=
  modify fun s =>
    { s with
      stores :=
        { s.stores with backend := final exec s.stores.backend calls } }

namespace WorkerExecutor

/-- Go on with the answers of the adapter, each after some calls of others. -/
def drive (ex : WorkerExecutor) : List (List Call × AdapterReply) → Progress → ExecM Progress
  | _, .returned result => pure (.returned result)
  | [], .awaiting locals pc => pure (.awaiting locals pc)
  | (calls, reply) :: rest, .awaiting locals pc => do
      interfere calls
      let progress ← ex.resume locals pc reply
      ex.drive rest progress

/-- `execute_once`, once its lease returned a task. -/
def execute (ex : WorkerExecutor) (leased : TaskSnapshot)
    (script : List (List Call × AdapterReply)) : ExecM Progress := do
  let progress ← ex.begin leased
  ex.drive script progress

/-- `execute_once`, with the answers of the adapter to the task it leases. -/
def executeOnce (ex : WorkerExecutor) (now reapNow : Time) (queue : String) (leaseSeconds : Int)
    (script : TaskSnapshot → List (List Call × AdapterReply)) : ExecM Progress := do
  match ← taskBackend (lease now reapNow queue ex.workerId leaseSeconds) with
  | none => pure (.returned none)
  | some leased => ex.execute leased (script leased)

end WorkerExecutor

/-- Every call of the script is admitted whatever the state of the backend. -/
def Unconditional (script : List (List Call × AdapterReply)) : Prop :=
  ∀ p ∈ script, ∀ c ∈ p.1, ∀ b : InMemoryTaskBackend, b.FreshId c

theorem evolves_final {calls : List Call}
    (h : ∀ c ∈ calls, ∀ b : InMemoryTaskBackend, b.FreshId c) (b : InMemoryTaskBackend) :
    InMemoryTaskBackend.Evolves b (final exec b calls) := by
  induction calls generalizing b with
  | nil => exact refl b
  | cons c calls ih =>
    have hstep := evolves_exec (h c List.mem_cons_self b)
    exact IsTrans.trans _ _ _ hstep (ih (fun c' hc' => h c' (List.mem_cons_of_mem _ hc')) _)

variable {script : List (List Call × AdapterReply)} {b : InMemoryTaskBackend} {t : InMemoryTask}

theorem moves_drive (ex : WorkerExecutor) (h : Unconditional script) (progress : Progress) :
    Moves BackendEvolves (ex.drive script progress) := by
  induction script generalizing progress with
  | nil => cases progress <;> exact Moves.pure _
  | cons p rest ih =>
    cases progress with
    | returned result => exact Moves.pure _
    | awaiting locals pc =>
      refine Moves.bind ?_ fun _ => Moves.bind (moves_resume ex locals pc p.2) fun progress' =>
        ih (fun q hq => h q (List.mem_cons_of_mem _ hq)) progress'
      intro s
      exact evolves_final (h p List.mem_cons_self) s.stores.backend

theorem moves_execute (ex : WorkerExecutor) (leased : TaskSnapshot) (h : Unconditional script) :
    Moves BackendEvolves (ex.execute leased script) :=
  Moves.bind (moves_begin ex leased) fun progress => moves_drive ex h progress

/-- What an adapter does in one execution. A stream gives its events and then
anything but an event. -/
structure AdapterBehaviour where
  load : AdapterReply
  first : AdapterReply
  events : List AgentEvent
  last : AdapterReply
  last_ne_event : ∀ event, last ≠ .event event

/-- The answers of an adapter: to `load`, to `invoke` or `stream`, and to every step
of the stream. -/
def AdapterBehaviour.replies (behaviour : AdapterBehaviour) (leased : TaskSnapshot) :
    List AdapterReply :=
  if Streams leased then
    behaviour.load :: behaviour.first ::
      (behaviour.events.map AdapterReply.event ++ [behaviour.last])
  else
    [behaviour.load, behaviour.first]

/-! ## Appending while the task is held -/

/-- The executor works under a lease the backend has it down for. -/
structure Held (id : Int) (w : String) (k : Int) (s : ExecState) : Prop where
  under : Under id w k s.active
  stored : ∃ t, s.stores.backend.tasks.get? id = some t ∧ t.fencingToken = k ∧ t.workerId = some w

variable {id k : Int} {w : String} {s s' : ExecState} {n : Nat}

theorem Held.assertActiveFencing (h : Held id w k s) :
    Worker.assertActiveFencing.run s = .ok () s := by
  obtain ⟨t, ht, hk, hw⟩ := h.stored
  have hcheck : (InMemoryTask.assertCanComplete w k).run t = .ok () t := by
    rw [InMemoryTask.run_assertCanComplete, if_neg (not_not.mpr hk), if_neg (not_not.mpr hw)]
  have hrun : (assertCanComplete id w k).run s.stores.backend = .ok () s.stores.backend := by
    unfold assertCanComplete
    rw [run_withTask_of_some _ ht, hcheck]
    simp only [Dict.set_eq_self ht]
  rw [run_assertActiveFencing h.under]
  exact run_taskBackend_of_ok hrun

theorem Held.of_quiet (h : Held id w k s) (hquiet : Quiet s s') : Held id w k s' where
  under := hquiet.active ▸ h.under
  stored := hquiet.backend ▸ h.stored

section

variable (ex : WorkerExecutor) {id : Int} {w : String} {k : Int} {s : ExecState}

/-- `_append` of an encodable payload. -/
theorem run_append_of_encodable (h : Held id w k s) (origin : Origin) (runId attemptId : Int)
    (event : AgentEvent)
    (hpayload : (PyValue.dict (ex.tracedPayload s.active event.payload)).Encodable) :
    ∃ replayBuffer, (ex.append origin runId attemptId event).run s =
      .ok () (s.withAppend replayBuffer ⟨origin, some id, runId, attemptId, event.type⟩) := by
  obtain ⟨stored, replayBuffer, happend⟩ := ReplayBuffer.append_of_encodable
    { event with payload := ex.tracedPayload s.active event.payload } hpayload
    s.stores.replayBuffer runId (some attemptId)
  refine ⟨replayBuffer, ?_⟩
  unfold WorkerExecutor.append
  rw [run_bind_of_ok h.assertActiveFencing]
  simp only [EStateM.run_bind, EStateM.run_get, happend, h.under.taskId]
  rfl

/-- `_append` of a payload the encoder refuses. -/
theorem run_append_of_not_encodable (h : Held id w k s) (origin : Origin)
    (runId attemptId : Int) (event : AgentEvent)
    (hpayload : ¬ (PyValue.dict (ex.tracedPayload s.active event.payload)).Encodable) :
    ∃ cls, (ex.append origin runId attemptId event).run s = .error (.notSerializable cls) s := by
  obtain ⟨cls, happend⟩ := ReplayBuffer.append_of_not_encodable
    { event with payload := ex.tracedPayload s.active event.payload } hpayload
    s.stores.replayBuffer runId (some attemptId)
  refine ⟨cls, ?_⟩
  unfold WorkerExecutor.append
  rw [run_bind_of_ok h.assertActiveFencing]
  simp only [EStateM.run_bind, EStateM.run_get, happend]
  rfl

/-- A payload of texts is encodable with and without trace fields. -/
theorem encodable_tracedPayload {payload : PyDict} (h : ∀ kv ∈ payload, kv.2.Encodable)
    (active : Active) : (PyValue.dict (ex.tracedPayload active payload)).Encodable := by
  unfold WorkerExecutor.tracedPayload
  cases active.context with
  | none => exact (PyValue.encodable_dict_iff payload).mpr h
  | some context =>
    exact (encodable_attachTraceFields_iff payload _).mpr fun kv hkv _ => h kv hkv

end

/-! ## Inside the `try` block -/

section

variable (ex : WorkerExecutor)

/-- The encoder accepts the payload once the trace fields are attached. -/
def Storable (event : AgentEvent) : Prop :=
  ∀ kv ∈ event.payload, kv.1 ∉ traceKeys → kv.2.Encodable

theorem encodable_tracedPayload_iff {active : Active} {context : RuntimeContext}
    (h : active.context = some context) (event : AgentEvent) :
    (PyValue.dict (ex.tracedPayload active event.payload)).Encodable ↔ Storable event := by
  unfold WorkerExecutor.tracedPayload
  simp only [h]
  exact encodable_attachTraceFields_iff _ _

/-- The loop over the events of a result stores them all, or raises at the first
that cannot be stored. -/
theorem run_appendEvents {context : RuntimeContext}
    (runId attemptId : Int) (events : List AgentEvent) :
    ∀ {s : ExecState}, Held id w k s → s.active.context = some context →
      ((∀ event ∈ events, Storable event) ∧
          ∃ s', (ex.appendEvents runId attemptId events).run s = .ok () s') ∨
        ((¬ ∀ event ∈ events, Storable event) ∧
          ∃ cls s', (ex.appendEvents runId attemptId events).run s =
            .error (.notSerializable cls) s') := by
  induction events with
  | nil =>
    intro s _ _
    exact .inl ⟨by simp, s, rfl⟩
  | cons event events ih =>
    intro s hheld hcontext
    unfold WorkerExecutor.appendEvents
    by_cases hevent : Storable event
    · obtain ⟨replayBuffer, hrun⟩ := run_append_of_encodable ex hheld .adapter runId attemptId
        event ((encodable_tracedPayload_iff ex hcontext event).mpr hevent)
      have hquiet := quiet_append ex runId attemptId event s
      rw [hrun] at hquiet
      rw [run_bind_of_ok hrun]
      rcases ih (hheld.of_quiet hquiet) (hquiet.active ▸ hcontext) with hall | hnot
      · exact .inl ⟨List.forall_mem_cons.mpr ⟨hevent, hall.1⟩, hall.2⟩
      · exact .inr ⟨fun hall => hnot.1 (List.forall_mem_cons.mp hall).2, hnot.2⟩
    · obtain ⟨cls, hrun⟩ := run_append_of_not_encodable ex hheld .adapter runId attemptId
        event (fun h => hevent ((encodable_tracedPayload_iff ex hcontext event).mp h))
      refine .inr ⟨fun hall => hevent (hall event List.mem_cons_self), cls, s, ?_⟩
      exact run_bind_of_error hrun

end

/-! ## Cancellations meanwhile -/

/-- Besides appends, others cancelled the task `id` so many times. -/
structure Shaken (id : Int) (n : Nat) (s s' : ExecState) : Prop where
  backend : s'.stores.backend = final exec s.stores.backend (List.replicate n (.cancel id))
  runStore : s'.stores.runStore = s.stores.runStore
  active : s'.active = s.active
  appended : ∃ l, s'.appended = s.appended ++ l ∧ ∀ a ∈ l, a.taskId = s.active.taskId ∧ ¬ a.Terminal

theorem Quiet.shaken (h : Quiet s s') (id : Int) : Shaken id 0 s s' :=
  ⟨h.backend, h.runStore, h.active, h.appended⟩

theorem Shaken.trans {m : Nat} {s'' : ExecState} (h : Shaken id n s s') (h' : Shaken id m s' s'') :
    Shaken id (n + m) s s'' where
  backend := by rw [h'.backend, h.backend, List.replicate_add, final_append]
  runStore := h'.runStore.trans h.runStore
  active := h'.active.trans h.active
  appended := appended_trans h.appended (h.active ▸ h'.appended)

/-- The state after cancellations by others. -/
def cancelled (id : Int) (n : Nat) (s : ExecState) : ExecState :=
  { s with
    stores :=
      { s.stores with
        backend :=
          final exec s.stores.backend (List.replicate n (.cancel id)) } }

theorem shaken_cancelled (id : Int) (n : Nat) (s : ExecState) : Shaken id n s (cancelled id n s) :=
  ⟨rfl, rfl, rfl, [], (List.append_nil _).symm, by simp⟩

/-- What `n` cancellations make of the status of a running task. -/
def statusAfter (n : Nat) : TaskStatus := if n = 0 then .running else .cancelled

theorem exec_cancel (ht : b.tasks.get? id = some t) : (exec b (.cancel id)).2 =
      { b with tasks := b.tasks.set id (endState (InMemoryTask.cancel.run t)) } := by
  simp only [exec, method, bind_pure_comp, endState_run_map]
  exact endState_withTask _ ht

/-- Cancellations touch nothing but the status. -/
theorem final_cancels (id : Int) (n : Nat) (ht : b.tasks.get? id = some t) :
    ∃ status, final exec b (List.replicate n (.cancel id)) =
        { b with tasks := b.tasks.set id { t with status := status } } ∧
      (t.status = .running → status = statusAfter n) := by
  induction n with
  | zero => exact ⟨t.status, by rw [Dict.set_eq_self ht]; rfl, fun h => h⟩
  | succ n ih =>
    obtain ⟨status, hfinal, hstatus⟩ := ih
    rw [List.replicate_succ', final_append, hfinal, final_cons,
      exec_cancel (Dict.get?_set_self _ _ _), InMemoryTask.run_cancel]
    simp only [Dict.set_set]
    split
    · exact ⟨.cancelled, rfl, fun _ => rfl⟩
    · rename_i hend
      refine ⟨status, rfl, fun hrunning => ?_⟩
      rw [hstatus hrunning] at hend ⊢
      cases n with
      | zero => simp [statusAfter] at hend
      | succ n => rfl

theorem Held.of_shaken (h : Held id w k s) (hshaken : Shaken id n s s') : Held id w k s' where
  under := hshaken.active ▸ h.under
  stored := by
    obtain ⟨t, ht, hk, hw⟩ := h.stored
    obtain ⟨status, hfinal, _⟩ := final_cancels id n ht
    rw [hshaken.backend, hfinal]
    exact ⟨_, Dict.get?_set_self _ _ _, hk, hw⟩

/-! ## The state of an execution in progress -/

/-- The executor is in the middle of executing `leased`: it holds the task, whose
status is `status`, and the run and the attempt are running. -/
structure Engaged (w : String) (leased : TaskSnapshot) (attemptId : Int) (status : TaskStatus)
    (s : ExecState) : Prop where
  under : Under leased.taskId w leased.fencingToken s.active
  task : ∃ t, s.stores.backend.tasks.get? leased.taskId = some t ∧
    t.fencingToken = leased.fencingToken ∧ t.workerId = some w ∧ t.status = status ∧
    t.attempt = leased.attempt ∧ t.maxAttempts = leased.maxAttempts
  run : ∃ run, s.stores.runStore.runs.get? leased.runId = some run ∧ run.status = .running
  attempt : ∃ attempt, s.stores.runStore.attempts.get? attemptId = some attempt ∧
    attempt.status = .running

section

variable {w : String} {leased : TaskSnapshot} {attemptId : Int} {status : TaskStatus}
  {s s' : ExecState}

theorem Engaged.held (h : Engaged w leased attemptId status s) :
    Held leased.taskId w leased.fencingToken s where
  under := h.under
  stored := by
    obtain ⟨t, ht, hk, hw, _⟩ := h.task
    exact ⟨t, ht, hk, hw⟩

theorem Engaged.of_shaken (h : Engaged w leased attemptId .running s)
    (hshaken : Shaken leased.taskId n s s') :
    Engaged w leased attemptId (statusAfter n) s' where
  under := hshaken.active ▸ h.under
  run := hshaken.runStore ▸ h.run
  attempt := hshaken.runStore ▸ h.attempt
  task := by
    obtain ⟨t, ht, hk, hw, hstatus, hattempt, hmax⟩ := h.task
    obtain ⟨_, hfinal, hafter⟩ := final_cancels leased.taskId n ht
    rw [hshaken.backend, hfinal, hafter hstatus]
    exact ⟨_, Dict.get?_set_self _ _ _, hk, hw, rfl, hattempt, hmax⟩

end

/-! ## From the first await to the closing sequence -/

/-- An answer of the adapter, and how often others cancelled the task before it. -/
abbrev Script : Type := List (Nat × AdapterReply)

/-- The calls of others, for a script of cancellations of `id`. -/
def Script.calls (script : Script) (id : Int) : List (List Call × AdapterReply) :=
  script.map fun p => (List.replicate p.1 (.cancel id), p.2)

/-- How often the task is cancelled in all. -/
def Script.cancels (script : Script) : Nat := (script.map Prod.fst).sum

section

variable (ex : WorkerExecutor) {locals : Locals} {s s' : ExecState}

theorem run_drive_of_ended {rest : List (List Call × AdapterReply)} {m : ExecM Progress}
    (h : ∀ locals' pc s', m.run s ≠ .ok (.awaiting locals' pc) s') :
    (m >>= ex.drive rest).run s = m.run s := by
  rw [EStateM.run_bind]
  cases hrun : m.run s with
  | error e s' => rfl
  | ok progress s' =>
    cases progress with
    | returned result => cases rest <;> rfl
    | awaiting locals' pc => exact absurd hrun (h locals' pc s')

/-- One answer: the `try` block goes on to its next await, or the call closes. -/
theorem run_drive_cons (id : Int) (p : Nat × AdapterReply) (rest : Script) (pc : Pc)
    (s : ExecState) :
    (ex.drive (Script.calls (p :: rest) id) (.awaiting locals pc)).run s =
      match (ex.continueBody locals pc p.2).run (cancelled id p.1 s) with
      | .ok (.suspended pc') s' => (ex.drive (Script.calls rest id) (.awaiting locals pc')).run s'
      | .ok (.result result) s' => (ex.finish locals result).run s'
      | .error e s' => (ex.handle locals e).run s' := by
  have hstep : (ex.drive (Script.calls (p :: rest) id) (.awaiting locals pc)).run s =
      (ex.resume locals pc p.2 >>= ex.drive (Script.calls rest id)).run (cancelled id p.1 s) :=
    rfl
  rw [hstep]
  unfold WorkerExecutor.resume WorkerExecutor.guarded
  rw [bind_assoc, EStateM.run_bind, run_attempt]
  cases (ex.continueBody locals pc p.2).run (cancelled id p.1 s) with
  | error e s' => exact run_drive_of_ended ex fun _ _ _ => handle_not_awaiting ex
  | ok body s' =>
    cases body with
    | suspended pc' => rfl
    | result result => exact run_drive_of_ended ex fun _ _ _ => finish_not_awaiting ex

/-- How a call closes: with a result, after `n` cancellations, or by an exception
that satisfies `K`, after at most as many. Which of the two is up to `Success`. -/
def Closes (locals : Locals) (K : PyException → Prop) (n : Nat) (s : ExecState)
    (Success : AgentResult → Prop) (outcome : EStateM.Result PyException ExecState Progress) :
    Prop :=
  (∃ result s', Success result ∧ Shaken locals.leased.taskId n s s' ∧
      outcome = (ex.finish locals result).run s') ∨
    ∃ e m s', (∀ result, ¬ Success result) ∧ K e ∧ m ≤ n ∧
      Shaken locals.leased.taskId m s s' ∧ outcome = (ex.handle locals e).run s'

/-- How the call goes on from an await, with the given answers. -/
def ClosesFrom (locals : Locals) (pc : Pc) (K : PyException → Prop) (script : Script)
    (s : ExecState) (Success : AgentResult → Prop) : Prop :=
  Closes ex locals K script.cancels s Success
    ((ex.drive (Script.calls script locals.leased.taskId) (.awaiting locals pc)).run s)

variable {ex} {K : PyException → Prop} {n m : Nat} {s s' : ExecState}
  {outcome : EStateM.Result PyException ExecState Progress} {Success : AgentResult → Prop}

theorem Closes.of_shaken (hshaken : Shaken locals.leased.taskId m s s')
    (h : Closes ex locals K n s' Success outcome) :
    Closes ex locals K (m + n) s Success outcome := by
  rcases h with ⟨result, s'', hsuccess, h', hout⟩ | ⟨e, m', s'', hfail, hk, hle, h', hout⟩
  · exact .inl ⟨result, s'', hsuccess, hshaken.trans h', hout⟩
  · exact .inr ⟨e, m + m', s'', hfail, hk, by omega, hshaken.trans h', hout⟩

theorem Closes.congr (Success : AgentResult → Prop) {Success' : AgentResult → Prop}
    (hiff : ∀ result, Success result ↔ Success' result)
    (h : Closes ex locals K n s Success outcome) : Closes ex locals K n s Success' outcome := by
  rcases h with ⟨result, s'', hsuccess, h', hout⟩ | ⟨e, m', s'', hfail, hrest⟩
  · exact .inl ⟨result, s'', (hiff result).mp hsuccess, h', hout⟩
  · exact .inr ⟨e, m', s'', fun r hr => hfail r ((hiff r).mpr hr), hrest⟩

/-- The exceptions that can come up satisfy `K`: those of the adapter's answers, and
those the executor raises over what it is given. -/
structure Raises (K : PyException → Prop) (script : Script) : Prop where
  notSerializable : ∀ cls, K (.notSerializable cls)
  unexpected : ∀ className message, K (.unexpected className message)
  adapter : ∀ p ∈ script, ∀ e, p.2 = .raised e → K e

variable {p : Nat × AdapterReply} {rest : Script} {pc : Pc} {events : List AgentEvent}
  {last : AdapterReply}

theorem Raises.tail (h : Raises K (p :: rest)) : Raises K rest where
  notSerializable := h.notSerializable
  unexpected := h.unexpected
  adapter := fun q hq => h.adapter q (List.mem_cons_of_mem _ hq)

/-- The result of an exhausted stream. -/
def streamedResult : AgentResult := { output := [("streamed", .bool true)] }

variable {w : String} {k : Int} {context : RuntimeContext}

/-- The cancellations before an answer, and what the answer then makes the `try`
block append, are all that happens up to its next await. -/
theorem shaken_continueBody (ex : WorkerExecutor) (locals : Locals) (pc : Pc) (p : Nat × AdapterReply)
    (id : Int) (s : ExecState) :
    Shaken id p.1 s (endState ((ex.continueBody locals pc p.2).run (cancelled id p.1 s))) := by
  have hquiet := quiet_continueBody ex locals pc p.2 (cancelled id p.1 s)
  exact (shaken_cancelled id p.1 s).trans (hquiet.shaken id)

/-- An answer that raises closes the call. -/
theorem closes_of_error (e : PyException) (s' : ExecState) (hfail : ∀ result, ¬ Success result)
    (hk : K e) (hrun : (ex.continueBody locals pc p.2).run (cancelled locals.leased.taskId p.1 s) =
      .error e s') : ClosesFrom ex locals pc K (p :: rest) s Success := by
  have hshaken := shaken_continueBody ex locals pc p locals.leased.taskId s
  rw [hrun] at hshaken
  refine .inr ⟨e, p.1, s', hfail, hk, ?_, hshaken, ?_⟩
  · simp [Script.cancels]
  · rw [run_drive_cons, hrun]

/-- An answer after which the `try` block waits again. -/
theorem closes_of_suspended (pc' : Pc)
    (hrun : (ex.continueBody locals pc p.2).run (cancelled locals.leased.taskId p.1 s) =
      .ok (.suspended pc') s')
    (h : Shaken locals.leased.taskId p.1 s s' → ClosesFrom ex locals pc' K rest s' Success) :
    ClosesFrom ex locals pc K (p :: rest) s Success := by
  have hshaken := shaken_continueBody ex locals pc p locals.leased.taskId s
  rw [hrun] at hshaken
  rw [ClosesFrom, run_drive_cons, hrun]
  exact (h hshaken).of_shaken hshaken

/-- An answer that brings the `try` block to a result. -/
theorem closes_of_result {result : AgentResult} (hsuccess : Success result)
    (hrun : (ex.continueBody locals pc p.2).run (cancelled locals.leased.taskId p.1 s) =
      .ok (.result result) s') : ClosesFrom ex locals pc K [p] s Success := by
  have hshaken := shaken_continueBody ex locals pc p locals.leased.taskId s
  rw [hrun] at hshaken
  refine .inl ⟨result, s', hsuccess, ?_, ?_⟩
  · simpa [Script.cancels] using hshaken
  · rw [run_drive_cons, hrun]

/-- The stream: all its events are stored and it ends, or an exception ends it. -/
theorem closes_nextEvent (hlast : ∀ event, last ≠ .event event) :
    ∀ {script : Script} {s : ExecState},
      script.map Prod.snd = events.map AdapterReply.event ++ [last] → Raises K script →
      Held locals.leased.taskId w k s → s.active.context = some context →
      ClosesFrom ex locals (.nextEvent context) K script s fun result =>
        (∀ event ∈ events, Storable event) ∧ last = .exhausted ∧ result = streamedResult := by
  induction events with
  | nil =>
    intro script s hscript hraises hheld hcontext
    obtain ⟨⟨c, reply⟩, rfl, hreply⟩ : ∃ p, script = [p] ∧ p.2 = last := by
      simpa using hscript
    have hheld' := hheld.of_shaken (shaken_cancelled locals.leased.taskId c s)
    cases hreply
    -- only the end of the stream is a success
    cases reply with
    | raised e =>
      exact closes_of_error _ _ (by simp) (hraises.adapter _ List.mem_cons_self e rfl) rfl
    | event event => exact absurd rfl (hlast event)
    | exhausted => exact closes_of_result ⟨by simp, rfl, rfl⟩ rfl
    | _ =>
      exact closes_of_error _ _ (by simp) (hraises.unexpected _ _)
        (run_bind_of_ok hheld'.assertActiveFencing)
  | cons event events ih =>
    intro script s hscript hraises hheld hcontext
    obtain ⟨⟨c, reply⟩, rest, rfl, hreply, hrest⟩ : ∃ p rest, script = p :: rest ∧
        p.2 = .event event ∧ rest.map Prod.snd = events.map AdapterReply.event ++ [last] := by
      simpa [List.map_eq_cons_iff] using hscript
    obtain rfl : reply = .event event := hreply
    have hheld' := hheld.of_shaken (shaken_cancelled locals.leased.taskId c s)
    have hcontext' : (cancelled locals.leased.taskId c s).active.context = some context := hcontext
    by_cases hevent : Storable event
    · obtain ⟨replayBuffer, hrun⟩ := run_append_of_encodable ex hheld' .adapter context.runId
        locals.attemptId event ((encodable_tracedPayload_iff ex hcontext' event).mpr hevent)
      refine Closes.congr (fun result => (∀ e ∈ events, Storable e) ∧
        last = .exhausted ∧ result = streamedResult) ?_ ?_
      · simp [hevent]
      · refine closes_of_suspended (.nextEvent context) (run_bind_of_ok hrun) ?_
        intro hshaken
        exact ih hrest hraises.tail (hheld.of_shaken hshaken) (hshaken.active ▸ hcontext)
    · obtain ⟨cls, hrun⟩ := run_append_of_not_encodable ex hheld' .adapter context.runId
        locals.attemptId event
        (fun h => hevent ((encodable_tracedPayload_iff ex hcontext' event).mp h))
      refine closes_of_error _ _ ?_ (hraises.notSerializable cls) (run_bind_of_error hrun)
      intro result h
      exact hevent (h.1 event List.mem_cons_self)

/-- `invoke`: the adapter returns a result whose events can all be stored, or an
exception ends the call. -/
theorem closes_invoke (hraises : Raises K [p]) (hheld : Held locals.leased.taskId w k s)
    (hcontext : s.active.context = some context) :
    ClosesFrom ex locals (.invoke context) K [p] s fun result =>
      p.2 = .result result ∧ ∀ event ∈ result.events, Storable event := by
  obtain ⟨c, reply⟩ := p
  have hheld' := hheld.of_shaken (shaken_cancelled locals.leased.taskId c s)
  cases reply with
  | raised e =>
    exact closes_of_error _ _ (by simp) (hraises.adapter _ List.mem_cons_self e rfl) rfl
  | result result =>
    rcases run_appendEvents ex context.runId locals.attemptId result.events hheld' hcontext with
      ⟨hall, s', hrun⟩ | ⟨hnot, cls, s', hrun⟩
    · exact closes_of_result ⟨rfl, hall⟩ (run_bind_of_ok hrun)
    · refine closes_of_error _ _ ?_ (hraises.notSerializable cls) (run_bind_of_error hrun)
      rintro result' ⟨heq, hall⟩
      cases heq
      exact hnot hall
  | _ => exact closes_of_error _ _ (by simp) (hraises.unexpected _ _) rfl

/-- The opening of the stream, and the stream. -/
theorem closes_openStream (hlast : ∀ event, last ≠ .event event)
    (hrest : rest.map Prod.snd = events.map AdapterReply.event ++ [last])
    (hraises : Raises K (p :: rest)) (hheld : Held locals.leased.taskId w k s)
    (hcontext : s.active.context = some context) :
    ClosesFrom ex locals (.openStream context) K (p :: rest) s fun result =>
      p.2 = .stream ∧ (∀ event ∈ events, Storable event) ∧ last = .exhausted ∧
        result = streamedResult := by
  obtain ⟨c, reply⟩ := p
  cases reply with
  | raised e =>
    exact closes_of_error _ _ (by simp) (hraises.adapter _ List.mem_cons_self e rfl) rfl
  | stream =>
    refine Closes.congr (fun result => (∀ event ∈ events, Storable event) ∧
      last = .exhausted ∧ result = streamedResult) (by simp) ?_
    refine closes_of_suspended (.nextEvent context) rfl ?_
    intro hshaken
    exact closes_nextEvent hlast hrest hraises.tail (hheld.of_shaken hshaken)
      (hshaken.active ▸ hcontext)
  | _ => exact closes_of_error _ _ (by simp) (hraises.unexpected _ _) rfl

/-- The adapter brings the execution of `leased` to a result: it loads, the timeout
is in order, there is an input, and it returns a result or streams to the end, all
of whose events can be stored. -/
def Delivers (ex : WorkerExecutor) (leased : TaskSnapshot) (runtimeConfig : PyDict)
    (behaviour : AdapterBehaviour) (result : AgentResult) : Prop :=
  (∀ e, behaviour.load ≠ .raised e) ∧ ex.armTimeout runtimeConfig = .ok () ∧
    leased.payload.inputData.isSome = true ∧
    if Streams leased then
      behaviour.first = .stream ∧ (∀ event ∈ behaviour.events, Storable event) ∧
        behaviour.last = .exhausted ∧ result = streamedResult
    else
      behaviour.first = .result result ∧ ∀ event ∈ result.events, Storable event

/-- From the first await on, a call closes with the adapter's result, or by an
exception. -/
theorem closes_load {behaviour : AdapterBehaviour} {script : Script} {runtimeConfig : PyDict}
    (hscript : script.map Prod.snd = behaviour.replies locals.leased) (hraises : Raises K script)
    (harm : ∀ e, ex.armTimeout runtimeConfig = .error e → K e)
    (hheld : Held locals.leased.taskId w k s) (hcontext : s.active.context = some context) :
    ClosesFrom ex locals (.load context runtimeConfig) K script s
      (Delivers ex locals.leased runtimeConfig behaviour) := by
  have hreplies : behaviour.replies locals.leased = behaviour.load ::
      if Streams locals.leased then
        behaviour.first :: (behaviour.events.map AdapterReply.event ++ [behaviour.last])
      else [behaviour.first] := by
    unfold AdapterBehaviour.replies
    split <;> rfl
  rw [hreplies] at hscript
  obtain ⟨⟨c, reply⟩, rest, rfl, hreply, hrest⟩ := List.map_eq_cons_iff.mp hscript
  obtain rfl : reply = behaviour.load := hreply
  by_cases hload : ∃ e, behaviour.load = .raised e
  · obtain ⟨e, hload⟩ := hload
    refine closes_of_error e (cancelled locals.leased.taskId c s) ?_
      (hraises.adapter _ List.mem_cons_self e hload) ?_
    · intro result h
      exact h.1 e hload
    · rw [hload]
      rfl
  · have hloaded : ∀ e, behaviour.load ≠ .raised e := fun e h => hload ⟨e, h⟩
    have hbody := continueBody_load ex locals context runtimeConfig hloaded
    rcases enter_eq ex locals.leased context runtimeConfig with ⟨⟨harmed, hinput⟩, henter⟩ | hnot
    · have hrun : (ex.continueBody locals (.load context runtimeConfig) behaviour.load).run
          (cancelled locals.leased.taskId c s) =
          .ok (.suspended (if Streams locals.leased then .openStream context else .invoke context))
            (cancelled locals.leased.taskId c s) := by
        rw [hbody, henter]
        rfl
      refine closes_of_suspended _ hrun fun hshaken => ?_
      have hheld' := hheld.of_shaken hshaken
      have hcontext' := hshaken.active ▸ hcontext
      split at hrest <;> rename_i hstream
      · obtain ⟨p, rest, rfl, hp, hrest⟩ := List.map_eq_cons_iff.mp hrest
        rw [if_pos hstream]
        refine Closes.congr _ (fun result => ?_) (closes_openStream behaviour.last_ne_event hrest
          hraises.tail hheld' hcontext')
        simp [Delivers, hloaded, harmed, hinput, hstream, hp]
      · obtain ⟨p, rest, rfl, hp, hrest⟩ := List.map_eq_cons_iff.mp hrest
        obtain rfl := List.map_eq_nil_iff.mp hrest
        rw [if_neg hstream]
        refine Closes.congr _ (fun result => ?_) (closes_invoke hraises.tail hheld' hcontext')
        simp [Delivers, hloaded, harmed, hinput, hstream, hp]
    · obtain ⟨hnot, e, henter, hcause⟩ := hnot
      refine closes_of_error e (cancelled locals.leased.taskId c s) ?_ ?_ ?_
      · intro result h
        exact hnot ⟨h.2.1, h.2.2.1⟩
      · rcases hcause with hcause | rfl
        · exact harm e hcause
        · exact hraises.unexpected _ _
      · rw [hbody, henter]
        rfl

end

end DimooRun.Worker
