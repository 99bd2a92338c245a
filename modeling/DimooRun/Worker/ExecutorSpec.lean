/-
  Worker/ExecutorSpec.lean --- what the segments of an execution do.

  Two situations are told apart. An executor holds its task when the backend has
  its worker id and its token; then the fencing check passes and leaves no trace.
  Otherwise it is stale: the check raises, and since every write of a segment
  comes after a check, the segment writes nothing.
-/
import DimooRun.Scheduler.InMemoryFencing
import DimooRun.Worker.Executor

set_option autoImplicit false

namespace DimooRun.Worker

open Foundation Observability DimooRun.Runtime Scheduler Streaming InMemoryTaskBackend

/-! ## Methods of the stores -/

variable {b : InMemoryTaskBackend} {r : InMemoryRunStore} {s : ExecState}

section

variable {α : Type} {m : BackendM α} {a : α}

theorem run_taskBackend_of_ok (h : m.run s.stores.backend = .ok a b) :
    (taskBackend m).run s = .ok a { s with stores := { s.stores with backend := b } } := by
  simp only [taskBackend, run_zoom, run_raiseAs, h]

theorem run_taskBackend_of_error {e : TaskError} (h : m.run s.stores.backend = .error e b) :
    (taskBackend m).run s =
      .error (.ofTask e) { s with stores := { s.stores with backend := b } } := by
  simp only [taskBackend, run_zoom, run_raiseAs, h]

theorem run_runStore_of_ok {m : StoreM α} (h : m.run s.stores.runStore = .ok a r) :
    (runStore m).run s = .ok a { s with stores := { s.stores with runStore := r } } := by
  simp only [runStore, run_zoom, run_raiseAs, h]

theorem run_runStore_of_error {m : StoreM α} {e : StoreError}
    (h : m.run s.stores.runStore = .error e r) :
    (runStore m).run s =
      .error (.ofStore e) { s with stores := { s.stores with runStore := r } } := by
  simp only [runStore, run_zoom, run_raiseAs, h]

end

/-! ## The fencing check -/

/-- The executor works under the lease of task `id` with worker `w` and token `k`. -/
structure Under (id : Int) (w : String) (k : Int) (active : Active) : Prop where
  taskId : active.taskId = some id
  workerId : active.workerId = some w
  fencingToken : active.fencingToken = some k

theorem run_assertActiveFencing {id : Int} {w : String} {k : Int} (h : Under id w k s.active) :
    assertActiveFencing.run s = (taskBackend (assertCanComplete id w k)).run s := by
  simp only [assertActiveFencing, EStateM.run_bind, EStateM.run_get, h.taskId, h.workerId,
    h.fencingToken]

/-- The backend does not have the executor's worker id and token. -/
structure Stale (s : ExecState) : Prop where
  gone : ∃ id w k, Under id w k s.active ∧
    ∀ t, s.stores.backend.tasks.get? id = some t → t.fencingToken ≠ k ∨ t.workerId ≠ some w

/-- A stale executor fails the check, with an exception that no handler survives. -/
theorem Stale.assertActiveFencing (h : Stale s) :
    ∃ e, (e.kind = .staleFencingToken ∨ e.kind = .ordinary) ∧
      Worker.assertActiveFencing.run s = .error e s := by
  obtain ⟨id, w, k, hunder, hstale⟩ := h.gone
  rw [run_assertActiveFencing hunder]
  cases ht : s.stores.backend.tasks.get? id with
  | none =>
    exact ⟨_, Or.inr rfl, run_taskBackend_of_error (run_withTask_of_none _ ht)⟩
  | some t =>
    by_cases hk : t.fencingToken ≠ k
    · have hrun : (InMemoryTask.assertCanComplete w k).run t =
          .error (.staleFencingToken t.taskId) t := by
        rw [InMemoryTask.run_assertCanComplete, if_pos hk]
      exact ⟨_, Or.inl rfl, run_taskBackend_of_error (run_withTask_of_error ht hrun)⟩
    · have hw : t.workerId ≠ some w := by
        rcases hstale t ht with hk' | hw
        · exact absurd hk' hk
        · exact hw
      have hrun : (InMemoryTask.assertCanComplete w k).run t = .error (.taskLease t.taskId w) t := by
        rw [InMemoryTask.run_assertCanComplete, if_neg hk, if_pos hw]
      exact ⟨_, Or.inr rfl, run_taskBackend_of_error (run_withTask_of_error ht hrun)⟩

/-! ## From `load` on -/

/-- The task asks for a stream. -/
def Streams (leased : TaskSnapshot) : Prop := leased.payload.executionMode = some "stream"

instance (leased : TaskSnapshot) : Decidable (Streams leased) :=
  inferInstanceAs (Decidable (_ = _))

/-- Where the execution goes once the agent is loaded. -/
theorem enter_eq (ex : WorkerExecutor) (leased : TaskSnapshot) (context : RuntimeContext)
    (runtimeConfig : PyDict) :
    ((ex.armTimeout runtimeConfig = .ok () ∧ leased.payload.inputData.isSome = true) ∧
        ex.enter leased context runtimeConfig =
          .ok (if Streams leased then .openStream context else .invoke context)) ∨
      (¬ (ex.armTimeout runtimeConfig = .ok () ∧ leased.payload.inputData.isSome = true) ∧
        ∃ e, ex.enter leased context runtimeConfig = .error e ∧
          (ex.armTimeout runtimeConfig = .error e ∨ e = .unexpected "KeyError" "'input_data'")) := by
  unfold WorkerExecutor.enter Streams
  cases harm : ex.armTimeout runtimeConfig with
  | error e => exact .inr ⟨by simp, e, rfl, Or.inl rfl⟩
  | ok u =>
    cases hinput : leased.payload.inputData with
    | none => exact .inr ⟨by simp, _, rfl, Or.inr rfl⟩
    | some input =>
      by_cases hmode : leased.payload.executionMode = some "stream"
      · simp [hmode]
      · simp [hmode]

/-- Whatever `load` returns, the execution goes on. -/
theorem continueBody_load (ex : WorkerExecutor) (locals : Locals) (context : RuntimeContext)
    (runtimeConfig : PyDict) {reply : AdapterReply} (h : ∀ e, reply ≠ .raised e) :
    ex.continueBody locals (.load context runtimeConfig) reply = (do
      let pc ← orRaise (ex.enter locals.leased context runtimeConfig)
      pure (.suspended pc)) := by
  cases reply with
  | raised e => exact absurd rfl (h e)
  | _ => rfl

/-! ## A stale executor writes nothing -/

namespace Stale

variable (ex : WorkerExecutor) {s : ExecState}
  (h : Stale s) (locals : Locals) (pc : Pc) (reply : AdapterReply)

include h

theorem append (origin : Origin) (runId attemptId : Int) (event : AgentEvent) :
    ∃ e, (ex.append origin runId attemptId event).run s = .error e s := by
  obtain ⟨e, _, hrun⟩ := h.assertActiveFencing
  exact ⟨e, run_bind_of_error hrun⟩

theorem finish (result : AgentResult) : ∃ e, (ex.finish locals result).run s = .error e s := by
  obtain ⟨e, _, hrun⟩ := h.assertActiveFencing
  exact ⟨e, run_bind_of_error hrun⟩

/-- The handlers raise again: the one of fencing errors by itself, the others
because they start with the check. -/
theorem handle (e : PyException) :
    ∃ e' active, (ex.handle locals e).run s = .error e' { s with active := active } := by
  obtain ⟨e', _, hrun⟩ := h.assertActiveFencing
  unfold WorkerExecutor.handle
  cases e.kind with
  | staleFencingToken => exact ⟨e, {}, rfl⟩
  | timeout | ordinary => exact ⟨e', s.active, run_bind_of_error hrun⟩
  | base => exact ⟨e, s.active, rfl⟩

/-- How many answers of the adapter a stale execution can still take. -/
def rank : Pc → Nat
  | .load _ _ => 3
  | .openStream _ => 2
  | .invoke _ => 1
  | .nextEvent _ => 1

/-- Inside the `try` block a stale execution raises, comes to a result, or waits
again nearer to its end; it writes nothing. -/
theorem continueBody : (∃ e, (ex.continueBody locals pc reply).run s = .error e s) ∨
      (∃ result, (ex.continueBody locals pc reply).run s = .ok (.result result) s) ∨
      ∃ pc', (ex.continueBody locals pc reply).run s = .ok (.suspended pc') s ∧
        rank pc' < rank pc := by
  have hcheck : ∀ (k : Unit → ExecM Body),
      ∃ e, (Worker.assertActiveFencing >>= k).run s = .error e s := by
    intro k
    obtain ⟨e, _, hrun⟩ := h.assertActiveFencing
    exact ⟨e, run_bind_of_error hrun⟩
  have happend : ∀ (runId : Int) (event : AgentEvent) (k : Unit → ExecM Body),
      ∃ e, (ex.append .adapter runId locals.attemptId event >>= k).run s = .error e s := by
    intro runId event k
    obtain ⟨e, hrun⟩ := h.append ex .adapter runId locals.attemptId event
    exact ⟨e, run_bind_of_error hrun⟩
  cases pc with
  | load context runtimeConfig =>
    by_cases hraised : ∃ e, reply = .raised e
    · obtain ⟨e, rfl⟩ := hraised
      exact .inl ⟨e, rfl⟩
    · rw [continueBody_load ex locals context runtimeConfig (not_exists.mp hraised)]
      rcases enter_eq ex locals.leased context runtimeConfig with ⟨_, henter⟩ | ⟨_, e, henter, _⟩
      · rw [henter]
        refine .inr (.inr ⟨_, rfl, ?_⟩)
        split <;> simp [rank]
      · rw [henter]
        exact .inl ⟨e, rfl⟩
  | invoke context =>
    cases reply with
    | result result =>
      -- the check is first met at the first event
      cases hevents : result.events with
      | nil =>
        refine .inr (.inl ⟨result, ?_⟩)
        simp only [WorkerExecutor.continueBody, hevents]
        rfl
      | cons event events =>
        left
        simp only [WorkerExecutor.continueBody, hevents, WorkerExecutor.appendEvents, bind_assoc]
        exact happend context.runId event _
    | raised e => exact .inl ⟨e, rfl⟩
    | _ => exact .inl ⟨_, rfl⟩
  | openStream context =>
    cases reply with
    | stream => exact .inr (.inr ⟨.nextEvent context, rfl, by simp [rank]⟩)
    | raised e => exact .inl ⟨e, rfl⟩
    | _ => exact .inl ⟨_, rfl⟩
  | nextEvent context =>
    cases reply with
    | event event => exact .inl (happend context.runId event _)
    | exhausted => exact .inr (.inl ⟨_, rfl⟩)
    | raised e => exact .inl ⟨e, rfl⟩
    | _ => exact .inl (hcheck _)

/-- One answer of the adapter to a stale execution: it raises, or waits again
nearer to its end; nothing is written either way. -/
theorem resume :
    (∃ e active, (ex.resume locals pc reply).run s = .error e { s with active := active }) ∨
      ∃ pc', (ex.resume locals pc reply).run s = .ok (.awaiting locals pc') s ∧
        rank pc' < rank pc := by
  unfold WorkerExecutor.resume WorkerExecutor.guarded
  rw [EStateM.run_bind, run_attempt]
  rcases h.continueBody ex locals pc reply with ⟨e, hrun⟩ | ⟨result, hrun⟩ | ⟨pc', hrun, hlt⟩
  · obtain ⟨e', active, hhandle⟩ := h.handle ex locals e
    rw [hrun]
    exact .inl ⟨e', active, hhandle⟩
  · obtain ⟨e, hfinish⟩ := h.finish ex locals result
    rw [hrun]
    exact .inl ⟨e, s.active, hfinish⟩
  · rw [hrun]
    exact .inr ⟨pc', rfl, hlt⟩

end Stale

/-! ## What happens inside the `try` block -/

/-- The event ends the stream of a task, and it is the executor's own. -/
def Append.Terminal (a : Append) : Prop :=
  a.origin = .executor ∧ (a.type = "stream.completed" ∨ a.type = "stream.failed")

instance (a : Append) : Decidable a.Terminal := inferInstanceAs (Decidable (_ ∧ _))

/-- Events of some kind were appended, and then more of them. -/
theorem appended_trans {P : Append → Prop} {events events' events'' : List Append}
    (h : ∃ l, events' = events ++ l ∧ ∀ a ∈ l, P a)
    (h' : ∃ l, events'' = events' ++ l ∧ ∀ a ∈ l, P a) :
    ∃ l, events'' = events ++ l ∧ ∀ a ∈ l, P a := by
  obtain ⟨l, rfl, hall⟩ := h
  obtain ⟨l', rfl, hall'⟩ := h'
  exact ⟨l ++ l', List.append_assoc _ _ _, List.forall_mem_append.mpr ⟨hall, hall'⟩⟩

/-- From one state to the other, events were appended for the executor's task, none
of them terminal, and nothing else changed. -/
structure Quiet (s s' : ExecState) : Prop where
  backend : s'.stores.backend = s.stores.backend
  runStore : s'.stores.runStore = s.stores.runStore
  active : s'.active = s.active
  appended : ∃ l, s'.appended = s.appended ++ l ∧ ∀ a ∈ l, a.taskId = s.active.taskId ∧ ¬ a.Terminal

instance : Std.Refl Quiet where
  refl s := ⟨rfl, rfl, rfl, [], (List.append_nil _).symm, by simp⟩

instance : IsTrans ExecState Quiet where
  trans _ _ _ h h' :=
    ⟨h'.backend.trans h.backend, h'.runStore.trans h.runStore, h'.active.trans h.active,
      appended_trans h.appended (h.active ▸ h'.appended)⟩

theorem endState_assertActiveFencing (s : ExecState) :
    endState (assertActiveFencing.run s) = s := by
  unfold assertActiveFencing
  rw [EStateM.run_bind, EStateM.run_get]
  dsimp only
  split
  · rw [taskBackend, endState_run_zoom, endState_run_raiseAs, endState_assertCanComplete]
  · rfl

/-- The state after an append. -/
def ExecState.withAppend (s : ExecState) (replayBuffer : ReplayBuffer) (a : Append) : ExecState :=
  { s with
    stores := { s.stores with replayBuffer := replayBuffer }
    appended := s.appended ++ [a] }

section

variable (ex : WorkerExecutor) (origin : Origin) (runId attemptId : Int) (event : AgentEvent)

/-- `_append` adds an event, or raises and changes nothing. -/
theorem endState_append (s : ExecState) :
    endState ((ex.append origin runId attemptId event).run s) = s ∨
      ∃ replayBuffer, endState ((ex.append origin runId attemptId event).run s) =
        s.withAppend replayBuffer ⟨origin, s.active.taskId, runId, attemptId, event.type⟩ := by
  have hcheck := endState_assertActiveFencing s
  unfold WorkerExecutor.append
  rw [EStateM.run_bind]
  cases hrun : assertActiveFencing.run s with
  | error e t =>
    rw [hrun] at hcheck
    exact .inl hcheck
  | ok _ t =>
    rw [hrun] at hcheck
    subst hcheck
    simp only [EStateM.run_bind, EStateM.run_get]
    split
    · exact .inl rfl
    · exact .inr ⟨_, rfl⟩

theorem quiet_append : Moves Quiet (ex.append .adapter runId attemptId event) := by
  intro s
  rcases endState_append ex .adapter runId attemptId event s with h | ⟨replayBuffer, h⟩
  · rw [h]
    exact refl s
  · rw [h]
    refine ⟨rfl, rfl, rfl, _, rfl, ?_⟩
    intro a ha
    rw [List.mem_singleton] at ha
    subst ha
    exact ⟨rfl, fun h => by simp [Append.Terminal] at h⟩

theorem quiet_appendEvents (events : List AgentEvent) :
    Moves Quiet (ex.appendEvents runId attemptId events) := by
  induction events with
  | nil => exact Moves.pure ()
  | cons event events ih => exact Moves.bind (quiet_append ex _ _ _) fun _ => ih

theorem quiet_continueBody (locals : Locals) (pc : Pc) (reply : AdapterReply) :
    Moves Quiet (ex.continueBody locals pc reply) := by
  unfold WorkerExecutor.continueBody
  split
  · exact Moves.throw _
  · exact Moves.bind (Moves.orRaise _) fun _ => Moves.pure _
  · exact Moves.bind (quiet_appendEvents ex _ _ _) fun _ => Moves.pure _
  · exact Moves.throw _
  · exact Moves.pure _
  · exact Moves.throw _
  · exact Moves.bind (quiet_append ex _ _ _) fun _ => Moves.pure _
  · exact Moves.pure _
  · refine Moves.bind ?_ fun _ => Moves.throw _
    intro s
    rw [endState_assertActiveFencing]
    exact refl s

end

/-! ## What a segment does to the backend -/

/-- Segments act on the backend only through its methods. -/
def BackendEvolves (s s' : ExecState) : Prop :=
  InMemoryTaskBackend.Evolves s.stores.backend s'.stores.backend

instance : Std.Refl BackendEvolves where
  refl s := refl s.stores.backend

instance : IsTrans ExecState BackendEvolves where
  trans _ _ _ h h' := IsTrans.trans (r := InMemoryTaskBackend.Evolves) _ _ _ h h'

section

open InMemoryTaskBackend

theorem moves_taskBackend {α : Type} {m : BackendM α} (h : Moves InMemoryTaskBackend.Evolves m) :
    Moves BackendEvolves (taskBackend m) :=
  Moves.zoom (fun _ _ h => h) (Moves.raiseAs h)

theorem moves_runStore {α : Type} (m : StoreM α) : Moves BackendEvolves (runStore m) :=
  Moves.zoom (S := fun _ _ => True) (fun s _ _ => refl s.stores.backend) fun _ => trivial

theorem moves_modify {f : ExecState → ExecState}
    (h : ∀ s, (f s).stores.backend = s.stores.backend) :
    Moves BackendEvolves (modify f : ExecM Unit) := by
  intro s
  show Evolves s.stores.backend (f s).stores.backend
  rw [h s]
  exact refl s.stores.backend

theorem moves_clearActiveLease : Moves BackendEvolves clearActiveLease :=
  moves_modify fun _ => rfl

theorem moves_assertActiveFencing : Moves BackendEvolves assertActiveFencing := by
  intro s
  rw [endState_assertActiveFencing]
  exact refl s

variable (ex : WorkerExecutor)

theorem moves_append (origin : Origin) (runId attemptId : Int) (event : AgentEvent) :
    Moves BackendEvolves (ex.append origin runId attemptId event) := by
  intro s
  rcases endState_append ex origin runId attemptId event s with h | ⟨replayBuffer, h⟩ <;>
    · rw [h]
      exact refl s.stores.backend

theorem moves_emit (runId attemptId : Int) (type : String) (payload : PyDict) :
    Moves BackendEvolves (ex.emit runId attemptId type payload) :=
  moves_append ex _ _ _ _

variable (locals : Locals) (pc : Pc) (reply : AdapterReply)

theorem moves_giveUp (error : PyDict)
    (endAttempt endRun : Int → PyDict → StoreM Unit) (attemptEvent runEvent : String)
    (status : ExecutionStatus) :
    Moves BackendEvolves
      (ex.giveUp locals error endAttempt endRun attemptEvent runEvent status) := by
  have hretry : Moves InMemoryTaskBackend.Evolves (willRetry locals.leased.taskId) := by
    intro b
    rw [endState_willRetry]
    exact refl b
  refine Moves.bind moves_assertActiveFencing fun _ => ?_
  refine Moves.bind (moves_runStore _) fun _ => ?_
  refine Moves.bind (moves_emit ex _ _ _ _) fun _ => ?_
  refine Moves.bind (moves_taskBackend hretry) fun willRetry => ?_
  split
  · refine Moves.bind (moves_runStore _) fun _ => ?_
    refine Moves.bind (moves_emit ex _ _ _ _) fun _ => ?_
    refine Moves.bind (moves_emit ex _ _ _ _) fun _ => ?_
    exact Moves.bind (moves_taskBackend (moves_fail _ _ _ _)) fun _ =>
      Moves.bind moves_clearActiveLease fun _ => Moves.pure _
  · refine Moves.bind (moves_emit ex _ _ _ _) fun _ => ?_
    exact Moves.bind (moves_taskBackend (moves_fail _ _ _ _)) fun _ =>
      Moves.bind moves_clearActiveLease fun _ => Moves.pure _

theorem moves_handle (e : PyException) : Moves BackendEvolves (ex.handle locals e) := by
  unfold WorkerExecutor.handle
  cases e.kind with
  | staleFencingToken => exact Moves.bind moves_clearActiveLease fun _ => Moves.throw e
  | timeout | ordinary => exact moves_giveUp ex _ _ _ _ _ _ _
  | base => exact Moves.throw e

theorem moves_finish (result : AgentResult) : Moves BackendEvolves (ex.finish locals result) := by
  refine Moves.bind moves_assertActiveFencing fun _ => ?_
  refine Moves.bind (moves_runStore _) fun _ => ?_
  refine Moves.bind (moves_runStore _) fun _ => ?_
  refine Moves.bind (moves_emit ex _ _ _ _) fun _ => ?_
  refine Moves.bind (moves_emit ex _ _ _ _) fun _ => ?_
  refine Moves.bind (moves_taskBackend (moves_complete _ _ _)) fun _ => ?_
  exact Moves.bind moves_clearActiveLease fun _ => Moves.pure _

theorem moves_guarded {body : ExecM Body} (h : Moves BackendEvolves body) :
    Moves BackendEvolves (ex.guarded locals body) := by
  refine Moves.bind (Moves.attempt h) ?_
  intro outcome
  split
  · exact Moves.pure _
  · exact moves_finish ex _ _
  · exact moves_handle ex _ _

theorem moves_prepare : Moves BackendEvolves (ex.prepare locals) := by
  refine Moves.bind (moves_runStore _) fun _ => ?_
  refine Moves.bind (Moves.orRaise _) fun _ => ?_
  exact Moves.bind (moves_modify fun _ => rfl) fun _ => Moves.pure _

theorem moves_begin (leased : TaskSnapshot) : Moves BackendEvolves (ex.begin leased) := by
  refine Moves.bind (moves_taskBackend (moves_markRunning _ _ _)) fun _ => ?_
  refine Moves.bind (moves_modify fun _ => rfl) fun _ => ?_
  refine Moves.bind (moves_runStore _) fun _ => ?_
  refine Moves.bind (moves_emit ex _ _ _ _) fun _ => ?_
  exact moves_guarded ex _ (moves_prepare ex _)

theorem moves_start (now reapNow : Time) (queue : String) (leaseSeconds : Int) :
    Moves BackendEvolves (ex.start now reapNow queue leaseSeconds) := by
  refine Moves.bind (moves_taskBackend (moves_lease _ _ _ _ _)) ?_
  intro leased
  cases leased with
  | none => exact Moves.pure _
  | some leased => exact moves_begin ex leased

theorem moves_continueBody : Moves BackendEvolves (ex.continueBody locals pc reply) := by
  intro s
  unfold BackendEvolves
  rw [(quiet_continueBody ex locals pc reply s).backend]
  exact refl s.stores.backend

theorem moves_resume : Moves BackendEvolves (ex.resume locals pc reply) :=
  moves_guarded ex locals (moves_continueBody ex locals pc reply)

end

/-! ## The lease a suspended execution works under -/

/-- The segment leaves the lease in the executor's private fields. -/
def SameLease (s s' : ExecState) : Prop :=
  ∀ id w k, Under id w k s.active → Under id w k s'.active

instance : Std.Refl SameLease where
  refl _ := fun _ _ _ h => h

instance : IsTrans ExecState SameLease where
  trans _ _ _ h h' := fun id w k hunder => h' id w k (h id w k hunder)

section

variable (ex : WorkerExecutor)

theorem sameLease_runStore {α : Type} (m : StoreM α) : Moves SameLease (runStore m) :=
  Moves.zoom (S := fun _ _ => True) (fun _ _ _ => fun _ _ _ h => h) fun _ => trivial

theorem sameLease_emit (runId attemptId : Int) (type : String) (payload : PyDict) :
    Moves SameLease (ex.emit runId attemptId type payload) := by
  intro s
  rcases endState_append ex .executor runId attemptId { type := type, payload := payload } s with
    h | ⟨replayBuffer, h⟩ <;>
    · unfold WorkerExecutor.emit
      rw [h]
      exact fun _ _ _ hunder => hunder

theorem sameLease_prepare (locals : Locals) : Moves SameLease (ex.prepare locals) := by
  refine Moves.bind (sameLease_runStore _) fun _ => ?_
  refine Moves.bind (Moves.orRaise _) fun _ => ?_
  intro s id w k h
  exact ⟨h.taskId, h.workerId, h.fencingToken⟩

variable {locals locals' : Locals} {pc : Pc} {s' : ExecState} {leased : TaskSnapshot}
  {now reapNow : Time} {queue : String} {leaseSeconds : Int} {s : ExecState}

/-- No handler, and nothing after the `try` block, waits for the adapter again. -/
theorem giveUp_not_awaiting {error : PyDict} {endAttempt endRun : Int → PyDict → StoreM Unit}
    {attemptEvent runEvent : String} {status : ExecutionStatus} :
    (ex.giveUp locals error endAttempt endRun attemptEvent runEvent status).run s ≠
      .ok (.awaiting locals' pc) s' := by
  repeat refine run_bind_ne_ok fun _ _ => ?_
  split
  all_goals repeat refine run_bind_ne_ok fun _ _ => ?_
  all_goals simp

theorem handle_not_awaiting {e : PyException} :
    (ex.handle locals e).run s ≠ .ok (.awaiting locals' pc) s' := by
  unfold WorkerExecutor.handle
  cases e.kind with
  | staleFencingToken => simp [clearActiveLease]
  | timeout | ordinary => exact giveUp_not_awaiting ex
  | base => simp

theorem finish_not_awaiting {result : AgentResult} :
    (ex.finish locals result).run s ≠ .ok (.awaiting locals' pc) s' := by
  repeat refine run_bind_ne_ok fun _ _ => ?_
  simp

/-- A guarded piece waits exactly when the piece itself does. -/
theorem guarded_eq_awaiting {body : ExecM Body}
    (h : (ex.guarded locals body).run s = .ok (.awaiting locals' pc) s') :
    locals' = locals ∧ body.run s = .ok (.suspended pc) s' := by
  unfold WorkerExecutor.guarded at h
  rw [EStateM.run_bind, run_attempt] at h
  cases hbody : body.run s with
  | error e t =>
    rw [hbody] at h
    exact absurd h (handle_not_awaiting ex)
  | ok outcome t =>
    rw [hbody] at h
    cases outcome with
    | suspended pc' =>
      cases h
      exact ⟨rfl, rfl⟩
    | result result => exact absurd h (finish_not_awaiting ex)

/-- An execution that waits again still works under its lease. -/
theorem under_of_resume {pc' : Pc} {reply : AdapterReply} {id : Int} {w : String} {k : Int}
    (hunder : Under id w k s.active)
    (h : (ex.resume locals pc reply).run s = .ok (.awaiting locals' pc') s') :
    locals' = locals ∧ Under id w k s'.active := by
  obtain ⟨hlocals, hbody⟩ := guarded_eq_awaiting ex h
  have hquiet := (quiet_continueBody ex locals pc reply).of_ok hbody
  exact ⟨hlocals, hquiet.active ▸ hunder⟩

/-- An execution that comes to its first await works under the lease it took. -/
theorem under_of_begin (h : (ex.begin leased).run s = .ok (.awaiting locals pc) s') :
    locals.leased = leased ∧ Under leased.taskId ex.workerId leased.fencingToken s'.active := by
  obtain ⟨_, s₁, _, h⟩ := run_bind_eq_ok h
  obtain ⟨_, s₂, hactive, h⟩ := run_bind_eq_ok h
  obtain ⟨attempt, s₃, hattempt, h⟩ := run_bind_eq_ok h
  obtain ⟨_, s₄, hemit, h⟩ := run_bind_eq_ok h
  obtain ⟨rfl, hbody⟩ := guarded_eq_awaiting ex h
  -- the lease is in the private fields from the assignment on
  have h₂ : Under leased.taskId ex.workerId leased.fencingToken s₂.active := by
    cases hactive
    exact ⟨rfl, rfl, rfl⟩
  have h₃ := (sameLease_runStore _).of_ok hattempt
  have h₄ := (sameLease_emit ex _ _ _ _).of_ok hemit
  have h₅ := (sameLease_prepare ex _).of_ok hbody
  exact ⟨rfl, h₅ _ _ _ (h₄ _ _ _ (h₃ _ _ _ h₂))⟩

/-- `start` is the lease, then `begin` on what it returned. -/
theorem run_start_of_lease (h : (lease now reapNow queue ex.workerId leaseSeconds).run
      s.stores.backend = .ok (some leased) b) :
    (ex.start now reapNow queue leaseSeconds).run s =
      (ex.begin leased).run { s with stores := { s.stores with backend := b } } :=
  run_bind_of_ok (run_taskBackend_of_ok h)

/-- An execution that got to its first await took a lease. -/
theorem lease_of_start
    (h : (ex.start now reapNow queue leaseSeconds).run s = .ok (.awaiting locals pc) s') :
    ∃ leased b, (lease now reapNow queue ex.workerId leaseSeconds).run
        s.stores.backend = .ok (some leased) b ∧
      (ex.begin leased).run { s with stores := { s.stores with backend := b } } =
        .ok (.awaiting locals pc) s' := by
  cases hrun : (lease now reapNow queue ex.workerId leaseSeconds).run s.stores.backend with
  | error e b =>
    have hstart : (ex.start now reapNow queue leaseSeconds).run s = .error _ _ :=
      run_bind_of_error (run_taskBackend_of_error hrun)
    rw [hstart] at h
    simp at h
  | ok leased b =>
    cases leased with
    | none =>
      have hstart : (ex.start now reapNow queue leaseSeconds).run s = .ok (.returned none) _ :=
        run_bind_of_ok (run_taskBackend_of_ok hrun)
      rw [hstart] at h
      simp at h
    | some leased =>
      rw [run_start_of_lease ex hrun] at h
      exact ⟨leased, b, rfl, h⟩

theorem under_of_start (hsound : s.stores.backend.Sound)
    (h : (ex.start now reapNow queue leaseSeconds).run s = .ok (.awaiting locals pc) s') :
    Under locals.leased.taskId ex.workerId locals.leased.fencingToken s'.active ∧
      ∃ t, s'.stores.backend.tasks.get? locals.leased.taskId = some t ∧
        locals.leased.fencingToken ≤ t.fencingToken := by
  obtain ⟨leased, b, hrun, hbegin⟩ := lease_of_start ex h
  obtain ⟨rfl, hunder⟩ := under_of_begin ex hbegin
  refine ⟨hunder, ?_⟩
  -- the backend has the token of the lease, and tokens only grow afterwards
  obtain ⟨_, t, _, ht, _, _, _, htoken, _⟩ := token_lt_lease hsound hrun
  have hsound' : b.Sound := sound_lease hsound hrun
  have hevolves := moves_begin ex locals.leased
    { s with stores := { s.stores with backend := b } }
  rw [hbegin] at hevolves
  obtain ⟨t', ht', hle⟩ := (hevolves hsound').2 _ t ht
  refine ⟨t', ht', ?_⟩
  have hle' := hle.token_le
  omega

end

end DimooRun.Worker
