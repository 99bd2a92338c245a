/-
  Native/ConcurrentCreation.lean --- callers that create runs at the same time.

  Several calls of `create_task_run` are under way on one store. Each goes through
  the three parts of the method, and the parts of different calls come in any order.
  Between its reservation and its completion a call holds its scope: the record is
  there and has no response. The method treats a record without a response like no
  record at all, so one run per key depends on no second call coming in just then.
-/
import DimooRun.Native.IdempotentCreation

set_option autoImplicit false

namespace DimooRun.Native

open Foundation DimooRun.Runtime NativeRuntimeStore

/-- How far a call has come. -/
inductive Phase where
  | started
  | reserved (reservation : Option (IdempotencyReservation TaskRunIds))
  | created (reservation : Option (IdempotencyReservation TaskRunIds)) (run : NativeRun)
      (task : NativeTask)
  | returned (run : NativeRun) (task : NativeTask) (replayed : Bool)
  | raised (error : NativeError)

/-- A call of `create_task_run` under way. -/
structure Caller where
  call : CreateTaskRun
  phase : Phase := .started

/-- The store and the calls under way on it. -/
structure Callers where
  store : NativeRuntimeStore
  callers : List Caller

namespace Callers

section

variable (sha256 : List Char → String)

/-- The run and the task of a response. -/
def replay (response : TaskRunIds) : NativeM (NativeRun × NativeTask) := do
  let run ← runById response.runId
  let task ← taskById response.taskId
  pure (run, task)

/-- The next part of a call. -/
def advance (store : NativeRuntimeStore) (caller : Caller) : Phase × NativeRuntimeStore :=
  match caller.phase with
  | .started =>
      match (reserveKey sha256 caller.call).run store with
      | .error error store => (.raised error, store)
      | .ok reservation store =>
          match replayOf reservation with
          | none => (.reserved reservation, store)
          | some response =>
              match (replay response).run store with
              | .error error store => (.raised error, store)
              | .ok (run, task) store => (.returned run task true, store)
  | .reserved reservation =>
      match (createRunAndTask caller.call).run store with
      | .error error store => (.raised error, store)
      | .ok (run, task) store => (.created reservation run task, store)
  | .created reservation run task =>
      match (completeKey reservation run task).run store with
      | .error error store => (.raised error, store)
      | .ok _ store => (.returned run task (replayed reservation), store)
  | .returned run task replayed => (.returned run task replayed, store)
  | .raised error => (.raised error, store)

/-- One caller makes its next step. -/
def exec (state : Callers) (index : Nat) : Unit × Callers :=
  match state.callers[index]? with
  | none => ((), state)
  | some caller =>
      let (phase, store) := advance sha256 state.store caller
      ((), ⟨store, state.callers.set index { caller with phase := phase }⟩)

/-- Calls that are about to start on a new store. -/
def init (calls : List CreateTaskRun) : Callers := ⟨{}, calls.map fun call => { call := call }⟩

/-- The result of a call that is over. -/
def Phase.result : Phase → Option (Except NativeError (NativeRun × NativeTask × Bool))
  | .returned run task replayed => some (.ok (run, task, replayed))
  | .raised error => some (.error error)
  | _ => none

theorem exec_of_caller {state : Callers} {index : Nat} {caller : Caller}
    (h : state.callers[index]? = some caller) :
    exec sha256 state index = ((), ⟨(advance sha256 state.store caller).2, state.callers.set index
        { caller with phase := (advance sha256 state.store caller).1 }⟩) := by
  simp only [exec, h]

theorem exec_self {state : Callers} {index : Nat} {caller : Caller}
    (h : state.callers[index]? = some caller) :
    (exec sha256 state index).2.store = (advance sha256 state.store caller).2 ∧
      (exec sha256 state index).2.callers[index]? =
        some { caller with phase := (advance sha256 state.store caller).1 } := by
  have hlt : index < state.callers.length := (List.getElem?_eq_some_iff.mp h).1
  rw [exec_of_caller sha256 h]
  exact ⟨rfl, List.getElem?_set_self hlt⟩

/-- The three parts one after the other are `create_task_run`. -/
theorem advance_thrice (store : NativeRuntimeStore) (call : CreateTaskRun) :
    let first := advance sha256 store { call := call }
    let second := advance sha256 first.2 { call := call, phase := first.1 }
    let third := advance sha256 second.2 { call := call, phase := second.1 }
    third.2 = (NativeRuntimeStore.exec sha256 store call).2 ∧
      Phase.result third.1 = some (NativeRuntimeStore.exec sha256 store call).1 := by
  simp only [advance, NativeRuntimeStore.exec, createTaskRun, EStateM.run_bind]
  cases (reserveKey sha256 call).run store with
  | error error store₁ => exact ⟨rfl, rfl⟩
  | ok reservation store₁ =>
    dsimp only
    cases replayOf reservation with
    | some response =>
      simp only [replay, EStateM.run_bind]
      cases (runById response.runId).run store₁ with
      | error error store₂ => exact ⟨rfl, rfl⟩
      | ok run store₂ =>
        dsimp only
        cases (taskById response.taskId).run store₂ <;> exact ⟨rfl, rfl⟩
    | none =>
      obtain ⟨buffer, hcreate⟩ := run_createRunAndTask call store₁
      simp only [EStateM.run_bind, hcreate]
      cases (completeKey reservation (newRun call store₁.nextRunId)
          (newTask call store₁.nextRunId store₁.nextTaskId)).run (store₁.created call buffer) <;>
        exact ⟨rfl, rfl⟩

/-- A call that nobody interrupts is `create_task_run`. -/
theorem exec_thrice (state : Callers) (index : Nat) (call : CreateTaskRun)
    (hcaller : state.callers[index]? = some { call := call }) :
    let after := final (exec sha256) state [index, index, index]
    after.store = (NativeRuntimeStore.exec sha256 state.store call).2 ∧
      (after.callers[index]?).bind (fun caller => Phase.result caller.phase) =
        some (NativeRuntimeStore.exec sha256 state.store call).1 := by
  obtain ⟨hstore₁, hcaller₁⟩ := exec_self sha256 hcaller
  obtain ⟨hstore₂, hcaller₂⟩ := exec_self sha256 hcaller₁
  obtain ⟨hstore₃, hcaller₃⟩ := exec_self sha256 hcaller₂
  rw [hstore₁] at hstore₂ hcaller₂ hstore₃ hcaller₃
  rw [hstore₂] at hstore₃ hcaller₃
  obtain ⟨hstore, hresult⟩ := advance_thrice sha256 state.store call
  refine ⟨hstore₃.trans hstore, ?_⟩
  show ((exec sha256 _ index).2.callers[index]?).bind _ = _
  rw [hcaller₃]
  exact hresult

end

/-! ## What one step does -/

/-- The call is about to create. -/
def Phase.isReserved : Phase → Bool
  | .reserved _ => true
  | _ => false

/-- One if the scope has a record. -/
def recordCount (store : NativeRuntimeStore) (scope : IdempotencyScope) : Nat :=
  (store.idempotency.records.get? scope).isSome.toNat

section

variable (sha256 : List Char → String)

/-- A reservation that finds a record of the same body finds it completed. -/
def Settled (state : Callers) (index : Nat) : Prop :=
  ∀ caller scope text record, state.callers[index]? = some caller → caller.phase = .started →
    caller.call.scope = some scope → caller.call.canonical = .ok text →
    state.store.idempotency.records.get? scope = some record →
    record.requestHash = sha256 text → record.response ≠ none

theorem replay_keeps_store (response : TaskRunIds) (store : NativeRuntimeStore) :
    endState ((replay response).run store) = store := by
  unfold replay
  simp only [runById, taskById, EStateM.run_bind, EStateM.run_get]
  cases store.runs.get? response.runId with
  | none => rfl
  | some run =>
    cases htask : store.tasks.get? response.taskId <;>
      · simp only [EStateM.run_pure, htask]
        rfl

/-- The first part of a call, when no record is pending: nothing comes of it, or the call
has no key, or it gets a new record. -/
theorem advance_started {state : Callers} {index : Nat} {caller : Caller}
    (hcaller : state.callers[index]? = some caller) (hphase : caller.phase = .started)
    (hsettled : Settled sha256 state index) :
    ((advance sha256 state.store caller).2 = state.store ∧
        (Phase.isReserved (advance sha256 state.store caller).1 = false ∨
          caller.call.scope = none)) ∨
      ∃ scope text, caller.call.scope = some scope ∧
        state.store.idempotency.records.get? scope = none ∧
        (advance sha256 state.store caller).2 =
          { state.store with idempotency := state.store.idempotency.add scope (sha256 text) } := by
  cases hscope : caller.call.scope with
  | none =>
    have hreserve : (reserveKey sha256 caller.call).run state.store = .ok none state.store := by
      simp only [reserveKey, hscope]
      rfl
    refine .inl ?_
    simp only [advance, hphase, hreserve]
    exact ⟨rfl, Or.inr trivial⟩
  | some scope =>
    cases htext : caller.call.canonical with
    | error cls =>
      have hreserve : (reserveKey sha256 caller.call).run state.store = .error _ state.store :=
        reserveKey_of_unencodable sha256 hscope htext
      refine .inl ?_
      simp only [advance, hphase, hreserve]
      exact ⟨trivial, Or.inl rfl⟩
    | ok text =>
      have hreserve := run_reserveKey sha256 state.store hscope htext
      cases hrecord : state.store.idempotency.records.get? scope with
      | none =>
        simp only [hrecord] at hreserve
        refine .inr ⟨scope, text, rfl, hrecord, ?_⟩
        simp only [advance, hphase, hreserve]
        rfl
      | some record =>
        refine .inl ?_
        by_cases hsame : record.requestHash = sha256 text
        · obtain ⟨response, hresponse⟩ := Option.ne_none_iff_exists'.mp
            (hsettled caller scope text record hcaller hphase hscope htext hrecord hsame)
          simp only [hrecord, if_pos hsame] at hreserve
          have hkeep := replay_keeps_store response state.store
          cases hreplay : (replay response).run state.store with
          | error error store | ok result store =>
            rw [hreplay] at hkeep
            simp only [advance, hphase, hreserve, hresponse, replayOf, if_true, hreplay]
            exact ⟨hkeep, Or.inl rfl⟩
        · simp only [hrecord, if_neg hsame] at hreserve
          simp only [advance, hphase, hreserve]
          exact ⟨trivial, Or.inl rfl⟩

/-- The last part gives a record its response, or finds none. -/
theorem endState_completeKey (reservation : Option (IdempotencyReservation TaskRunIds))
    (run : NativeRun) (task : NativeTask) (store : NativeRuntimeStore) :
    ∃ idempotency, endState ((completeKey reservation run task).run store) =
        { store with idempotency := idempotency } ∧
      ∀ scope, (idempotency.records.get? scope).isSome =
        (store.idempotency.records.get? scope).isSome := by
  cases reservation with
  | none => exact ⟨store.idempotency, rfl, fun _ => rfl⟩
  | some reservation =>
    refine ⟨endState ((IdempotencyStore.complete reservation.recordId ⟨run.id, task.id⟩).run
      store.idempotency), ?_, fun scope => ?_⟩
    · unfold completeKey
      rw [run_withIdempotency]
      cases (IdempotencyStore.complete reservation.recordId _).run store.idempotency <;> rfl
    · simp only [EStateM.run, IdempotencyStore.complete]
      split
      · rename_i e hfind
        rw [endState_ok, IdempotencyStore.get?_settle]
        split
        · rename_i hscope
          rw [hscope, IdempotencyStore.get?_of_find? hfind]
          rfl
        · rfl
      · rfl

end

/-! ## One run for one key -/

/-- One step of a history. -/
abbrev StepEntry : Type := Entry Callers Nat Unit

/-- The step was made by a call with the scope and the canonical body. -/
def StepOf (scope : IdempotencyScope) (text : List Char) (e : StepEntry) : Prop :=
  ∃ caller, e.before.callers[e.call]? = some caller ∧ InGroup scope text caller.call

instance (scope : IdempotencyScope) (text : List Char) (e : StepEntry) :
    Decidable (StepOf scope text e) :=
  match h : e.before.callers[e.call]? with
  | none => .isFalse (by simp [StepOf, h])
  | some caller => decidable_of_iff (InGroup scope text caller.call) (by simp [StepOf, h])

section

variable (size : NativeRuntimeStore → Nat) (history : List StepEntry) (state : Callers)

/-- By how much the calls with the scope and the canonical body enlarged the store. -/
def made (scope : IdempotencyScope) (text : List Char) (history : List StepEntry) : Int :=
  (history.map fun e =>
    if StepOf scope text e then (size e.after.store : Int) - size e.before.store else 0).sum

/-- The calls that are about to create under a scope. -/
def waiting (scope : IdempotencyScope) : Nat :=
  state.callers.countP fun caller =>
    decide (caller.call.scope = some scope) && Phase.isReserved caller.phase

/-- What a history without pending records and the state it leads to have in common: the
record of a scope pays for one run, made or about to be made. -/
structure OneEach : Prop where
  runIds : ∀ runId run, state.store.runs.get? runId = some run → runId < state.store.nextRunId
  taskIds : ∀ taskId task, state.store.tasks.get? taskId = some task →
    taskId < state.store.nextTaskId
  paid : ∀ scope text, made size scope text history + waiting state scope ≤
    recordCount state.store scope

end

variable (size : NativeRuntimeStore → Nat)

theorem oneEach_init (calls : List CreateTaskRun) : OneEach size [] (init calls) := by
  refine ⟨by simp [init], by simp [init], fun scope text => ?_⟩
  have hnone : waiting (init calls) scope = 0 := by
    simp [waiting, init, Phase.isReserved]
  rw [hnone]
  simp [made, init, recordCount]

theorem made_append (scope : IdempotencyScope)
    (text : List Char) (history : List StepEntry) (e : StepEntry) :
    made size scope text (history ++ [e]) = made size scope text history +
      if StepOf scope text e then (size e.after.store : Int) - size e.before.store else 0 := by
  simp [made]

section

variable {sha256 : List Char → String} {size : NativeRuntimeStore → Nat}
  {history : List StepEntry} {state : Callers} {index : Nat} {caller : Caller}

theorem waiting_exec (sha256 : List Char → String)
    (hcaller : state.callers[index]? = some caller) (scope : IdempotencyScope) :
    waiting (exec sha256 state index).2 scope +
        (decide (caller.call.scope = some scope) && Phase.isReserved caller.phase).toNat =
      waiting state scope + (decide (caller.call.scope = some scope) &&
        Phase.isReserved (advance sha256 state.store caller).1).toNat := by
  obtain ⟨hlt, hget⟩ := List.getElem?_eq_some_iff.mp hcaller
  have hpos : (decide (caller.call.scope = some scope) && Phase.isReserved caller.phase) = true →
      0 < waiting state scope :=
    fun h => List.countP_pos_iff.mpr ⟨caller, List.mem_of_getElem? hcaller, h⟩
  rw [exec_of_caller sha256 hcaller]
  unfold waiting at hpos ⊢
  rw [List.countP_set hlt, hget]
  generalize state.callers.countP _ = count at hpos ⊢
  generalize (decide (caller.call.scope = some scope) && Phase.isReserved caller.phase) = old
    at hpos ⊢
  cases old <;> cases decide (caller.call.scope = some scope) &&
      Phase.isReserved (advance sha256 state.store caller).1 <;>
    simp at hpos ⊢ <;> omega

section

variable (h : OneEach size history state)
include h

/-- What a step has to keep: the ids and the records, and it makes no run, and does not get
about to make one, without paying for it. -/
theorem OneEach.of_advance (hcaller : state.callers[index]? = some caller)
    {store : NativeRuntimeStore} (hadvance : (advance sha256 state.store caller).2 = store)
    (hruns : ∀ runId run, store.runs.get? runId = some run → runId < store.nextRunId)
    (htasks : ∀ taskId task, store.tasks.get? taskId = some task → taskId < store.nextTaskId)
    (hrecords : ∀ scope, recordCount state.store scope ≤ recordCount store scope)
    (hgrows : size state.store ≤ size store)
    (hpays : ∀ scope, caller.call.scope = some scope →
      size store + (Phase.isReserved (advance sha256 state.store caller).1).toNat +
          recordCount state.store scope ≤
        size state.store + (Phase.isReserved caller.phase).toNat + recordCount store scope) :
    OneEach size (history ++ [entry (exec sha256) state index]) (exec sha256 state index).2 := by
  have hstore : (exec sha256 state index).2.store = store :=
    (exec_self sha256 hcaller).1.trans hadvance
  refine ⟨by rwa [hstore], by rwa [hstore], fun scope text => ?_⟩
  have hpaid := h.paid scope text
  have hwaiting := waiting_exec sha256 hcaller scope
  have hmade : made size scope text (history ++ [entry (exec sha256) state index]) ≤
      made size scope text history +
        if caller.call.scope = some scope then (size store : Int) - size state.store else 0 := by
    rw [made_append]
    by_cases hstep : StepOf scope text (entry (exec sha256) state index)
    · obtain ⟨caller', hcaller', hgroup⟩ := id hstep
      cases hcaller.symm.trans hcaller'
      rw [if_pos hstep, if_pos hgroup.1, ← hstore]
      exact le_rfl
    · rw [if_neg hstep]
      split <;> omega
  rw [hstore]
  by_cases hscope : caller.call.scope = some scope
  · have hpays := hpays scope hscope
    simp only [hscope, decide_true, Bool.true_and] at hwaiting hmade
    omega
  · have hrecords := hrecords scope
    simp only [hscope, decide_false, Bool.false_and, if_false] at hwaiting hmade
    omega

/-- A step that leaves the store alone, after which the call is not about to create. -/
theorem OneEach.idle (hcaller : state.callers[index]? = some caller)
    (hstore : (advance sha256 state.store caller).2 = state.store)
    (hphase : Phase.isReserved (advance sha256 state.store caller).1 = false ∨
      caller.call.scope = none) :
    OneEach size (history ++ [entry (exec sha256) state index]) (exec sha256 state index).2 := by
  refine h.of_advance hcaller hstore h.runIds h.taskIds (fun _ => le_rfl) le_rfl ?_
  intro scope hscope
  rcases hphase with hphase | hkeyless
  · rw [hphase, Bool.toNat_false]
    omega
  · cases hkeyless.symm.trans hscope

/-- Every step that finds no pending record keeps one run to one key. -/
theorem OneEach.step (hsize : CountsCreations size) (hsettled : Settled sha256 state index) :
    OneEach size (history ++ [entry (exec sha256) state index]) (exec sha256 state index).2 := by
  cases hcaller : state.callers[index]? with
  | none =>
    have hexec : exec sha256 state index = ((), state) := by
      simp only [exec, hcaller]
    rw [hexec]
    refine ⟨h.runIds, h.taskIds, fun scope text => ?_⟩
    have hstep : ¬ StepOf scope text (entry (exec sha256) state index) := by
      rintro ⟨caller, hsome, _⟩
      cases hcaller.symm.trans hsome
    rw [made_append, if_neg hstep, Int.add_zero]
    exact h.paid scope text
  | some caller =>
    cases hphase : caller.phase with
    | started =>
      rcases advance_started sha256 hcaller hphase hsettled with
        ⟨hstore, hidle⟩ | ⟨scope, text, hscope, hnone, hstore⟩
      · exact h.idle hcaller hstore hidle
      · -- the new record pays for the creation that is to come
        have hadded : ∀ scope', recordCount
            { state.store with idempotency := state.store.idempotency.add scope (sha256 text) }
              scope' = if scope' = scope then 1 else recordCount state.store scope' := by
          intro scope'
          unfold recordCount
          rw [IdempotencyStore.get?_add]
          split <;> rfl
        have hnone : recordCount state.store scope = 0 := by
          unfold recordCount
          rw [hnone]
          rfl
        refine h.of_advance hcaller hstore h.runIds h.taskIds (fun scope' => ?_)
          (hsize.idempotency _ _).ge fun scope' hscope' => ?_
        · rw [hadded]
          split
          · rename_i heq
            rw [heq, hnone]
            exact Nat.zero_le 1
          · exact le_rfl
        · cases hscope.symm.trans hscope'
          rw [hadded, if_pos rfl, hsize.idempotency]
          have hle := Bool.toNat_le (Phase.isReserved (advance sha256 state.store caller).1)
          omega
    | reserved reservation =>
      obtain ⟨buffer, hcreate⟩ := run_createRunAndTask caller.call state.store
      have hadvance : (advance sha256 state.store caller).2 =
            state.store.created caller.call buffer ∧
          Phase.isReserved (advance sha256 state.store caller).1 = false := by
        simp only [advance, hphase, hcreate]
        exact ⟨trivial, rfl⟩
      have hmore : size (state.store.created caller.call buffer) = size state.store + 1 :=
        hsize.created _ _ _ (get?_next_eq_none h.runIds) (get?_next_eq_none h.taskIds)
      refine h.of_advance hcaller hadvance.1 (below_next_set h.runIds) (below_next_set h.taskIds)
        (fun _ => le_rfl) (by omega) fun scope _ => ?_
      rw [hmore, hphase, hadvance.2]
      exact le_rfl
    | created reservation run task =>
      obtain ⟨idempotency, hend, hrecords⟩ := endState_completeKey reservation run task state.store
      have hadvance : (advance sha256 state.store caller).2 =
            { state.store with idempotency := idempotency } ∧
          Phase.isReserved (advance sha256 state.store caller).1 = false := by
        simp only [advance, hphase]
        cases hrun : (completeKey reservation run task).run state.store <;>
          · rw [hrun] at hend
            exact ⟨hend, rfl⟩
      have hsame : ∀ scope, recordCount { state.store with idempotency := idempotency } scope =
          recordCount state.store scope := fun scope => congrArg Bool.toNat (hrecords scope)
      refine h.of_advance hcaller hadvance.1 h.runIds h.taskIds
        (fun scope => (hsame scope).ge) (hsize.idempotency _ _).ge fun scope _ => ?_
      rw [hsame, hsize.idempotency, hadvance.2, Bool.toNat_false]
      omega
    | returned run task replayed | raised error =>
      refine h.idle hcaller (by simp only [advance, hphase]) (Or.inl ?_)
      simp only [advance, hphase]
      rfl

end

end

/-- In every interleaving of any calls in which no reservation finds a pending record of
the same body, the calls with one scope and one canonical body make at most one run and
one task between them. -/
theorem at_most_one_run_of_settled (sha256 : List Char → String) (calls : List CreateTaskRun)
    (schedule : List Nat)
    (h : Admitted (exec sha256) (Settled sha256) (init calls) schedule)
    (scope : IdempotencyScope) (text : List Char) :
    let history := trace (exec sha256) (init calls) schedule
    made (fun store => store.runs.size) scope text history ≤ 1 ∧
      made (fun store => store.tasks.size) scope text history ≤ 1 := by
  intro history
  have hone : ∀ size, CountsCreations size → made size scope text history ≤ 1 := by
    intro size hsize
    have hfinal := history_induction (exec sha256) (J := OneEach size)
      (fun _ _ _ hsettled hone => hone.step hsize hsettled) schedule [] (init calls)
      (oneEach_init size calls) h
    have hpaid : made size scope text history + _ ≤ _ := hfinal.paid scope text
    have hle : recordCount (final (exec sha256) (init calls) schedule).store scope ≤ 1 :=
      Bool.toNat_le _
    omega
  exact ⟨hone _ counts_runs, hone _ counts_tasks⟩

theorem settled_of_completed {sha256 : List Char → String} {state : Callers}
    (h : ∀ e ∈ state.store.idempotency.records.entries, e.2.response ≠ none) (index : Nat) :
    Settled sha256 state index := by
  intro caller scope text record _ _ _ _ hrecord _
  exact h (scope, record) ((Dict.get?_eq_some_iff _).mp hrecord)

theorem settled_of_underway {sha256 : List Char → String} {state : Callers} {index : Nat}
    {caller : Caller} (hcaller : state.callers[index]? = some caller)
    (h : caller.phase ≠ .started) : Settled sha256 state index := by
  intro caller' scope text record hcaller' hphase _ _ _ _
  cases hcaller.symm.trans hcaller'
  exact absurd hphase h

/-- The same call twice. -/
def twice : List CreateTaskRun := [submit [("a", .int 1)], submit [("a", .int 1)]]

theorem at_most_one_run_of_settled_in_turn :
    let history := trace (exec String.ofList) (init twice) [0, 0, 0, 1, 1, 1]
    made (fun store => store.runs.size) submitScope "\x7b\"a\":1\x7d".toList history ≤ 1 ∧
      made (fun store => store.tasks.size) submitScope "\x7b\"a\":1\x7d".toList history ≤ 1 := by
  refine at_most_one_run_of_settled String.ofList twice [0, 0, 0, 1, 1, 1] ?_ submitScope _
  exact ⟨settled_of_completed (by decide) 0, settled_of_underway rfl nofun,
    settled_of_underway rfl nofun, settled_of_completed (by decide) 1,
    settled_of_completed (by decide) 1, settled_of_completed (by decide) 1, trivial⟩

/-- When the second call comes in before the first has completed, each makes a run. -/
theorem two_runs_for_one_key :
    let history := trace (exec String.ofList) (init twice) [0, 1, 0, 1, 0, 1]
    made (fun store => store.runs.size) submitScope "\x7b\"a\":1\x7d".toList history = 2 ∧
      made (fun store => store.tasks.size) submitScope "\x7b\"a\":1\x7d".toList history = 2 := by
  decide

end Callers

end DimooRun.Native
