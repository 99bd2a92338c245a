/-
  Native/IdempotentCreation.lean --- one run for one idempotency key.

  For calls of `create_task_run` that follow one another, the records of the
  idempotency store are a summary of the history: a scope has a record exactly when
  a call used it, and the record has the body hash, the run and the task of the first
  such call. Everything a later call does is read off that record.
-/
import Mathlib.Algebra.Ring.Int.Defs
import DimooRun.Native.Store

set_option autoImplicit false

namespace DimooRun.Native

open Foundation DimooRun.Runtime
open Scheduler (Time)
open Streaming IdempotencyStore

namespace NativeRuntimeStore

/-! ## The parts of the call -/

/-- The store after the creation of a run and its task. -/
def created (store : NativeRuntimeStore) (call : CreateTaskRun) (buffer : ReplayBuffer) :
    NativeRuntimeStore :=
  { store with
    nextRunId := store.nextRunId + 1
    nextTaskId := store.nextTaskId + 1
    runs := store.runs.set store.nextRunId (newRun call store.nextRunId)
    tasks := store.tasks.set store.nextTaskId (newTask call store.nextRunId store.nextTaskId)
    replayBuffer := buffer }

theorem run_createRunAndTask (call : CreateTaskRun) (store : NativeRuntimeStore) :
    ∃ buffer, (createRunAndTask call).run store =
      .ok (newRun call store.nextRunId, newTask call store.nextRunId store.nextTaskId)
        (store.created call buffer) := by
  obtain ⟨buffer₁, h₁⟩ := run_appendEvent
    { type := "run.created", payload := [("task_id", .int store.nextTaskId)] }
    (encodable_taskId store.nextTaskId) store.nextRunId (store.created call store.replayBuffer)
  obtain ⟨buffer₂, h₂⟩ := run_appendEvent
    { type := "task.queued", payload := [("task_id", .int store.nextTaskId)] }
    (encodable_taskId store.nextTaskId) store.nextRunId (store.created call buffer₁)
  exact ⟨buffer₂, (run_bind_of_ok h₁).trans (run_bind_of_ok h₂)⟩

theorem run_withIdempotency {α : Type}
    (m : EStateM IdempotencyError (IdempotencyStore TaskRunIds) α) (store : NativeRuntimeStore) :
    (withIdempotency m).run store =
      match m.run store.idempotency with
      | .ok a idempotency => .ok a { store with idempotency := idempotency }
      | .error e idempotency =>
          .error (.idempotency e) { store with idempotency := idempotency } := by
  unfold withIdempotency
  rw [run_zoom, run_raiseAs]
  cases m.run store.idempotency <;> rfl

section

variable (sha256 : List Char → String) {call : CreateTaskRun} {store : NativeRuntimeStore}
  {scope : IdempotencyScope} {text : List Char}

theorem reserveKey_of_unencodable (hscope : call.scope = some scope) {cls : String}
    (htext : call.canonical = .error cls) :
    (reserveKey sha256 call).run store = .error (.typeError cls) store := by
  simp only [reserveKey, hscope, stableHash, htext]
  rfl

theorem run_reserveKey (store : NativeRuntimeStore) (hscope : call.scope = some scope)
    (htext : call.canonical = .ok text) :
    (reserveKey sha256 call).run store =
      match store.idempotency.records.get? scope with
      | none =>
          .ok (some { recordId := store.idempotency.nextId, isReplay := false })
            { store with idempotency := store.idempotency.add scope (sha256 text) }
      | some record =>
          if record.requestHash = sha256 text then
            .ok (some { recordId := record.recordId, isReplay := true, response := record.response })
              store
          else .error (.idempotency (.conflict scope.idempotencyKey)) store := by
  have hreserve := run_withIdempotency (reserve scope (sha256 text)) store
  simp only [reserveKey, hscope, stableHash, htext]
  refine (run_bind_of_ok (run_orRaise_ok _ _)).trans ?_
  cases hrecord : store.idempotency.records.get? scope with
  | none =>
    rw [run_reserve_of_none hrecord] at hreserve
    exact run_bind_of_ok hreserve
  | some record =>
    rw [run_reserve_of_some hrecord] at hreserve
    by_cases hsame : record.requestHash = sha256 text
    · simp only [if_pos hsame] at hreserve ⊢
      exact run_bind_of_ok hreserve
    · simp only [if_neg hsame] at hreserve ⊢
      exact run_bind_of_error hreserve

end

section

variable (sha256 : List Char → String) (store : NativeRuntimeStore) (call : CreateTaskRun)

theorem run_completeKey {scope : IdempotencyScope} {record : IdempotencyRecord TaskRunIds}
    (hrecord : store.idempotency.records.get? scope = some record) (isReplay : Bool)
    (response : Option TaskRunIds) (run : NativeRun) (task : NativeTask) :
    (completeKey (some ⟨record.recordId, isReplay, response⟩) run task).run store =
      .ok () { store with
        idempotency := store.idempotency.settle scope record hrecord ⟨run.id, task.id⟩ } := by
  have hcomplete := run_withIdempotency (complete record.recordId ⟨run.id, task.id⟩) store
  rw [run_complete hrecord] at hcomplete
  exact hcomplete

/-! ## The whole call -/

/-- One call, as seen from outside. -/
def exec : Except NativeError (NativeRun × NativeTask × Bool) × NativeRuntimeStore :=
  (report ((createTaskRun sha256 call).run store), endState ((createTaskRun sha256 call).run store))

/-- The store after the first call with a key. -/
def recorded (scope : IdempotencyScope) (requestHash : String)
    (response : TaskRunIds) : IdempotencyStore TaskRunIds :=
  (store.idempotency.add scope requestHash).settle scope
    { recordId := store.idempotency.nextId, requestHash := requestHash }
    (by rw [get?_add, if_pos rfl]) response

theorem get?_recorded (scope scope' : IdempotencyScope)
    (requestHash : String) (response : TaskRunIds) :
    (store.recorded scope requestHash response).records.get? scope' =
      if scope' = scope then
        some
          { recordId := store.idempotency.nextId
            requestHash := requestHash
            status := .completed
            response := some response }
      else store.idempotency.records.get? scope' := by
  unfold recorded
  rw [get?_settle]
  split
  · rfl
  · rename_i hother
    rw [get?_add, if_neg hother]

/-- The call creates a run and a task, and leaves a record of both under its key. -/
structure Creates (buffer : ReplayBuffer) (idempotency : IdempotencyStore TaskRunIds) : Prop where
  exec_eq : exec sha256 store call =
    (.ok (newRun call store.nextRunId, newTask call store.nextRunId store.nextTaskId, false),
      { store.created call buffer with idempotency := idempotency })
  others : ∀ scope, call.scope ≠ some scope →
    idempotency.records.get? scope = store.idempotency.records.get? scope
  own : ∀ scope, call.scope = some scope → store.idempotency.records.get? scope = none ∧
    ∃ text, call.canonical = .ok text ∧ idempotency.records.get? scope = some
      { recordId := store.idempotency.nextId
        requestHash := sha256 text
        status := .completed
        response := some ⟨store.nextRunId, store.nextTaskId⟩ }

end

section

variable (sha256 : List Char → String) {call : CreateTaskRun} {store : NativeRuntimeStore}
  {scope : IdempotencyScope} {text : List Char} {record : IdempotencyRecord TaskRunIds}

/-- Without a key every call creates. -/
theorem creates_of_no_key (hscope : call.scope = none) :
    ∃ buffer, Creates sha256 store call buffer store.idempotency := by
  obtain ⟨buffer, hcreate⟩ := run_createRunAndTask call store
  have hreserve : (reserveKey sha256 call).run store = .ok none store := by
    simp only [reserveKey, hscope]
    rfl
  have hcall : (createTaskRun sha256 call).run store =
      .ok (newRun call store.nextRunId, newTask call store.nextRunId store.nextTaskId, false)
        (store.created call buffer) :=
    (run_bind_of_ok hreserve).trans (run_bind_of_ok hcreate)
  refine ⟨buffer, ?_, fun _ _ => rfl, fun scope hsome => ?_⟩
  · rw [exec, hcall]
    rfl
  · cases hscope.symm.trans hsome

section

variable (hscope : call.scope = some scope)
include hscope

theorem exec_of_unencodable {cls : String} (htext : call.canonical = .error cls) :
    exec sha256 store call = (.error (.typeError cls), store) := by
  have hcall : (createTaskRun sha256 call).run store = .error (.typeError cls) store :=
    run_bind_of_error (reserveKey_of_unencodable sha256 hscope htext)
  rw [exec, hcall]
  rfl

/-- The first call with a key creates. -/
theorem creates_of_first (htext : call.canonical = .ok text)
    (hrecord : store.idempotency.records.get? scope = none) :
    ∃ buffer, Creates sha256 store call buffer
      (store.recorded scope (sha256 text) ⟨store.nextRunId, store.nextTaskId⟩) := by
  have hreserve := run_reserveKey sha256 store hscope htext
  simp only [hrecord] at hreserve
  obtain ⟨buffer, hcreate⟩ := run_createRunAndTask call
    { store with idempotency := store.idempotency.add scope (sha256 text) }
  have hadded : (store.idempotency.add scope (sha256 text)).records.get? scope =
      some { recordId := store.idempotency.nextId, requestHash := sha256 text } := by
    rw [get?_add, if_pos rfl]
  have hcomplete := run_completeKey
    (NativeRuntimeStore.created
      { store with idempotency := store.idempotency.add scope (sha256 text) } call buffer)
    hadded false none (newRun call store.nextRunId)
    (newTask call store.nextRunId store.nextTaskId)
  have hcall : (createTaskRun sha256 call).run store =
      .ok (newRun call store.nextRunId, newTask call store.nextRunId store.nextTaskId, false)
        { store.created call buffer with
          idempotency := store.recorded scope (sha256 text) ⟨store.nextRunId, store.nextTaskId⟩ } :=
    (run_bind_of_ok hreserve).trans ((run_bind_of_ok hcreate).trans (run_bind_of_ok hcomplete))
  refine ⟨buffer, ?_, fun scope' hother => ?_, fun scope' hsame => ?_⟩
  · rw [exec, hcall]
    rfl
  · rw [get?_recorded, if_neg]
    rintro rfl
    exact hother hscope
  · cases hscope.symm.trans hsame
    exact ⟨hrecord, text, htext, by rw [get?_recorded, if_pos rfl]⟩

/-- A later call gets the run and the task of the record if its body is equal, and is refused if
it is another. -/
theorem exec_of_recorded (htext : call.canonical = .ok text)
    (hrecord : store.idempotency.records.get? scope = some record) {run : NativeRun}
    {task : NativeTask} (hresponse : record.response = some ⟨run.id, task.id⟩)
    (hrun : store.runs.get? run.id = some run) (htask : store.tasks.get? task.id = some task) :
    exec sha256 store call = (if record.requestHash = sha256 text then .ok (run, task, true)
        else .error (.idempotency (.conflict scope.idempotencyKey)), store) := by
  have hreserve := run_reserveKey sha256 store hscope htext
  simp only [hrecord, hresponse] at hreserve
  unfold exec
  by_cases hsame : record.requestHash = sha256 text
  · have hcall : (createTaskRun sha256 call).run store = .ok (run, task, true) store :=
      (run_bind_of_ok (hreserve.trans (if_pos hsame))).trans
        ((run_bind_of_ok (run_runById_of_some hrun)).trans
          (run_bind_of_ok (run_taskById_of_some htask)))
    rw [hcall, if_pos hsame]
    rfl
  · have hcall : (createTaskRun sha256 call).run store =
        .error (.idempotency (.conflict scope.idempotencyKey)) store :=
      run_bind_of_error (hreserve.trans (if_neg hsame))
    rw [hcall, if_neg hsame]
    rfl

end

end

/-! ## Histories -/

/-- One call of a history. -/
abbrev CreateEntry : Type :=
  Entry NativeRuntimeStore CreateTaskRun (Except NativeError (NativeRun × NativeTask × Bool))

/-- The call reserves the scope, with a body that has a canonical text. -/
def Uses (scope : IdempotencyScope) (call : CreateTaskRun) : Prop :=
  call.scope = some scope ∧ call.canonical.isOk = true

instance (scope : IdempotencyScope) (call : CreateTaskRun) : Decidable (Uses scope call) :=
  inferInstanceAs (Decidable (_ ∧ _))

/-- The first call of a history that reserved the scope. -/
def firstUse (scope : IdempotencyScope) (history : List CreateEntry) : Option CreateEntry :=
  history.find? fun e => Uses scope e.call

section

variable (sha256 : List Char → String) (history : List CreateEntry) (store : NativeRuntimeStore)

/-- What the record of a scope keeps of the first call that used it. -/
def Describes (record : IdempotencyRecord TaskRunIds) (first : CreateEntry) : Prop :=
  ∃ text run task, first.call.canonical = .ok text ∧ first.reply = .ok (run, task, false) ∧
    record.requestHash = sha256 text ∧ record.response = some ⟨run.id, task.id⟩ ∧
    store.runs.get? run.id = some run ∧ store.tasks.get? task.id = some task

/-- The run and the task of a scope. -/
def response (scope : IdempotencyScope) : Option TaskRunIds :=
  (store.idempotency.records.get? scope).bind IdempotencyRecord.response

/-- What a history and the store it leads to have in common. -/
structure Ledger : Prop where
  runIds : ∀ runId run, store.runs.get? runId = some run → runId < store.nextRunId
  taskIds : ∀ taskId task, store.tasks.get? taskId = some task → taskId < store.nextTaskId
  records : ∀ scope, Option.Rel (Describes sha256 store) (store.idempotency.records.get? scope)
    (firstUse scope history)
  apart : ∀ scope scope' ids ids', store.response scope = some ids →
    store.response scope' = some ids' → scope ≠ scope' →
      ids.runId ≠ ids'.runId ∧ ids.taskId ≠ ids'.taskId

theorem ledger_init : Ledger sha256 [] {} where
  runIds := by simp
  taskIds := by simp
  records := fun _ => .none
  apart := by simp [response, init]

end

variable {scope : IdempotencyScope} {history : List CreateEntry}

theorem firstUse_append (scope : IdempotencyScope) (history : List CreateEntry) (e : CreateEntry) :
    firstUse scope (history ++ [e]) =
      (firstUse scope history).or (if Uses scope e.call then some e else none) := by
  unfold firstUse
  by_cases huses : Uses scope e.call <;> simp

/-! ### Ids below the next one -/

section

variable {ν : Type} {d : Dict Int ν} {next : Int} {value : ν}

theorem below_next_set (h : ∀ id v, d.get? id = some v → id < next) :
    ∀ id v, (d.set next value).get? id = some v → id < next + 1 :=
  Dict.forall_get?_set (Int.lt_succ next) fun id v hget => Int.lt_add_one_of_le (h id v hget).le

theorem get?_next_eq_none (h : ∀ id v, d.get? id = some v → id < next) : d.get? next = none :=
  Option.eq_none_iff_forall_ne_some.mpr fun v hv => absurd (h next v hv) (Int.lt_irrefl _)

theorem get?_set_next (h : ∀ id v, d.get? id = some v → id < next) (id : Int) (v : ν)
    (hv : d.get? id = some v) : (d.set next value).get? id = some v :=
  (Dict.get?_set_ne _ _ (h id v hv).ne).trans hv

end

section

variable {sha256 : List Char → String} {history : List CreateEntry} {store : NativeRuntimeStore}
  {call : CreateTaskRun} {record : IdempotencyRecord TaskRunIds}

section

variable (h : Ledger sha256 history store)
include h

theorem Ledger.unused_iff :
    store.idempotency.records.get? scope = none ↔ firstUse scope history = none := by
  have hrecord := h.records scope
  generalize store.idempotency.records.get? scope = record at hrecord ⊢
  generalize firstUse scope history = first at hrecord ⊢
  cases hrecord <;> simp

theorem Ledger.used {first : CreateEntry} (hfirst : firstUse scope history = some first) :
    ∃ record, store.idempotency.records.get? scope = some record ∧
      Describes sha256 store record first := by
  have hrecord := h.records scope
  rw [hfirst] at hrecord
  generalize store.idempotency.records.get? scope = record at hrecord ⊢
  cases hrecord with
  | some hdescribes => exact ⟨_, rfl, hdescribes⟩

/-- A call that changes nothing and uses a scope only where it has been used. -/
theorem Ledger.unchanged {reply : Except NativeError (NativeRun × NativeTask × Bool)}
    (hexec : exec sha256 store call = (reply, store))
    (huses : ∀ scope, Uses scope call → firstUse scope history ≠ none) :
    Ledger sha256 (history ++ [entry (exec sha256) store call]) (exec sha256 store call).2 := by
  rw [congrArg Prod.snd hexec]
  refine ⟨h.runIds, h.taskIds, fun scope => ?_, h.apart⟩
  have hfirst : firstUse scope (history ++ [entry (exec sha256) store call]) =
      firstUse scope history := by
    rw [firstUse_append]
    cases hfirst : firstUse scope history with
    | none => exact if_neg fun huse => huses scope huse hfirst
    | some first => rfl
  exact hfirst ▸ h.records scope

/-- The ids of a record are ids of the tables. -/
theorem Ledger.ids_lt {ids : TaskRunIds} (hids : store.response scope = some ids) :
    ids.runId < store.nextRunId ∧ ids.taskId < store.nextTaskId := by
  have hrecord := h.records scope
  unfold response at hids
  generalize store.idempotency.records.get? scope = record at hrecord hids
  generalize firstUse scope history = first at hrecord
  cases hrecord with
  | none => cases hids
  | some hdescribes =>
    obtain ⟨text, run, task, _, _, _, hresponse, hrun, htask⟩ := hdescribes
    cases hresponse.symm.trans hids
    exact ⟨h.runIds _ _ hrun, h.taskIds _ _ htask⟩

theorem Ledger.creates {buffer : ReplayBuffer} {idempotency : IdempotencyStore TaskRunIds}
    (hcreates : Creates sha256 store call buffer idempotency) :
    Ledger sha256 (history ++ [entry (exec sha256) store call]) (exec sha256 store call).2 := by
  have hresponse : ∀ scope, (exec sha256 store call).2.response scope =
      if call.scope = some scope then some ⟨store.nextRunId, store.nextTaskId⟩
      else store.response scope := by
    intro scope
    rw [congrArg Prod.snd hcreates.exec_eq]
    split
    · rename_i hown
      obtain ⟨_, _, _, hsome⟩ := hcreates.own scope hown
      exact congrArg (Option.bind · IdempotencyRecord.response) hsome
    · rename_i hother
      exact congrArg (Option.bind · IdempotencyRecord.response) (hcreates.others scope hother)
  refine ⟨?_, ?_, fun scope => ?_, fun scope₁ scope₂ ids₁ ids₂ h₁ h₂ hne => ?_⟩
  · rw [congrArg Prod.snd hcreates.exec_eq]
    exact below_next_set h.runIds
  · rw [congrArg Prod.snd hcreates.exec_eq]
    exact below_next_set h.taskIds
  · rw [firstUse_append, congrArg Prod.snd hcreates.exec_eq]
    by_cases hown : call.scope = some scope
    · obtain ⟨hfree, text, htext, hsome⟩ := hcreates.own scope hown
      have huses : Uses scope call := ⟨hown, (congrArg Except.isOk htext).trans rfl⟩
      rw [h.unused_iff.mp hfree, Option.none_or,
        if_pos (show Uses scope (entry _ _ _).call from huses), hsome]
      exact .some ⟨text, _, _, htext, congrArg Prod.fst hcreates.exec_eq, rfl, rfl,
        Dict.get?_set_self _ _ _, Dict.get?_set_self _ _ _⟩
    · rw [if_neg fun huse => hown huse.1, hcreates.others scope hown]
      have hrecord := h.records scope
      generalize store.idempotency.records.get? scope = record at hrecord ⊢
      generalize firstUse scope history = first at hrecord ⊢
      cases hrecord with
      | none => exact .none
      | some hdescribes =>
        obtain ⟨text, run, task, htext, hreply, hhash, hresponse, hrun, htask⟩ := hdescribes
        exact .some ⟨text, run, task, htext, hreply, hhash, hresponse,
          get?_set_next h.runIds _ _ hrun, get?_set_next h.taskIds _ _ htask⟩
  · -- the ids of the new record are above all others
    rw [hresponse] at h₁ h₂
    split at h₁ <;> split at h₂
    · rename_i hown₁ hown₂
      exact absurd (Option.some.inj (hown₁.symm.trans hown₂)) hne
    · cases h₁
      exact ⟨(h.ids_lt h₂).1.ne', (h.ids_lt h₂).2.ne'⟩
    · cases h₂
      exact ⟨(h.ids_lt h₁).1.ne, (h.ids_lt h₁).2.ne⟩
    · exact h.apart _ _ _ _ h₁ h₂ hne

/-- A call whose scope has been used. -/
theorem Ledger.exec_of_used {text : List Char} {first : CreateEntry}
    (hscope : call.scope = some scope) (htext : call.canonical = .ok text)
    (hfirst : firstUse scope history = some first) :
    ∃ text' run task, first.call.canonical = .ok text' ∧ first.reply = .ok (run, task, false) ∧
      store.response scope = some ⟨run.id, task.id⟩ ∧
      exec sha256 store call = (if sha256 text' = sha256 text then .ok (run, task, true)
          else .error (.idempotency (.conflict scope.idempotencyKey)), store) := by
  obtain ⟨record, hrecord, text', run, task, htext', hreply, hhash, hresponse, hrun, htask⟩ :=
    h.used hfirst
  refine ⟨text', run, task, htext', hreply, ?_, ?_⟩
  · rw [response, hrecord, Option.bind_some, hresponse]
  · rw [← hhash]
    exact exec_of_recorded sha256 hscope htext hrecord hresponse hrun htask

/-- Every call creates, or changes nothing; then its scope has been used, unless the body has no
text, and what it returns is in the record. -/
theorem Ledger.cases (call : CreateTaskRun) :
    (∃ buffer idempotency, Creates sha256 store call buffer idempotency) ∨
      ∃ reply, exec sha256 store call = (reply, store) ∧
        (∀ scope, Uses scope call → firstUse scope history ≠ none) ∧
        ∀ run task replayed, reply = .ok (run, task, replayed) → ∃ scope,
          call.scope = some scope ∧ store.response scope = some ⟨run.id, task.id⟩ := by
  cases hscope : call.scope with
  | none =>
    obtain ⟨buffer, hcreates⟩ : ∃ buffer, Creates sha256 store call buffer _ :=
      creates_of_no_key sha256 hscope
    exact .inl ⟨buffer, _, hcreates⟩
  | some scope =>
    cases htext : call.canonical with
    | error cls =>
      refine .inr ⟨_, exec_of_unencodable sha256 hscope htext, ?_, fun _ _ _ heq => by cases heq⟩
      rintro scope' ⟨_, hok⟩
      rw [htext] at hok
      cases hok
    | ok text =>
      cases hfirst : firstUse scope history with
      | none =>
        obtain ⟨buffer, hcreates⟩ :=
          creates_of_first sha256 hscope htext (h.unused_iff.mpr hfirst)
        exact .inl ⟨buffer, _, hcreates⟩
      | some first =>
        obtain ⟨_, run, task, _, _, hresponse, hexec⟩ := h.exec_of_used hscope htext hfirst
        refine .inr ⟨_, hexec, ?_, fun run' task' replayed heq => ⟨scope, rfl, ?_⟩⟩
        · rintro scope' ⟨huse, _⟩
          cases huse.symm.trans hscope
          rw [hfirst]
          exact Option.some_ne_none _
        · split at heq
          · cases heq
            exact hresponse
          · cases heq

/-- Every call keeps the ledger. -/
theorem Ledger.step (call : CreateTaskRun) :
    Ledger sha256 (history ++ [entry (exec sha256) store call]) (exec sha256 store call).2 := by
  rcases h.cases call with ⟨_, _, hcreates⟩ | ⟨_, hexec, huses, _⟩
  · exact h.creates hcreates
  · exact h.unchanged hexec huses

end

end

/-! ## How many runs and tasks a key makes -/

/-- The call has the scope and the canonical body. -/
def InGroup (scope : IdempotencyScope) (text : List Char) (call : CreateTaskRun) : Prop :=
  call.scope = some scope ∧ call.canonical = .ok text

instance (scope : IdempotencyScope) (text : List Char) (call : CreateTaskRun) :
    Decidable (InGroup scope text call) :=
  inferInstanceAs (Decidable (_ ∧ _))

/-- The calls of a history with the scope and the canonical body. -/
def group (scope : IdempotencyScope) (text : List Char) (history : List CreateEntry) :
    List CreateEntry := history.filter fun e => InGroup scope text e.call

section

variable (size : NativeRuntimeStore → Nat) (entries : List CreateEntry)

/-- How many runs a list of calls added to the store. -/
def runsMade : Int :=
  (entries.map fun e => (e.after.runs.size : Int) - e.before.runs.size).sum

/-- How many tasks a list of calls added to the store. -/
def tasksMade : Int :=
  (entries.map fun e => (e.after.tasks.size : Int) - e.before.tasks.size).sum

/-- A size that counts creations. -/
structure CountsCreations : Prop where
  created : ∀ store call buffer, store.runs.get? store.nextRunId = none →
    store.tasks.get? store.nextTaskId = none → size (store.created call buffer) = size store + 1
  idempotency : ∀ (store : NativeRuntimeStore) idempotency,
    size { store with idempotency := idempotency } = size store

theorem counts_runs : CountsCreations fun store => store.runs.size where
  created := fun _ _ _ hrun _ => Dict.size_set_of_none _ hrun
  idempotency := fun _ _ => rfl

theorem counts_tasks : CountsCreations fun store => store.tasks.size where
  created := fun _ _ _ _ htask => Dict.size_set_of_none _ htask
  idempotency := fun _ _ => rfl

/-- By how much a list of calls enlarged the store. -/
def enlarged : Int :=
  (entries.map fun e => (size e.after : Int) - size e.before).sum

theorem enlarged_group_append (scope : IdempotencyScope)
    (text : List Char) (history : List CreateEntry) (e : CreateEntry) :
    enlarged size (group scope text (history ++ [e])) = enlarged size (group scope text history) +
      if InGroup scope text e.call then (size e.after : Int) - size e.before else 0 := by
  unfold enlarged group
  by_cases h : InGroup scope text e.call <;> simp [h]

/-- A scope and a body made one, if the first use of the scope had the body, and else none. -/
def Counted (history : List CreateEntry) : Prop :=
  ∀ scope text, enlarged size (group scope text history) =
    (firstUse scope history).elim 0 fun first => if InGroup scope text first.call then 1 else 0

end

variable {size : NativeRuntimeStore → Nat}

theorem Counted.step {sha256 : List Char → String} {store : NativeRuntimeStore}
    (hsize : CountsCreations size) (hcounted : Counted size history)
    (h : Ledger sha256 history store) (call : CreateTaskRun) :
    Counted size (history ++ [entry (exec sha256) store call]) := by
  intro scope text
  rw [enlarged_group_append, hcounted scope text, firstUse_append]
  by_cases hgroup : InGroup scope text (entry (exec sha256) store call).call
  · rw [if_pos hgroup]
    obtain ⟨hscope, htext⟩ : call.scope = some scope ∧ call.canonical = .ok text := hgroup
    cases hfirst : firstUse scope history with
    | none =>
      -- the first use of the scope: one more
      obtain ⟨buffer, hcreates⟩ :=
        creates_of_first sha256 hscope htext (h.unused_iff.mpr hfirst)
      have huses : Uses scope (entry (exec sha256) store call).call :=
        ⟨hscope, (congrArg Except.isOk htext).trans rfl⟩
      have hmore : size (entry (exec sha256) store call).after = size store + 1 := by
        show size (exec sha256 store call).2 = _
        rw [hcreates.exec_eq, hsize.idempotency]
        exact hsize.created _ _ _ (get?_next_eq_none h.runIds) (get?_next_eq_none h.taskIds)
      rw [if_pos huses, Option.none_or, Option.elim_some,
        if_pos (show InGroup scope text (entry _ _ _).call from ⟨hscope, htext⟩), hmore]
      show (0 : Int) + ((size store + 1 : Nat) - size store) = 1
      omega
    | some first =>
      obtain ⟨_, _, _, _, _, _, hexec⟩ := h.exec_of_used hscope htext hfirst
      have hafter : (entry (exec sha256) store call).after = store := congrArg Prod.snd hexec
      rw [hafter]
      exact (congrArg _ (Int.sub_self _)).trans (Int.add_zero _)
  · rw [if_neg hgroup, Int.add_zero]
    cases firstUse scope history with
    | some first => rfl
    | none => split <;> simp [hgroup]

/-- After every history the ledger is right, and so are the counts. -/
theorem ledger_final (sha256 : List Char → String) (hsize : CountsCreations size)
    (calls : List CreateTaskRun) :
    Ledger sha256 (trace (exec sha256) {} calls) (final (exec sha256) {} calls) ∧
      Counted size (trace (exec sha256) {} calls) :=
  history_induction (exec sha256)
    (J := fun history store => Ledger sha256 history store ∧ Counted size history)
    (fun _ _ call _ h => ⟨h.1.step call, h.2.step hsize h.1 call⟩) calls [] {}
    ⟨ledger_init sha256, fun _ _ => rfl⟩ (admitted_true _ calls _)

/-- The text is the canonical JSON of some body. -/
def Canonical (text : List Char) : Prop := ∃ body : PyDict, PyValue.dumps (.dict body) = .ok text

/-- What a call with another scope, or none, can do to a recorded one: nothing. -/
theorem Ledger.other_scope {sha256 : List Char → String} {store : NativeRuntimeStore}
    (h : Ledger sha256 history store) {call : CreateTaskRun} (hother : call.scope ≠ some scope) :
    (exec sha256 store call).2.idempotency.records.get? scope =
        store.idempotency.records.get? scope ∧
      ∀ ids run' task' replayed, store.response scope = some ids →
        (exec sha256 store call).1 = .ok (run', task', replayed) →
          run'.id ≠ ids.runId ∧ task'.id ≠ ids.taskId := by
  rcases h.cases call with ⟨_, _, hcreates⟩ | ⟨_, hexec, _, hreturned⟩
  · rw [hcreates.exec_eq]
    refine ⟨hcreates.others scope hother, fun ids run' task' replayed hids hreply => ?_⟩
    cases hreply
    exact ⟨(h.ids_lt hids).1.ne', (h.ids_lt hids).2.ne'⟩
  · rw [hexec]
    refine ⟨rfl, fun ids run' task' replayed hids hreply => ?_⟩
    obtain ⟨scope', hscope', hresponse⟩ := hreturned run' task' replayed hreply
    exact h.apart _ _ _ _ hresponse hids fun hsame => hother (hsame ▸ hscope')

/-- After any history of calls, for any scope, with a digest that tells canonical texts
apart. A call that uses the scope for the first time creates a run and a task; one
with the body of the first use gets the run and the task of the first use, marked as
replayed, and one with another body is refused, both without any change. All calls of
the history with the body of the first use made one run and one task between them.
Calls with another scope or without a key leave the record alone and never get its run
or task. -/
theorem idempotent_run_creation (sha256 : List Char → String)
    (hinjective : ∀ text text', Canonical text → Canonical text' →
      sha256 text = sha256 text' → text = text')
    (calls : List CreateTaskRun) (scope : IdempotencyScope) :
    let history := trace (exec sha256) {} calls
    let store := final (exec sha256) {} calls
    (∀ call text, call.scope = some scope → call.canonical = .ok text →
      (firstUse scope history = none →
        ∃ run task, (exec sha256 store call).1 = .ok (run, task, false) ∧
          store.runs.get? run.id = none ∧ store.tasks.get? task.id = none ∧
          (exec sha256 store call).2.runs = store.runs.set run.id run ∧
          (exec sha256 store call).2.tasks = store.tasks.set task.id task) ∧
      ∀ first, firstUse scope history = some first →
        ∃ run task, first.reply = .ok (run, task, false) ∧ (first.call.canonical = .ok text →
            exec sha256 store call = (.ok (run, task, true), store)) ∧
          (first.call.canonical ≠ .ok text → exec sha256 store call =
            (.error (.idempotency (.conflict scope.idempotencyKey)), store))) ∧
    (∀ first text, firstUse scope history = some first → first.call.canonical = .ok text →
      runsMade (group scope text history) = 1 ∧ tasksMade (group scope text history) = 1) ∧
    ∀ call, call.scope ≠ some scope → (exec sha256 store call).2.idempotency.records.get? scope =
          store.idempotency.records.get? scope ∧
        ∀ first run task run' task' replayed, firstUse scope history = some first →
          first.reply = .ok (run, task, false) →
          (exec sha256 store call).1 = .ok (run', task', replayed) →
            run'.id ≠ run.id ∧ task'.id ≠ task.id := by
  intro history store
  obtain ⟨h, hruns⟩ := ledger_final sha256 counts_runs calls
  obtain ⟨_, htasks⟩ := ledger_final sha256 counts_tasks calls
  refine ⟨fun call text hscope htext => ⟨fun hfirst => ?_, fun first hfirst => ?_⟩,
    fun first text hfirst htext => ?_, fun call hother => ?_⟩
  · obtain ⟨buffer, hcreates⟩ := creates_of_first sha256 hscope htext (h.unused_iff.mpr hfirst)
    rw [hcreates.exec_eq]
    exact ⟨_, _, rfl, get?_next_eq_none h.runIds, get?_next_eq_none h.taskIds, rfl, rfl⟩
  · obtain ⟨text', run, task, htext', hreply, _, hexec⟩ := h.exec_of_used hscope htext hfirst
    refine ⟨run, task, hreply, fun hequal => ?_, fun hnot => ?_⟩
    · cases htext'.symm.trans hequal
      rw [hexec, if_pos rfl]
    · rw [hexec, if_neg]
      intro hhash
      exact hnot (by rw [htext', hinjective text' text ⟨_, htext'⟩ ⟨_, htext⟩ hhash])
  · have huses : Uses scope first.call :=
      of_decide_eq_true
        (List.find?_some (p := fun e : CreateEntry => decide (Uses scope e.call)) hfirst)
    have hone : ((firstUse scope history).elim 0 fun first =>
        if InGroup scope text first.call then 1 else 0) = (1 : Int) := by
      rw [hfirst]
      exact if_pos ⟨huses.1, htext⟩
    exact ⟨(hruns scope text).trans hone, (htasks scope text).trans hone⟩
  · obtain ⟨hkept, happart⟩ := h.other_scope hother
    refine ⟨hkept, fun first run task run' task' replayed hfirst hreply hexec => ?_⟩
    obtain ⟨record, hrecord, _, _, _, _, hreply', _, hresponse, _⟩ := h.used hfirst
    cases hreply.symm.trans hreply'
    have hids : store.response scope = some ⟨run.id, task.id⟩ := by
      rw [response, hrecord, Option.bind_some, hresponse]
    exact happart _ run' task' replayed hids hexec

/-- A call with a key. -/
def submit (body : PyDict) : CreateTaskRun :=
  { tenantId := 1, projectId := 1, agentId := 1, agentVersionId := 1, inputData := [],
    threadId := none, idempotencyKey := some "key", endpoint := "/v1/runs", requestBody := body,
    runAt := 0, taskAt := 0 }

/-- Its scope. -/
def submitScope : IdempotencyScope :=
  { tenantId := 1, projectId := some 1, endpoint := "/v1/runs", idempotencyKey := "key" }

theorem idempotent_run_creation_retry :
    let calls := [submit [("a", .int 1)], submit [("a", .int 1)]]
    let store := final (exec String.ofList) {} calls
    runsMade (group submitScope "\x7b\"a\":1\x7d".toList (trace (exec String.ofList) {} calls)) = 1 ∧
      (∃ run task, exec String.ofList store (submit [("a", .int 1)]) =
        (.ok (run, task, true), store)) ∧
      exec String.ofList store (submit [("a", .int 2)]) =
        (.error (.idempotency (.conflict "key")), store) := by
  intro calls store
  have hinjective : ∀ text text', Canonical text → Canonical text' →
      String.ofList text = String.ofList text' → text = text' :=
    fun _ _ _ _ h => String.ofList_injective h
  obtain ⟨hcalls, hcount, _⟩ :=
    idempotent_run_creation String.ofList hinjective calls submitScope
  have hfirst : firstUse submitScope (trace (exec String.ofList) {} calls) =
      some (entry (exec String.ofList) {} (submit [("a", .int 1)])) := rfl
  obtain ⟨run, task, _, hsame, _⟩ :=
    (hcalls (submit [("a", .int 1)]) "\x7b\"a\":1\x7d".toList rfl rfl).2 _ hfirst
  obtain ⟨_, _, _, _, hdifferent⟩ :=
    (hcalls (submit [("a", .int 2)]) "\x7b\"a\":2\x7d".toList rfl rfl).2 _ hfirst
  exact ⟨(hcount _ _ hfirst rfl).1, ⟨run, task, hsame rfl⟩, hdifferent (by decide)⟩

end NativeRuntimeStore

end DimooRun.Native
