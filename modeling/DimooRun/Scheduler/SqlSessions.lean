/-
  Scheduler/SqlSessions.lean --- the SQLAlchemy task backend under concurrent sessions.

  Source: scheduler/sqlalchemy_backend.py and quota.py, statement
  by statement.

  Every session has its open transaction and an identity map: a row it has loaded is not
  read again until it is expired or the transaction ends. A method works on the loaded
  row, and its flush is an UPDATE by primary key of the columns it changed, made on the
  latest version of the row. The claim of `lease` is an UPDATE whose WHERE is evaluated
  on that version. A statement that wants a row another transaction has written waits.
  `lease` is the reaper, the SELECT of candidates, and for every candidate the count of
  the quota policy, if there is one, and the claim.
-/
import DimooRun.Foundation.Transactions
import DimooRun.Scheduler.SqlTask

set_option autoImplicit false

namespace DimooRun.Scheduler

open Foundation DimooRun.Runtime
open Domain (Run)

/-- What a statement of a transaction changed. -/
inductive RowChange where
  /-- the claim of a lease, with the token it returns -/
  | claim (taskId : Int) (workerId : String) (fencingToken : Int)
  /-- the flush of another method, with the status if it wrote one -/
  | flush (taskId : Int) (status : Option TaskStatus)
  deriving DecidableEq, Repr

/-- What a session remembers during a transaction. -/
structure SqlSession where
  /-- the identity map -/
  loaded : Dict Int TaskRow := Dict.empty
  /-- rows that the reaper's SELECT returned, with the time it compared to and the end of
  the lease that it found to be over -/
  reaping : Dict Int (Time × Option Time) := Dict.empty
  /-- the candidate that the quota policy has just judged -/
  verdict : Option (Int × Option QuotaExceededError) := none
  /-- the statements of the transaction that changed rows -/
  journal : List RowChange := []

/-- The task table and its sessions. -/
structure SqlTasks where
  rows : Transactions Int TaskRow
  sessions : Dict Nat SqlSession

namespace SqlTasks

/-- A table without open transactions. -/
def ofTable (table : Dict Int TaskRow) : SqlTasks := ⟨.ofTable table, .empty⟩

section

variable (tasks : SqlTasks) (s : Nat)

/-- The memory of a session. -/
def session : SqlSession := (tasks.sessions.get? s).getD {}

/-- Change the memory of a session. -/
def updateSession (f : SqlSession → SqlSession) : SqlTasks :=
  { tasks with sessions := tasks.sessions.set s (f (tasks.session s)) }

/-- The latest version of a row that a session sees. -/
def stored (taskId : Int) : Option TaskRow :=
  (tasks.rows.visible s).get? taskId

end

/-- The steps of the sessions. -/
inductive Step where
  /-- `session.get`, or a SELECT that returns the row -/
  | load (session : Nat) (taskId : Int)
  /-- the reaper's SELECT returns the row -/
  | selectExpired (session : Nat) (taskId : Int) (now : Time)
  /-- the row object is expired or collected -/
  | expire (session : Nat) (taskId : Int)
  /-- a method on the loaded row, and its flush -/
  | write (session : Nat) (taskId : Int) (op : RowOp)
  /-- `quota_policy.assert_can_lease` on a candidate -/
  | count (session : Nat) (taskId : Int)
  /-- `_record_quota_block` -/
  | recordBlock (session : Nat) (taskId : Int)
  /-- `_claim_queued_task` -/
  | claim (session : Nat) (taskId : Int) (workerId : String) (leasedUntil now : Time)
  | commit (session : Nat)
  | rollback (session : Nat)

/-- What a step comes to. `notNow` is a step that is not the session's next one. -/
inductive Outcome where
  | done
  | leased (fencingToken : Int)
  | lost
  | raised (error : TaskError)
  | blocked (error : QuotaExceededError)
  | committed (changes : List RowChange)
  | waiting
  | notNow
  deriving DecidableEq

section

variable (tasks : SqlTasks) (s : Nat) (taskId : Int)

/-- The session wrote the row: the new version, and a line in the journal. -/
def wrote (row : TaskRow) (change : RowChange) (h : ¬ tasks.rows.Locked s taskId) : SqlTasks :=
  { rows := tasks.rows.write s taskId row h
    sessions :=
      tasks.sessions.set s
        { tasks.session s with journal := (tasks.session s).journal ++ [change] } }

/-- Keep a row object. -/
def remember (row : TaskRow) : SqlTasks :=
  tasks.updateSession s fun session => { session with loaded := session.loaded.set taskId row }

/-- Drop a row object. -/
def forget : SqlTasks :=
  tasks.updateSession s fun session => { session with loaded := session.loaded.erase taskId }

/-- The reaper's SELECT has returned the row. -/
def selected (now : Time) (row : TaskRow) : SqlTasks :=
  tasks.updateSession s fun session =>
    { session with reaping := session.reaping.set taskId (now, row.leasedUntil) }

/-- The lease is done with the candidate that was judged. -/
def settle : SqlTasks :=
  tasks.updateSession s fun session => { session with verdict := none }

/-- The statement that a row is loaded by: an object that is there stays as it is. -/
def load (row : TaskRow) : SqlTasks :=
  match (tasks.session s).loaded.get? taskId with
  | some _ => tasks
  | none => tasks.remember s taskId row

/-- The status that the flush writes. -/
def writtenStatus (loaded assigned : TaskRow) : Option TaskStatus :=
  if assigned.status = loaded.status then none else some assigned.status

/-- The flush of a method. -/
def flush (loaded assigned : TaskRow) : Outcome × SqlTasks :=
  if TaskRow.Unchanged loaded assigned then (.done, tasks)
  else if h : tasks.rows.Locked s taskId then (.waiting, tasks)
  else
    match tasks.stored s taskId with
    | none => (.notNow, tasks)
    | some row =>
        (.done,
          (tasks.wrote s taskId (TaskRow.flush loaded assigned row)
            (.flush taskId (writtenStatus loaded assigned)) h).remember s taskId assigned)

/-- A method on a row object. -/
def write (op : RowOp) : Outcome × SqlTasks :=
  match (tasks.session s).loaded.get? taskId with
  | none => (.notNow, tasks)
  | some loaded =>
      match op.act.run loaded with
      | .error e _ => (.raised e, tasks)
      | .ok _ assigned => tasks.flush s taskId loaded assigned

end

/-- The metadata with the reason of the block. -/
def blockReason (metadata : PyDict) (e : QuotaExceededError) : PyDict :=
  metadata.update
    [("quota_blocking_reason",
      .dict
        [("error_code", .str QuotaExceededError.errorCode), ("scope", .str e.scope.value),
          ("limit", .int e.limit), ("current", .int e.current)])]

section

variable (candidate : TaskRow) (e : QuotaExceededError) (row : TaskRow)

/-- The row object after `_record_quota_block`. -/
def blocked (e : QuotaExceededError) : TaskRow :=
  { row with
    metadataJson := blockReason row.metadataJson e
    error := some (QuotaExceededError.errorCode ++ ":" ++ e.scope.value) }

/-- The row after its flush; the metadata is assigned as a new dictionary. -/
def blockedRow : TaskRow :=
  { TaskRow.flush candidate (blocked candidate e) row with
    metadataJson := (blocked candidate e).metadataJson }

theorem sameTask_blockedRow : row.SameTask (blockedRow candidate e row) :=
  ⟨rfl, rfl, rfl, rfl, rfl, rfl, rfl, rfl, rfl, rfl⟩

end

section

variable (quota : Option RuntimeQuota) (runs : Dict Int Run)

section

variable (tasks : SqlTasks) (s : Nat) (taskId : Int)

/-- The count of the quota policy, on the rows that the session sees now. -/
def count : Outcome × SqlTasks :=
  match quota, (tasks.session s).loaded.get? taskId with
  | some quota, some candidate =>
      match SQLAlchemyQuotaPolicy.assertCanLease quota (tasks.rows.visible s) runs candidate with
      | .ok _ =>
          (.done,
            tasks.updateSession s fun session => { session with verdict := some (taskId, none) })
      | .error e =>
          (.blocked e,
            tasks.updateSession s fun session => { session with verdict := some (taskId, some e) })
  | _, _ => (.notNow, tasks)

/-- `_record_quota_block`. -/
def recordBlock : Outcome × SqlTasks :=
  match (tasks.session s).verdict, (tasks.session s).loaded.get? taskId with
  | some (judged, some e), some candidate =>
      if judged ≠ taskId then (.notNow, tasks)
      else if h : tasks.rows.Locked s taskId then (.waiting, tasks)
      else
        match tasks.stored s taskId with
        | none => (.notNow, tasks)
        | some row =>
            (.done,
              ((tasks.wrote s taskId (blockedRow candidate e row) (.flush taskId none) h).remember
                s taskId (blocked candidate e)).settle s)
  | _, _ => (.notNow, tasks)

/-- The candidate may be claimed: with a quota policy, only if it was let through. -/
def MayClaim : Prop :=
  quota.isSome → (tasks.session s).verdict = some (taskId, none)

instance (tasks : SqlTasks) (s : Nat) (taskId : Int) : Decidable (MayClaim quota tasks s taskId) :=
  inferInstanceAs (Decidable (_ → _))

/-- `_claim_queued_task`. -/
def claim (workerId : String) (leasedUntil now : Time) : Outcome × SqlTasks :=
  match (tasks.session s).loaded.get? taskId with
  | none => (.notNow, tasks)
  | some candidate =>
      if ¬ MayClaim quota tasks s taskId then (.notNow, tasks)
      else if candidate.status ≠ .queued then
        (.raised (refused candidate.status .leased), tasks.settle s)
      else if h : tasks.rows.Locked s taskId then (.waiting, tasks)
      else
        match tasks.stored s taskId with
        | none => (.lost, (tasks.forget s taskId).settle s)
        | some row =>
            if row.Claimable then
              let row' := row.claimed workerId leasedUntil now
              (.leased row'.fencingToken,
                ((tasks.wrote s taskId row' (.claim taskId workerId row'.fencingToken) h).remember
                  s taskId row').settle s)
            else (.lost, (tasks.forget s taskId).settle s)

end

/-- One step. -/
def exec (tasks : SqlTasks) : Step → Outcome × SqlTasks
  | .load s taskId =>
      match tasks.stored s taskId with
      | none => (.raised (.keyError taskId), tasks)
      | some row => (.done, tasks.load s taskId row)
  | .selectExpired s taskId now =>
      match tasks.stored s taskId with
      | none => (.notNow, tasks)
      | some row =>
          if row.Expired now then
            (.done, (tasks.load s taskId row).selected s taskId now row)
          else (.notNow, tasks)
  | .expire s taskId => (.done, tasks.forget s taskId)
  | .write s taskId (.reap now) =>
      if ((tasks.session s).reaping.get? taskId).map Prod.fst = some now then
        tasks.write s taskId (.reap now)
      else (.notNow, tasks)
  | .write s taskId op => tasks.write s taskId op
  | .count s taskId => tasks.count quota runs s taskId
  | .recordBlock s taskId => tasks.recordBlock s taskId
  | .claim s taskId workerId leasedUntil now =>
      tasks.claim quota s taskId workerId leasedUntil now
  | .commit s =>
      match (tasks.session s).verdict with
      | some _ => (.notNow, tasks)
      | none =>
          (.committed (tasks.session s).journal, ⟨tasks.rows.commit s, tasks.sessions.erase s⟩)
  | .rollback s => (.done, ⟨tasks.rows.rollback s, tasks.sessions.erase s⟩)

end

/-! ## What the parts of a step do -/

section

variable (tasks : SqlTasks) (s s' : Nat)

@[simp] theorem rows_updateSession (f : SqlSession → SqlSession) :
    (tasks.updateSession s f).rows = tasks.rows := rfl

theorem session_updateSession (f : SqlSession → SqlSession) : (tasks.updateSession s f).session s' =
      if s' = s then f (tasks.session s) else tasks.session s' := by
  unfold updateSession session
  simp only [Dict.get?_set]
  split <;> rfl

section

variable {f : SqlSession → SqlSession}

/-- A part of the memory that the change leaves alone is the same in every session. -/
theorem part_updateSession {α : Type} (part : SqlSession → α)
    (h : ∀ session, part (f session) = part session) :
    part ((tasks.updateSession s f).session s') = part (tasks.session s') := by
  rw [session_updateSession]
  split
  · rename_i hs
    rw [h, hs]
  · rfl

@[simp] theorem journal_updateSession (h : ∀ session, (f session).journal = session.journal) :
    ((tasks.updateSession s f).session s').journal = (tasks.session s').journal :=
  part_updateSession tasks s s' SqlSession.journal h

@[simp] theorem verdict_updateSession (h : ∀ session, (f session).verdict = session.verdict) :
    ((tasks.updateSession s f).session s').verdict = (tasks.session s').verdict :=
  part_updateSession tasks s s' SqlSession.verdict h

end

theorem verdict_settle : ((tasks.settle s).session s').verdict =
      if s' = s then none else (tasks.session s').verdict := by
  rw [settle, session_updateSession]
  split <;> rfl

theorem load_cases (taskId : Int) (row : TaskRow) :
    tasks.load s taskId row = tasks ∨ tasks.load s taskId row = tasks.remember s taskId row := by
  unfold load
  split <;> simp

section

variable (taskId : Int) (row : TaskRow) (change : RowChange) (h : ¬ tasks.rows.Locked s taskId)

theorem session_wrote : (tasks.wrote s taskId row change h).session s' =
      if s' = s then { tasks.session s with journal := (tasks.session s).journal ++ [change] }
      else tasks.session s' := by
  unfold wrote session
  simp only [Dict.get?_set]
  split <;> rfl

theorem journal_wrote : ((tasks.wrote s taskId row change h).session s').journal =
      if s' = s then (tasks.session s).journal ++ [change] else (tasks.session s').journal := by
  rw [session_wrote]
  split <;> rfl

@[simp] theorem verdict_wrote :
    ((tasks.wrote s taskId row change h).session s').verdict = (tasks.session s').verdict := by
  rw [session_wrote]
  split
  · rename_i hs
    rw [hs]
  · rfl

end

theorem session_erase (rows : Transactions Int TaskRow) :
    (⟨rows, tasks.sessions.erase s⟩ : SqlTasks).session s' =
      if s' = s then {} else tasks.session s' := by
  unfold session
  simp only [Dict.get?_erase]
  split <;> rfl

end

/-! ## What a step does -/

/-- The changes that a step commits. -/
def Outcome.changes : Outcome → List RowChange
  | .committed changes => changes
  | _ => []

/-- The step is one of a lease call. -/
def Step.OfLease : Step → Prop
  | .write _ _ (.reap _) => True
  | .write _ _ _ => False
  | _ => True

/-- A session wrote a new version of a row, and nothing else happened to rows and
journals. -/
structure Writes (tasks tasks' : SqlTasks) (s : Nat) (taskId : Int) (row : TaskRow)
    (change : RowChange) : Prop where
  unlocked : ¬ tasks.rows.Locked s taskId
  rows : tasks'.rows = tasks.rows.write s taskId row unlocked
  journal : ∀ s', (tasks'.session s').journal =
    if s' = s then (tasks.session s).journal ++ [change] else (tasks.session s').journal

section

variable (quota : Option RuntimeQuota) (runs : Dict Int Run) (tasks : SqlTasks)

/-- The steps, by what they do to the rows, the journals and the candidates that were let
through. -/
inductive Transition : Step → Outcome × SqlTasks → Prop where
  | quiet {step : Step} {o : Outcome} {tasks' : SqlTasks} (ho : o.changes = [])
      (hrows : tasks'.rows = tasks.rows)
      (hjournal : ∀ s, (tasks'.session s).journal = (tasks.session s).journal)
      (hverdict : ∀ s taskId, (tasks'.session s).verdict = some (taskId, none) →
        (tasks.session s).verdict = some (taskId, none)) :
      Transition step (o, tasks')
  | approve {s : Nat} {taskId : Int} {q : RuntimeQuota} {candidate : TaskRow}
      (hquota : quota = some q) (hloaded : (tasks.session s).loaded.get? taskId = some candidate)
      (hroom : QuotaScope.Room q runs (tasks.rows.visible s) candidate) :
      Transition (.count s taskId)
        (.done, tasks.updateSession s fun session => { session with verdict := some (taskId, none) })
  | flush (status : Option TaskStatus) {step : Step} {s : Nat} {taskId : Int} {row row' : TaskRow}
      {tasks' : SqlTasks} (hstored : tasks.stored s taskId = some row)
      (hsame : row.SameTask row') (htoken : row'.fencingToken = row.fencingToken)
      (hstatus : row'.status = status.getD row.status)
      (hlease : step.OfLease → status = none ∨ status = some .queued ∨ status = some .deadLetter)
      (hwrites : tasks.Writes tasks' s taskId row' (.flush taskId status))
      (hverdict : ∀ s taskId, (tasks'.session s).verdict = some (taskId, none) →
        (tasks.session s).verdict = some (taskId, none)) :
      Transition step (.done, tasks')
  | claim {s : Nat} {taskId : Int} {w : String} {u now : Time} {row : TaskRow}
      {tasks' : SqlTasks} (hstored : tasks.stored s taskId = some row)
      (hmay : MayClaim quota tasks s taskId) (hclaimable : row.Claimable)
      (hwrites : tasks.Writes tasks' s taskId (row.claimed w u now)
        (.claim taskId w (row.fencingToken + 1)))
      (hverdict : ∀ s', (tasks'.session s').verdict =
        if s' = s then none else (tasks.session s').verdict) :
      Transition (.claim s taskId w u now) (.leased (row.fencingToken + 1), tasks')
  | commit {s : Nat} (hverdict : (tasks.session s).verdict = none) :
      Transition (.commit s)
        (.committed (tasks.session s).journal, ⟨tasks.rows.commit s, tasks.sessions.erase s⟩)
  | rollback {s : Nat} :
      Transition (.rollback s) (.done, ⟨tasks.rows.rollback s, tasks.sessions.erase s⟩)

variable {quota runs tasks} {step : Step}

theorem Transition.same {o : Outcome} (ho : o.changes = []) :
    Transition quota runs tasks step (o, tasks) :=
  .quiet ho rfl (fun _ => rfl) fun _ _ h => h

variable {s : Nat} {taskId : Int}

theorem transition_flush {loaded assigned : TaskRow}
    (htoken : assigned.fencingToken = loaded.fencingToken)
    (hlease : step.OfLease → assigned.status = .queued ∨ assigned.status = .deadLetter) :
    Transition quota runs tasks step (tasks.flush s taskId loaded assigned) := by
  unfold flush
  by_cases hsame : TaskRow.Unchanged loaded assigned
  · rw [if_pos hsame]
    exact .same rfl
  rw [if_neg hsame]
  by_cases hlock : tasks.rows.Locked s taskId
  · rw [dif_pos hlock]
    exact .same rfl
  rw [dif_neg hlock]
  cases hstored : tasks.stored s taskId with
  | none => exact .same rfl
  | some row =>
    refine .flush (writtenStatus loaded assigned) hstored
      (TaskRow.sameTask_flush loaded assigned row) ?_ ?_ ?_
      ⟨hlock, rfl, fun s' => ?_⟩ ?_
    · simp [TaskRow.flush, htoken]
    · simp only [TaskRow.flush, TaskRow.column, writtenStatus]
      split <;> rfl
    · intro hof
      unfold writtenStatus
      split
      · exact .inl rfl
      · rcases hlease hof with h | h <;> simp [h]
    · simp [remember, journal_wrote]
    · simp [remember]

theorem transition_write {op : RowOp} (hstep : step.OfLease → ∃ now, op = .reap now) :
    Transition quota runs tasks step (tasks.write s taskId op) := by
  unfold write
  cases (tasks.session s).loaded.get? taskId with
  | none => exact .same rfl
  | some loaded =>
    simp only
    obtain ⟨dead, assigned, hrun, hwrites⟩ | ⟨e, hrun⟩ := RowOp.run_act op loaded
    · rw [hrun]
      refine transition_flush hwrites.fencingToken ?_
      intro hof
      obtain ⟨now, rfl⟩ := hstep hof
      obtain ⟨_, _, hrun', _, hstatus⟩ | ⟨e, hrun'⟩ := RowOp.run_reap now loaded
      · cases hrun.symm.trans hrun'
        exact hstatus
      · cases hrun.symm.trans hrun'
    · rw [hrun]
      exact .same rfl

theorem transition_count :
    Transition quota runs tasks (.count s taskId) (tasks.count quota runs s taskId) := by
  unfold count
  split
  · rename_i q candidate hloaded
    split
    · rename_i hok
      exact .approve rfl hloaded (SQLAlchemyQuotaPolicy.assertCanLease_eq_ok.mp hok)
    · refine .quiet rfl rfl (by simp) ?_
      intro s' taskId' hverdict
      rw [session_updateSession] at hverdict
      split at hverdict
      · simp at hverdict
      · exact hverdict
  · exact .same rfl

theorem transition_recordBlock :
    Transition quota runs tasks (.recordBlock s taskId) (tasks.recordBlock s taskId) := by
  unfold recordBlock
  split
  · rename_i judged e candidate _ _
    by_cases hjudged : judged ≠ taskId
    · rw [if_pos hjudged]
      exact .same rfl
    rw [if_neg hjudged]
    by_cases hlock : tasks.rows.Locked s taskId
    · rw [dif_pos hlock]
      exact .same rfl
    rw [dif_neg hlock]
    cases hstored : tasks.stored s taskId with
    | none => exact .same rfl
    | some row =>
      refine .flush none hstored (sameTask_blockedRow candidate e row) ?_ ?_
        (fun _ => .inl rfl) ⟨hlock, rfl, fun s' => ?_⟩ ?_
      · simp [blockedRow, TaskRow.flush, blocked]
      · simp [blockedRow, TaskRow.flush, blocked]
      · simp [settle, remember, journal_wrote]
      · intro s' taskId' hverdict
        rw [verdict_settle] at hverdict
        split at hverdict
        · cases hverdict
        · simpa [remember] using hverdict
  · exact .same rfl

theorem transition_claim {w : String} {u now : Time} :
    Transition quota runs tasks (.claim s taskId w u now) (tasks.claim quota s taskId w u now) := by
  -- the verdict is used up, and the row object is dropped
  have hlost : ∀ (o : Outcome) (tasks' : SqlTasks), o.changes = [] → tasks'.rows = tasks.rows →
      (∀ s', (tasks'.session s').journal = (tasks.session s').journal) →
      (∀ s', (tasks'.session s').verdict = if s' = s then none else (tasks.session s').verdict) →
      Transition quota runs tasks (.claim s taskId w u now) (o, tasks') := by
    intro o tasks' ho hrows hjournal hverdict
    refine .quiet ho hrows hjournal ?_
    intro s' taskId' h
    rw [hverdict] at h
    split at h
    · cases h
    · exact h
  unfold claim
  cases (tasks.session s).loaded.get? taskId with
  | none => exact .same rfl
  | some candidate =>
    simp only
    by_cases hmay : ¬ MayClaim quota tasks s taskId
    · rw [if_pos hmay]
      exact .same rfl
    rw [if_neg hmay]
    by_cases hstatus : candidate.status ≠ .queued
    · rw [if_pos hstatus]
      exact hlost _ _ rfl rfl (by simp [settle]) (tasks.verdict_settle s)
    rw [if_neg hstatus]
    by_cases hlock : tasks.rows.Locked s taskId
    · rw [dif_pos hlock]
      exact .same rfl
    rw [dif_neg hlock]
    have hforget : Transition quota runs tasks (.claim s taskId w u now)
        (.lost, (tasks.forget s taskId).settle s) := by
      refine hlost _ _ rfl rfl (by simp [settle, forget]) fun s' => ?_
      simp [verdict_settle, forget]
    cases hstored : tasks.stored s taskId with
    | none => exact hforget
    | some row =>
      simp only
      by_cases hclaimable : row.Claimable
      · rw [if_pos hclaimable]
        refine .claim hstored (not_not.mp hmay) hclaimable ⟨hlock, rfl, fun s' => ?_⟩ fun s' => ?_
        · simp [settle, remember, journal_wrote, TaskRow.claimed]
        · simp [verdict_settle, remember]
      · rw [if_neg hclaimable]
        exact hforget

variable (quota runs tasks) in
/-- Every step is one of these. -/
theorem transition_exec (step : Step) :
    Transition quota runs tasks step (tasks.exec quota runs step) := by
  cases step with
  | load s taskId =>
    simp only [exec]
    cases tasks.stored s taskId with
    | none => exact .same rfl
    | some row =>
      rcases tasks.load_cases s taskId row with hload | hload <;>
        exact .quiet rfl (by simp [hload, remember]) (by simp [hload, remember])
          (by simp [hload, remember])
  | selectExpired s taskId now =>
    simp only [exec]
    cases tasks.stored s taskId with
    | none => exact .same rfl
    | some row =>
      simp only
      split
      · rcases tasks.load_cases s taskId row with hload | hload <;>
          exact .quiet rfl (by simp [hload, selected, remember])
            (by simp [hload, selected, remember]) (by simp [hload, selected, remember])
      · exact .same rfl
  | expire s taskId => exact .quiet rfl rfl (by simp [forget]) (by simp [forget])
  | write s taskId op =>
    have hwrite : ∀ step : Step, (step.OfLease → ∃ now, op = .reap now) →
        Transition quota runs tasks step (tasks.write s taskId op) :=
      fun step h => transition_write h
    cases op with
    | reap now =>
      simp only [exec]
      split
      · exact hwrite _ fun _ => ⟨now, rfl⟩
      · exact .same rfl
    | _ => exact hwrite _ False.elim
  | count s taskId => exact transition_count
  | recordBlock s taskId => exact transition_recordBlock
  | claim s taskId w u now => exact transition_claim
  | commit s =>
    simp only [exec]
    cases hverdict : (tasks.session s).verdict with
    | none => exact .commit hverdict
    | some verdict => exact .same rfl
  | rollback s => exact .rollback

end

/-! ## What the sessions remember -/

section

/-- What a session remembers after a step: versions of rows that it knew or saw, and rows
for the reaper that it had selected or that were expired. -/
structure Recall (tasks : SqlTasks) (s : Nat) (memory : SqlSession) : Prop where
  loaded : ∀ id row', memory.loaded.get? id = some row' → ∃ row,
    ((tasks.session s).loaded.get? id = some row ∨ tasks.stored s id = some row) ∧ row.SameTask row'
  reaping : ∀ id now leasedUntil, memory.reaping.get? id = some (now, leasedUntil) →
    (tasks.session s).reaping.get? id = some (now, leasedUntil) ∨
      ∃ u, leasedUntil = some u ∧ u < now

/-- Every session remembers such things. -/
def Recalls (tasks tasks' : SqlTasks) : Prop := ∀ s, Recall tasks s (tasks'.session s)

namespace Recalls

variable {tasks tasks' : SqlTasks} {s : Nat} {taskId : Int} {row row' : TaskRow}

theorem refl (tasks : SqlTasks) : Recalls tasks tasks := fun _ =>
  ⟨fun _ row h => ⟨row, .inl h, .refl row⟩, fun _ _ _ h => .inl h⟩

variable (h : Recalls tasks tasks')
include h

theorem updateSession {f : SqlSession → SqlSession} (hf : Recall tasks s (f (tasks'.session s))) :
    Recalls tasks (tasks'.updateSession s f) := by
  intro s'
  rw [session_updateSession]
  split
  · rename_i hs
    exact hs ▸ hf
  · exact h s'

theorem settle (s : Nat) : Recalls tasks (tasks'.settle s) :=
  h.updateSession ⟨(h s).loaded, (h s).reaping⟩

theorem remember
    (hrow : ((tasks.session s).loaded.get? taskId = some row ∨ tasks.stored s taskId = some row) ∧
      row.SameTask row') : Recalls tasks (tasks'.remember s taskId row') := by
  refine h.updateSession ⟨fun id found hfound => ?_, (h s).reaping⟩
  rcases Dict.get?_set_cases hfound with ⟨rfl, rfl⟩ | ⟨_, hold⟩
  · exact ⟨row, hrow⟩
  · exact (h s).loaded id found hold

theorem forget (s : Nat) (taskId : Int) : Recalls tasks (tasks'.forget s taskId) :=
  h.updateSession ⟨fun id found hfound => (h s).loaded id found (Dict.of_get?_erase hfound).2,
    (h s).reaping⟩

theorem wrote (change : RowChange) (hlock : ¬ tasks'.rows.Locked s taskId) :
    Recalls tasks (tasks'.wrote s taskId row change hlock) := by
  intro s'
  rw [session_wrote]
  split
  · rename_i hs
    subst hs
    exact ⟨(h s').loaded, (h s').reaping⟩
  · exact h s'

omit h in
theorem erase (tasks : SqlTasks) (rows : Transactions Int TaskRow) (s : Nat) :
    Recalls tasks ⟨rows, tasks.sessions.erase s⟩ := by
  intro s'
  rw [session_erase]
  split
  · exact ⟨fun _ _ hrow => by simp at hrow, fun _ _ _ hrow => by simp at hrow⟩
  · exact refl tasks s'

end Recalls

variable {tasks : SqlTasks} {s : Nat} {taskId : Int}

theorem recalls_load {row : TaskRow} (hstored : tasks.stored s taskId = some row) :
    Recalls tasks (tasks.load s taskId row) := by
  rcases tasks.load_cases s taskId row with hload | hload <;> rw [hload]
  · exact .refl tasks
  · exact (Recalls.refl tasks).remember ⟨.inr hstored, .refl row⟩

theorem recalls_write (op : RowOp) : Recalls tasks (tasks.write s taskId op).2 := by
  have hrefl := Recalls.refl tasks
  unfold write
  cases hloaded : (tasks.session s).loaded.get? taskId with
  | none => exact hrefl
  | some row =>
    simp only
    obtain ⟨dead, assigned, hrun, hwrites⟩ | ⟨e, hrun⟩ := RowOp.run_act op row
    · rw [hrun]
      simp only [flush]
      split
      · exact hrefl
      · split
        · exact hrefl
        · split
          · exact hrefl
          · exact (hrefl.wrote _ _).remember ⟨.inl hloaded, hwrites.toSameTask⟩
    · rw [hrun]
      exact hrefl

theorem recalls_recordBlock : Recalls tasks (tasks.recordBlock s taskId).2 := by
  have hrefl := Recalls.refl tasks
  unfold recordBlock
  split
  · rename_i hloaded
    split
    · exact hrefl
    · split
      · exact hrefl
      · split
        · exact hrefl
        · refine ((hrefl.wrote _ _).remember ⟨.inl hloaded, ?_⟩).settle s
          exact ⟨rfl, rfl, rfl, rfl, rfl, rfl, rfl, rfl, rfl, rfl⟩
  · exact hrefl

theorem recalls_claim (quota : Option RuntimeQuota) (w : String) (u now : Time) :
    Recalls tasks (tasks.claim quota s taskId w u now).2 := by
  have hrefl := Recalls.refl tasks
  unfold claim
  split
  · exact hrefl
  · split
    · exact hrefl
    · split
      · exact hrefl.settle s
      · split
        · exact hrefl
        · split
          · exact (hrefl.forget s taskId).settle s
          · rename_i row hstored
            split
            · exact ((hrefl.wrote _ _).remember
                ⟨.inr hstored, TaskRow.sameTask_claimed w u now row⟩).settle s
            · exact (hrefl.forget s taskId).settle s

/-- Every step leaves such memories. -/
theorem recalls_exec (quota : Option RuntimeQuota) (runs : Dict Int Run) (tasks : SqlTasks)
    (step : Step) : Recalls tasks (tasks.exec quota runs step).2 := by
  have hrefl := Recalls.refl tasks
  cases step with
  | load s taskId =>
    simp only [exec]
    split
    · exact hrefl
    · rename_i hstored
      exact recalls_load hstored
  | selectExpired s taskId now =>
    simp only [exec]
    split
    · exact hrefl
    · rename_i row hstored
      split
      · rename_i hexpired
        have hload := recalls_load hstored
        refine hload.updateSession ⟨(hload s).loaded, fun id now' u hget => ?_⟩
        rcases Dict.get?_set_cases hget with ⟨_, hnew⟩ | ⟨_, hold⟩
        · cases hnew
          exact .inr hexpired.2.1
        · exact (hload s).reaping id now' u hold
      · exact hrefl
  | expire s taskId => exact hrefl.forget s taskId
  | write s taskId op =>
    cases op with
    | reap now =>
      simp only [exec]
      split
      · exact recalls_write _
      · exact hrefl
    | _ => exact recalls_write _
  | count s taskId =>
    simp only [exec, count]
    split
    · split <;> exact hrefl.updateSession ⟨(hrefl s).loaded, (hrefl s).reaping⟩
    · exact hrefl
  | recordBlock s taskId => exact recalls_recordBlock
  | claim s taskId w u now => exact recalls_claim quota w u now
  | commit s =>
    simp only [exec]
    split
    · exact hrefl
    · exact .erase tasks _ s
  | rollback s => exact .erase tasks _ s

end

end SqlTasks

end DimooRun.Scheduler
