/-
  Scheduler/ExclusiveClaims.lean --- claims of one task never meet.

  Candidates are read from a snapshot and claimed later, while other sessions flush
  methods that looked at yet older versions. What keeps two claims of a task apart is
  the row itself: a transaction that wrote the row keeps it locked, so the committed
  changes of a task, in the order of their commits, are a history of its row. In that
  history a claim needs the status `queued` and raises the token.
-/
import DimooRun.Scheduler.SqlSessions

set_option autoImplicit false

namespace DimooRun.Scheduler

open Foundation DimooRun.Runtime
open Domain (Run)

/-! ## The history of a row -/

/-- The status and the token of a row. -/
abbrev Cell : Type := TaskStatus × Int

/-- The cell of a row. -/
def TaskRow.cell (row : TaskRow) : Cell := (row.status, row.fencingToken)

namespace RowChange

/-- The task that was changed. -/
def taskId : RowChange → Int
  | claim taskId _ _ => taskId
  | flush taskId _ => taskId

section

variable (id : Int) (cell : Cell) (change : RowChange) (changes : List RowChange)

/-- The cell of a task after a change; a claim needs a queued task and its token. -/
def advance : Cell → RowChange → Option Cell
  | (status, token), claim taskId _ fencingToken =>
      if taskId ≠ id then some (status, token)
      else if status = .queued ∧ fencingToken = token + 1 then some (.leased, fencingToken)
      else none
  | (status, token), flush taskId written =>
      if taskId ≠ id then some (status, token) else some (written.getD status, token)

/-- The cell of a task after a list of changes. -/
def track : Option Cell :=
  changes.foldlM (advance id) cell

@[simp] theorem track_nil : track id cell [] = some cell := rfl

theorem track_cons : track id cell (change :: changes) =
      (advance id cell change).bind fun cell' => track id cell' changes := rfl

theorem track_append (changes changes' : List RowChange) : track id cell (changes ++ changes') =
      (track id cell changes).bind fun cell' => track id cell' changes' := by
  unfold track
  rw [List.foldlM_append]
  rfl

end

variable {id : Int} {changes : List RowChange} {cell cell' : Cell}

theorem advance_of_ne {change : RowChange} (h : change.taskId ≠ id) (cell : Cell) :
    advance id cell change = some cell := by
  cases change with
  | claim taskId workerId fencingToken | flush taskId written => exact if_pos h

theorem track_of_ne (h : ∀ c ∈ changes, c.taskId ≠ id) (cell : Cell) :
    track id cell changes = some cell := by
  induction changes with
  | nil => rfl
  | cons change changes ih =>
    rw [track_cons, advance_of_ne (h change List.mem_cons_self)]
    exact ih fun c hc => h c (List.mem_cons_of_mem _ hc)

/-- Tokens do not fall, and a task comes back to the queue only by a change that says so. -/
theorem track_spec (h : track id cell changes = some cell') : cell.2 ≤ cell'.2 ∧
      (cell.1 ≠ .queued → cell'.1 = .queued → flush id (some .queued) ∈ changes) := by
  induction changes generalizing cell with
  | nil =>
    cases h
    exact ⟨le_refl _, fun hne heq => absurd heq hne⟩
  | cons change changes ih =>
    obtain ⟨status, token⟩ := cell
    rw [track_cons, Option.bind_eq_some_iff] at h
    obtain ⟨middle, hfirst, hrest⟩ := h
    obtain ⟨htoken, hqueued⟩ := ih hrest
    -- a change either leaves the status away from the queue, or is the one we look for
    have hstep : token ≤ middle.2 ∧
        (status ≠ .queued → middle.1 = .queued → change = flush id (some .queued)) := by
      cases change with
      | claim taskId workerId fencingToken =>
        simp only [advance] at hfirst
        split at hfirst
        · cases hfirst
          exact ⟨le_refl _, fun hne heq => absurd heq hne⟩
        · split at hfirst
          · cases hfirst
            refine ⟨by simp only; omega, fun _ heq => by cases heq⟩
          · cases hfirst
      | flush taskId written =>
        simp only [advance] at hfirst
        split at hfirst
        · cases hfirst
          exact ⟨le_refl _, fun hne heq => absurd heq hne⟩
        · rename_i hid
          cases hfirst
          refine ⟨le_refl _, fun hne heq => ?_⟩
          cases written with
          | none => exact absurd heq hne
          | some written =>
            have hwritten : written = .queued := heq
            rw [not_not.mp hid, hwritten]
    refine ⟨le_trans hstep.1 htoken, fun hne heq => ?_⟩
    by_cases hmiddle : middle.1 = .queued
    · rw [hstep.2 hne hmiddle]
      exact List.mem_cons_self
    · exact List.mem_cons_of_mem _ (hqueued hmiddle heq)

/-- Two claims in a history: the later one has a higher token, and in between the task
was put back to the queue. -/
theorem track_claims {before between after : List RowChange} {w w' : String} {k k' : Int}
    (h : track id cell (before ++ claim id w k :: between ++ claim id w' k' :: after) = some cell') :
    k < k' ∧ flush id (some .queued) ∈ between := by
  rw [track_append, track_append] at h
  simp only [track_cons, Option.bind_eq_some_iff, advance, ne_eq, not_true_eq_false, if_false,
    Option.ite_none_right_eq_some, Option.some.injEq] at h
  obtain ⟨middle, ⟨first, _, second, ⟨_, rfl⟩, hbetween⟩, last, ⟨⟨hqueued, htoken⟩, _⟩, _⟩ := h
  obtain ⟨hle, hback⟩ := track_spec hbetween
  refine ⟨?_, hback (by simp) hqueued⟩
  omega

end RowChange

/-! ## Committed changes are histories -/

namespace SqlTasks

open RowChange

/-- How the committed changes, the journals and the versions of the rows belong
together. -/
structure Serial (table : Dict Int TaskRow) (history : List RowChange) (tasks : SqlTasks) :
    Prop where
  /-- a session holds a version of every row in its journal -/
  journaled : ∀ s, ∀ c ∈ (tasks.session s).journal, ∃ row,
    (tasks.rows.writes s).get? c.taskId = some row
  /-- the version is the committed row with the session's changes -/
  pending : ∀ s id row, (tasks.rows.writes s).get? id = some row → ∃ base,
    tasks.rows.committed.get? id = some base ∧
      track id (base.cell) (tasks.session s).journal = some (row.cell)
  /-- only rows of the table were changed -/
  known : ∀ c ∈ history, ∃ row, tasks.rows.committed.get? c.taskId = some row
  /-- the committed row is that of the table with the committed changes -/
  committed : ∀ id row, tasks.rows.committed.get? id = some row → ∃ base,
    table.get? id = some base ∧ track id (base.cell) history = some (row.cell)

namespace Serial

variable {table : Dict Int TaskRow} {history : List RowChange} {tasks tasks' : SqlTasks}

theorem init (table : Dict Int TaskRow) : Serial table [] (ofTable table) where
  journaled s c hc := by simp [ofTable, session] at hc
  pending s id row hrow := by simp [ofTable] at hrow
  known c hc := by simp at hc
  committed id row hrow := ⟨row, hrow, rfl⟩

section

variable (h : Serial table history tasks)
include h

/-- The version that a session sees is the committed row with the session's changes. -/
theorem stored {s : Nat} {id : Int} {row : TaskRow} (hrow : tasks.stored s id = some row) :
    ∃ base, tasks.rows.committed.get? id = some base ∧
      track id (base.cell) (tasks.session s).journal = some (row.cell) := by
  rw [SqlTasks.stored, Transactions.get?_visible, Option.or_eq_some_iff] at hrow
  obtain hown | ⟨hnone, hcommitted⟩ := hrow
  · exact h.pending s id row hown
  · refine ⟨row, hcommitted, track_of_ne (fun c hc hid => ?_) _⟩
    obtain ⟨row', hrow'⟩ := h.journaled s c hc
    rw [hid, hnone] at hrow'
    cases hrow'

/-- Rows and journals decide. -/
theorem congr (hrows : tasks'.rows = tasks.rows)
    (hjournal : ∀ s, (tasks'.session s).journal = (tasks.session s).journal) :
    Serial table history tasks' where
  journaled := by simpa only [hrows, hjournal] using h.journaled
  pending := by simpa only [hrows, hjournal] using h.pending
  known := by simpa only [hrows] using h.known
  committed := by simpa only [hrows] using h.committed

/-- A change that fits the version the session sees. -/
theorem writes {s : Nat} {id : Int} {row row' : TaskRow} {change : RowChange}
    (hstored : tasks.stored s id = some row) (hid : change.taskId = id)
    (hadvance : advance id (row.cell) change = some (row'.cell))
    (hwrites : tasks.Writes tasks' s id row' change) : Serial table history tasks' where
  journaled s' c hc := by
    rw [hwrites.journal] at hc
    rw [hwrites.rows]
    simp only [Transactions.get?_writes_write]
    split at hc
    · rename_i hs
      subst hs
      rcases List.mem_append.mp hc with hold | hnew
      · obtain ⟨old, hold⟩ := h.journaled s' c hold
        by_cases hsame : c.taskId = id
        · exact ⟨row', by simp [hsame]⟩
        · exact ⟨old, by simp [hsame, hold]⟩
      · rw [List.mem_singleton.mp hnew]
        exact ⟨row', by simp [hid]⟩
    · rename_i hs
      obtain ⟨old, hold⟩ := h.journaled s' c hc
      exact ⟨old, by simp [hs, hold]⟩
  pending s' id' row'' hrow := by
    rw [hwrites.rows, Transactions.get?_writes_write] at hrow
    rw [hwrites.rows, hwrites.journal]
    split at hrow
    · rename_i hboth
      obtain ⟨rfl, rfl⟩ := hboth
      cases hrow
      obtain ⟨base, hbase, htrack⟩ := h.stored hstored
      refine ⟨base, hbase, ?_⟩
      rw [if_pos rfl, track_append, htrack]
      simp [track_cons, hadvance]
    · rename_i hother
      obtain ⟨base, hbase, htrack⟩ := h.pending s' id' row'' hrow
      refine ⟨base, hbase, ?_⟩
      split
      · rename_i hs
        subst hs
        have hne : change.taskId ≠ id' := fun heq => hother ⟨rfl, (hid.symm.trans heq).symm⟩
        rw [track_append, htrack]
        simp [track_cons, advance_of_ne hne]
      · exact htrack
  known := by simpa only [hwrites.rows, Transactions.committed_write] using h.known
  committed := by simpa only [hwrites.rows, Transactions.committed_write] using h.committed

/-- The end of a transaction: the other sessions keep their rows and journals. -/
theorem closed {s : Nat} {history' : List RowChange} {rows : Transactions Int TaskRow}
    (hwrites : ∀ s', rows.writes s' = if s' = s then Dict.empty else tasks.rows.writes s')
    (hcommitted : ∀ s' id row, s' ≠ s → (tasks.rows.writes s').get? id = some row →
      rows.committed.get? id = tasks.rows.committed.get? id)
    (hknown : ∀ c ∈ history', ∃ row, rows.committed.get? c.taskId = some row)
    (hhistory : ∀ id row, rows.committed.get? id = some row → ∃ base,
      table.get? id = some base ∧ track id (base.cell) history' = some (row.cell)) :
    Serial table history' ⟨rows, tasks.sessions.erase s⟩ where
  journaled s' c hc := by
    rw [session_erase] at hc
    rw [hwrites]
    split at hc
    · simp at hc
    · rename_i hs
      rw [if_neg hs]
      exact h.journaled s' c hc
  pending s' id row hrow := by
    simp only [hwrites] at hrow
    rw [session_erase]
    split at hrow
    · simp at hrow
    · rename_i hs
      rw [if_neg hs, hcommitted s' id row hs hrow]
      exact h.pending s' id row hrow
  known := hknown
  committed := hhistory

theorem commit (s : Nat) : Serial table (history ++ (tasks.session s).journal)
      ⟨tasks.rows.commit s, tasks.sessions.erase s⟩ := by
  refine h.closed (tasks.rows.writes_commit s)
    (fun s' id row hs hrow => tasks.rows.get?_commit_of_locked hs hrow) (fun c hc => ?_)
    fun id row hrow => ?_
  · rw [Transactions.committed_commit]
    simp only [Transactions.get?_visible]
    rcases List.mem_append.mp hc with hold | hnew
    · obtain ⟨row, hrow⟩ := h.known c hold
      cases hown : (tasks.rows.writes s).get? c.taskId with
      | none => exact ⟨row, hrow⟩
      | some own => exact ⟨own, rfl⟩
    · obtain ⟨row, hrow⟩ := h.journaled s c hnew
      exact ⟨row, by rw [hrow]; rfl⟩
  · obtain ⟨base, hbase, htrack⟩ := h.stored hrow
    obtain ⟨first, hfirst, hhistory⟩ := h.committed id base hbase
    refine ⟨first, hfirst, ?_⟩
    rw [track_append, hhistory]
    exact htrack

theorem rollback (s : Nat) : Serial table history ⟨tasks.rows.rollback s, tasks.sessions.erase s⟩ :=
  h.closed (tasks.rows.writes_rollback s) (fun _ _ _ _ _ => rfl) h.known h.committed

/-- Every step keeps it. -/
theorem exec (quota : Option RuntimeQuota) (runs : Dict Int Run) (step : Step) :
    Serial table (history ++ (tasks.exec quota runs step).1.changes)
      (tasks.exec quota runs step).2 := by
  have htransition := transition_exec quota runs tasks step
  generalize tasks.exec quota runs step = result at htransition
  cases htransition with
  | quiet ho hrows hjournal _ =>
    rw [ho, List.append_nil]
    exact h.congr hrows hjournal
  | approve =>
    show Serial table (history ++ []) _
    rw [List.append_nil]
    exact h.congr rfl (by simp)
  | flush status hstored _ htoken hstatus _ hwrites _ =>
    show Serial table (history ++ []) _
    rw [List.append_nil]
    refine h.writes hstored rfl ?_ hwrites
    simp [advance, TaskRow.cell, htoken, hstatus]
  | claim hstored _ hclaimable hwrites _ =>
    show Serial table (history ++ []) _
    rw [List.append_nil]
    refine h.writes hstored rfl ?_ hwrites
    simp [advance, TaskRow.cell, TaskRow.claimed, hclaimable.1]
  | commit _ => exact h.commit _
  | rollback =>
    show Serial table (history ++ []) _
    rw [List.append_nil]
    exact h.rollback _

end

end Serial

/-- The changes that the steps of a run committed, in the order of the commits. -/
def committedChanges (records : List (Entry SqlTasks Step Outcome)) : List RowChange :=
  records.flatMap fun record => record.reply.changes

theorem serial_final (quota : Option RuntimeQuota) (runs : Dict Int Run)
    (table : Dict Int TaskRow) (steps : List Step) :
    Serial table (committedChanges (trace (SqlTasks.exec quota runs) (ofTable table) steps))
      (final (SqlTasks.exec quota runs) (ofTable table) steps) := by
  have hstep : ∀ (records : List (Entry SqlTasks Step Outcome)) (tasks : SqlTasks) (step : Step),
      True → Serial table (committedChanges records) tasks →
        Serial table (committedChanges (records ++ [entry (SqlTasks.exec quota runs) tasks step]))
          (SqlTasks.exec quota runs tasks step).2 := by
    intro records tasks step _ h
    simpa [committedChanges, entry] using h.exec quota runs step
  simpa using history_induction (SqlTasks.exec quota runs) hstep steps [] (ofTable table)
    (Serial.init table) (admitted_true _ _ _)

/-- Of two committed claims of a task the later one has the higher token, and between the
two a committed change put the task back to the queue. -/
theorem claims_exclusive (quota : Option RuntimeQuota) (runs : Dict Int Run)
    (table : Dict Int TaskRow) (steps : List Step) (taskId : Int) (workerId workerId' : String)
    (token token' : Int) (before between after : List RowChange)
    (h : committedChanges (trace (SqlTasks.exec quota runs) (ofTable table) steps) =
      before ++ RowChange.claim taskId workerId token :: between ++
        RowChange.claim taskId workerId' token' :: after) :
    token < token' ∧ RowChange.flush taskId (some .queued) ∈ between := by
  have hserial := serial_final quota runs table steps
  have hmem : RowChange.claim taskId workerId token ∈
      committedChanges (trace (SqlTasks.exec quota runs) (ofTable table) steps) := by
    rw [h]
    simp
  obtain ⟨row, hrow⟩ := hserial.known _ hmem
  obtain ⟨base, _, htrack⟩ := hserial.committed taskId row hrow
  rw [h] at htrack
  exact track_claims htrack

/-- A task that fails once and is leased again. -/
def retriedSteps : List Step :=
  [.load 1 7, .claim 1 7 "a" 100 0, .commit 1, .load 1 7, .write 1 7 (.fail "a" 1 "boom" 5),
    .commit 1, .load 2 7, .claim 2 7 "b" 200 10, .commit 2]

/-- The table with the task. -/
def oneTask : Dict Int TaskRow :=
  Dict.empty.set 7 { id := 7, runId := 1, tenantId := 1, projectId := 1, createdAt := 0 }

theorem claims_exclusive_retried :
    committedChanges (trace (SqlTasks.exec none .empty) (ofTable oneTask) retriedSteps) =
        [.claim 7 "a" 1, .flush 7 (some .queued), .claim 7 "b" 2] ∧
      (1 : Int) < 2 ∧ RowChange.flush 7 (some .queued) ∈ [RowChange.flush 7 (some .queued)] :=
  ⟨by decide, claims_exclusive none .empty oneTask retriedSteps 7 "a" "b" 1 2 [] _ [] (by decide)⟩

end SqlTasks

/-! ## Late updates

The methods check owner, token and expiry on the row object, and the UPDATE that
follows names the primary key only. In between another session may reap the task,
lease it again or renew the lease. Then the checks speak about a version of the row
that is no more, and the UPDATE goes through. -/

/-- The lease with this worker and token is no more: the task was reaped or leased
again. -/
def TaskRow.Superseded (workerId : String) (fencingToken : Int) (row : TaskRow) : Prop :=
  row.workerId ≠ some workerId ∨ row.fencingToken ≠ fencingToken

/-- The task is leased or running, and its lease is not over. -/
def TaskRow.Renewed (now : Time) (row : TaskRow) : Prop :=
  (row.status = .leased ∨ row.status = .running) ∧
    ¬ ∃ leasedUntil, row.leasedUntil = some leasedUntil ∧ leasedUntil < now

namespace SqlTasks

section

variable (tasks : SqlTasks) (step : Step)

/-- What a step must not do: a completion or a failure of a superseded lease changes
status or attempt, or a reap takes a renewed lease away. -/
def Fenced (tasks' : SqlTasks) : Prop :=
  match step with
  | .write s taskId (.complete workerId fencingToken _)
  | .write s taskId (.fail workerId fencingToken _ _) =>
      ∀ row, tasks.stored s taskId = some row → TaskRow.Superseded workerId fencingToken row →
        ∃ row', tasks'.stored s taskId = some row' ∧ row'.status = row.status ∧
          row'.attempt = row.attempt
  | .write s taskId (.reap now) =>
      ∀ row, tasks.stored s taskId = some row → TaskRow.Renewed now row →
        ∃ row', tasks'.stored s taskId = some row' ∧ row'.status = row.status ∧
          row'.workerId = row.workerId ∧ row'.leasedUntil = row.leasedUntil
  | _ => True

/-- The row has not changed since it was read: at the UPDATE of a completion or a failure
it has the worker and the token of the row object, at that of a reap the end of the lease
that the SELECT compared. -/
def Current : Prop :=
  match step with
  | .write s taskId (.complete _ _ _) | .write s taskId (.fail _ _ _ _) =>
      ∀ loaded row, (tasks.session s).loaded.get? taskId = some loaded →
        tasks.stored s taskId = some row →
          row.workerId = loaded.workerId ∧ row.fencingToken = loaded.fencingToken
  | .write s taskId (.reap now) =>
      ∀ leasedUntil row, (tasks.session s).reaping.get? taskId = some (now, leasedUntil) →
        tasks.stored s taskId = some row → row.leasedUntil = leasedUntil
  | _ => True

/-! ## What the reaper has selected -/

/-- Whatever the reaper has selected was expired. -/
def SelectedExpired : Prop :=
  ∀ s taskId now leasedUntil, (tasks.session s).reaping.get? taskId = some (now, leasedUntil) →
    ∃ u, leasedUntil = some u ∧ u < now

theorem selectedExpired_exec {quota : Option RuntimeQuota} {runs : Dict Int Run}
    {tasks : SqlTasks} (h : tasks.SelectedExpired) :
    (tasks.exec quota runs step).2.SelectedExpired := by
  intro s taskId now leasedUntil hget
  rcases (recalls_exec quota runs tasks step s).reaping taskId now leasedUntil hget with
    hold | hexpired
  · exact h s taskId now leasedUntil hold
  · exact hexpired

end

/-! ## Writes on current rows -/

section

variable {quota : Option RuntimeQuota} {runs : Dict Int Run} {tasks : SqlTasks}

/-- A method that needs worker and token does nothing to a row that is not theirs, if the
row object is up to date. -/
theorem write_of_superseded {s : Nat} {taskId : Int} {op : RowOp} {w : String} {k : Int}
    {row : TaskRow}
    (hreap : ∀ now, op ≠ .reap now)
    (hop : ∀ {state state' : TaskState}, op.taskOp.apply state = some state' → state.HeldBy w k)
    (hcurrent : ∀ loaded, (tasks.session s).loaded.get? taskId = some loaded →
      row.workerId = loaded.workerId ∧ row.fencingToken = loaded.fencingToken)
    (hrow : TaskRow.Superseded w k row) : (tasks.write s taskId op).2 = tasks := by
  unfold write
  cases hloaded : (tasks.session s).loaded.get? taskId with
  | none => rfl
  | some loaded =>
    simp only
    obtain ⟨dead, assigned, hrun, _⟩ | ⟨e, hrun⟩ := RowOp.run_act op loaded
    · obtain ⟨_, happly, _⟩ :=
        (RowOp.refines loaded op fun now heq => absurd heq (hreap now)).of_ok hrun
      obtain ⟨htoken, hworker⟩ := hop happly
      obtain ⟨hsameWorker, hsameToken⟩ := hcurrent loaded hloaded
      rcases hrow with hne | hne
      · exact absurd (hsameWorker.trans hworker) hne
      · exact absurd (hsameToken.trans htoken) hne
    · rw [hrun]

/-- A step on a current row is fenced. -/
theorem fenced_exec (h : tasks.SelectedExpired) {step : Step} (hcurrent : tasks.Current step) :
    tasks.Fenced step (tasks.exec quota runs step).2 := by
  cases step with
  | write s taskId op =>
    cases op with
    | complete w k now =>
      intro row hrow hsuperseded
      have hsame : (tasks.exec quota runs (.write s taskId (.complete w k now))).2 = tasks :=
        write_of_superseded nofun (fun happly => (Option.ite_none_right_eq_some.mp happly).1.1)
          (fun loaded hloaded => hcurrent loaded row hloaded hrow) hsuperseded
      rw [hsame]
      exact ⟨row, hrow, rfl, rfl⟩
    | fail w k message now =>
      intro row hrow hsuperseded
      have hsame : (tasks.exec quota runs (.write s taskId (.fail w k message now))).2 = tasks :=
        write_of_superseded nofun (fun happly => (Option.ite_none_right_eq_some.mp happly).1.1)
          (fun loaded hloaded => hcurrent loaded row hloaded hrow) hsuperseded
      rw [hsame]
      exact ⟨row, hrow, rfl, rfl⟩
    | reap now =>
      intro row hrow hrenewed
      simp only [exec]
      split
      · rename_i hselected
        obtain ⟨⟨now', leasedUntil⟩, hreaping, rfl⟩ := Option.map_eq_some_iff.mp hselected
        obtain ⟨u, rfl, hlt⟩ := h s taskId now' leasedUntil hreaping
        exact absurd ⟨u, hcurrent _ row hreaping hrow, hlt⟩ hrenewed.2
      · exact ⟨row, hrow, rfl, rfl, rfl⟩
    | _ => trivial
  | _ => trivial

end

/-- In every run whose completions, failures and reaps are flushed onto rows that have not
changed since they were read, no superseded completion or failure changes status or
attempt, and no reap takes a renewed lease away. -/
theorem writes_fenced_when_current (quota : Option RuntimeQuota) (runs : Dict Int Run)
    (table : Dict Int TaskRow) (steps : List Step)
    (h : Admitted (SqlTasks.exec quota runs) Current (ofTable table) steps) :
    ∀ record ∈ trace (SqlTasks.exec quota runs) (ofTable table) steps,
      record.before.Fenced record.call record.after := by
  have hinit : (ofTable table).SelectedExpired := by
    intro s taskId now leasedUntil hget
    simp [ofTable, session] at hget
  have hstep : ∀ (tasks : SqlTasks) (step : Step), tasks.Current step → tasks.SelectedExpired →
      tasks.Fenced step (tasks.exec quota runs step).2 ∧
        (tasks.exec quota runs step).2.SelectedExpired :=
    fun tasks step hcurrent hselected =>
      ⟨fenced_exec hselected hcurrent, selectedExpired_exec step hselected⟩
  exact forall_mem_trace (SqlTasks.exec quota runs) hstep steps (ofTable table) hinit h

/-- A task that worker `a` holds with token 1 until time 10. -/
def heldTask : Dict Int TaskRow :=
  Dict.empty.set 7
    { id := 7
      runId := 1
      tenantId := 1
      projectId := 1
      status := .running
      workerId := some "a"
      leasedUntil := some 10
      fencingToken := 1
      createdAt := 0 }

/-- The lease of the task that is committed after some steps. -/
def leaseAfter (steps : List Step) : Option (TaskStatus × Option String × Int × Option Time) :=
  ((final (SqlTasks.exec none .empty) (ofTable heldTask) steps).rows.committed.get? 7).map
    fun row => (row.status, row.workerId, row.fencingToken, row.leasedUntil)

/-- Worker `a` renews its lease before the reaper comes. When it is over, the task is reaped and
leased to `b`, and `a` tries to complete it. -/
def superseded : List Step :=
  [.load 1 7, .write 1 7 (.heartbeat "a" 30 5), .commit 1,
    .selectExpired 2 7 20, .write 2 7 (.reap 20), .commit 2,
    .selectExpired 2 7 40000000, .write 2 7 (.reap 40000000), .commit 2,
    .load 3 7, .claim 3 7 "b" 90000000 40000000, .commit 3,
    .load 1 7, .write 1 7 (.complete "a" 1 40000001), .commit 1]

/-- Neither the renewed lease nor that of `b` is touched. -/
theorem writes_fenced_when_current_superseded :
    Admitted (SqlTasks.exec none .empty) Current (ofTable heldTask) superseded ∧
      (∀ record ∈ trace (SqlTasks.exec none .empty) (ofTable heldTask) superseded,
        record.before.Fenced record.call record.after) ∧
      leaseAfter (superseded.take 6) = some (.running, some "a", 1, some 30000005) ∧
      leaseAfter superseded = some (.leased, some "b", 2, some 90000000) := by
  refine (fun h => ⟨h, writes_fenced_when_current none .empty heldTask _ h, by decide +kernel,
    by decide +kernel⟩) ⟨trivial, trivial, trivial, trivial, ?_, trivial, trivial, ?_, trivial,
      trivial, trivial, trivial, trivial, ?_, trivial, trivial⟩
  · intro leasedUntil row hreaping
    cases hreaping
  · intro leasedUntil row hreaping hrow
    cases hreaping
    cases hrow
    rfl
  · rintro loaded row hloaded hrow
    have hsame : some loaded = some row := hloaded.symm.trans hrow
    cases hsame
    exact ⟨rfl, rfl⟩

/-- The session of worker `a` loads the task; the lease runs out, the task is reaped and
leased to `b`. -/
def overtaken : List Step :=
  [.load 1 7, .selectExpired 2 7 20, .write 2 7 (.reap 20), .commit 2, .load 2 7,
    .claim 2 7 "b" 50 20, .commit 2]

/-- A reaper selects the task, and worker `a` renews its lease. -/
def renewed : List Step :=
  [.selectExpired 1 7 20, .load 2 7, .write 2 7 (.heartbeat "a" 30 19), .commit 2]

/-- The completion of `a` is flushed over the lease of `b`, and the reaper takes the
renewed lease away. -/
theorem late_update_breaks_lease : leaseAfter overtaken = some (.leased, some "b", 2, some 50) ∧
      leaseAfter (overtaken ++ [.write 1 7 (.complete "a" 1 21), .commit 1]) =
        some (.succeeded, some "b", 2, none) ∧
      leaseAfter renewed = some (.running, some "a", 1, some 30000019) ∧
      leaseAfter (renewed ++ [.write 1 7 (.reap 20), .commit 1]) = some (.queued, none, 1, none) :=
  ⟨by decide, by decide, by decide, by decide⟩

end SqlTasks

end DimooRun.Scheduler
