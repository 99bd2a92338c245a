/-
  Scheduler/Reaping.lean --- a round of the reaper, in the three backends.

  A round that returns has put back or given up every task whose lease is over, and has
  left the others. In the Redis backend this holds of one queue only, also where no queue
  is named.
-/
import Mathlib.Algebra.GroupWithZero.Nat
import DimooRun.Scheduler.RedisLives

set_option autoImplicit false

namespace DimooRun.Scheduler

open Foundation DimooRun.Runtime Persistence.EventTable
open Domain (Run RunAttempt Event RowOrder)
open Persistence (EventKey)
open Persistence.EventRepository (nextSequence listByRun)

/-! ## The reaper of the SQLAlchemy backend

Besides putting expired tasks back or giving them up, the reaper fails the run of a task
whose last attempt was lost, and appends events. It raises if that run is over or
interrupted, if a deleted event occupies a sequence it is about to use, or if a number
does not fit its column; and since every lease starts with the reaper, nothing is leased
then, from any queue. -/

namespace SqlBackend

section

variable (b : SqlBackend) (runId : Int) (n : Nat)

/-- The reaper can fail the run, if it is there. -/
def Failable : Prop :=
  ∀ run, b.runs.get? runId = some run →
    run.status = .pending ∨ run.status = .running ∨ run.status = .failed

/-- The sequence so many places after the next one of the run is free and fits its column. -/
def Room (i : Nat) : Prop :=
  b.events.get? (runId, nextSequence b.events runId + i) = none ∧
    nextSequence b.events runId + i ≤ b.database.top

/-- So many sequences of the run are free, from the next one on. -/
def Free : Prop := ∀ i < n, b.Room runId i

/-- Every event is under its key, and none is deleted. -/
def EventsLive (events : Dict EventKey Event) : Prop :=
  ∀ key event, events.get? key = some event → keyOf event = key ∧ event.isDeleted = false

/-- The database takes the attempt that is flushed with the events. -/
def Flushes (failed : Option RunAttempt) : Prop :=
  ∀ attempt, failed = some attempt → b.database.holds attempt = true

/-- So many events were appended to the run, and no run has become one that the reaper cannot
fail. -/
structure Extends (b b' : SqlBackend) : Prop where
  room : ∀ id i, b'.Room id i ↔ b.Room id ((if id = runId then n else 0) + i)
  live : EventsLive b.events → EventsLive b'.events
  failable : ∀ id, b'.Failable id ↔ b.Failable id
  database : b'.database = b.database

end

variable {runId : Int} {n n' : Nat} {b b' b'' : SqlBackend}

theorem Extends.trans (h : Extends runId n b b') (h' : Extends runId n' b' b'') :
    Extends runId (n + n') b b'' where
  room id i := by
    rw [h'.room, h.room, ← Nat.add_assoc]
    split <;> rfl
  live hlive := h'.live (h.live hlive)
  failable id := (h'.failable id).trans (h.failable id)
  database := h'.database.trans h.database

/-- What is free after the appends was free before them. -/
theorem Extends.free (h : Extends runId n b b') (id : Int) (k : Nat) :
    b.Free id ((if id = runId then n else 0) + k) ↔
      b.Free id (if id = runId then n else 0) ∧ b'.Free id k := by
  constructor
  · intro hfree
    exact ⟨fun i hi => hfree i (by omega), fun i hi => (h.room id i).mpr (hfree _ (by omega))⟩
  · rintro ⟨hfree, hfree'⟩ i hi
    by_cases hlt : i < if id = runId then n else 0
    · exact hfree i hlt
    · obtain ⟨j, rfl⟩ := Nat.exists_eq_add_of_le (Nat.le_of_not_lt hlt)
      exact (h.room id j).mp (hfree' j (by omega))

/-- The sequences above the live events are free if no event is deleted. -/
theorem EventsLive.free (h : EventsLive b.events)
    (hfits : ∀ i < n, nextSequence b.events runId + (i : Nat) ≤ b.database.top) :
    b.Free runId n := by
  intro i hi
  refine ⟨?_, hfits i hi⟩
  by_contra hnot
  obtain ⟨event, hevent⟩ := Option.ne_none_iff_exists'.mp hnot
  obtain ⟨hkey, hlive⟩ := h _ event hevent
  have hlt := lt_nextSequence (mem_listByRun.mpr ⟨⟨_, hevent⟩, congrArg Prod.fst hkey, hlive⟩)
  have hsequence : event.sequence = nextSequence b.events runId + i := congrArg Prod.snd hkey
  dsimp only at hlt
  omega

/-- A part of the loop has what it needs of the tables and returns, or it raises. -/
def Needs (P : SqlBackend → Prop) (runId : Int) (n : Nat) (m : SqlM Unit) : Prop :=
  ∀ b, ((P b ∧ b.Free runId n) ∧ ∃ b', m.run b = .ok () b' ∧ Extends runId n b b') ∨
    ¬ (P b ∧ b.Free runId n) ∧ ∃ e b', m.run b = .error e b'

theorem Needs.bind {P P' : SqlBackend → Prop} {m m' : SqlM Unit} (h : Needs P runId n m)
    (h' : Needs P' runId n' m') (hsame : ∀ b b', Extends runId n b b' → (P' b' ↔ P' b)) :
    Needs (fun b => P b ∧ P' b) runId (n + n') (m >>= fun _ => m') := by
  intro b
  simp only [EStateM.run_bind]
  rcases h b with ⟨⟨hrun, hfree⟩, b₁, hok, hextends⟩ | ⟨hnot, e, b₁, herror⟩
  · have hfree_iff := hextends.free runId n'
    rw [if_pos rfl] at hfree_iff
    have hthen := hsame b b₁ hextends
    simp only [hok]
    rcases h' b₁ with ⟨⟨hrun', hfree'⟩, b₂, hok', hextends'⟩ | ⟨hnot, e, b₂, herror⟩
    · exact .inl ⟨⟨⟨hrun, hthen.mp hrun'⟩, hfree_iff.mpr ⟨hfree, hfree'⟩⟩, b₂, hok',
        hextends.trans hextends'⟩
    · exact .inr ⟨fun ⟨hboth, hall⟩ => hnot ⟨hthen.mpr hboth.2, (hfree_iff.mp hall).2⟩, e, b₂,
        herror⟩
  · refine .inr ⟨fun ⟨hboth, hall⟩ => hnot ⟨hboth.1, fun i hi => ?_⟩, e, b₁, ?_⟩
    · exact hall i (by omega)
    · rw [herror]

theorem needs_flushFailed (failed : Option RunAttempt) (runId : Int) :
    Needs (·.Flushes failed) runId 0 (flushFailed failed) := by
  intro b
  have hfree : b.Free runId 0 := fun i hi => absurd hi (Nat.not_lt_zero i)
  have hextends : Extends runId 0 b b := ⟨fun id i => by simp, id, fun _ => Iff.rfl, rfl⟩
  cases failed with
  | none => exact .inl ⟨⟨fun _ h => (by cases h), hfree⟩, b, rfl, hextends⟩
  | some attempt =>
    simp only [Flushes, Option.some.injEq, forall_eq', flushFailed, EStateM.run_bind,
      EStateM.run_get]
    split
    · rename_i hholds
      exact .inl ⟨⟨hholds, hfree⟩, b, rfl, hextends⟩
    · rename_i hnot
      exact .inr ⟨fun h => hnot h.1, _, b, rfl⟩

theorem needs_appendReaperEvent (task : TaskRow) (type : String) (payload : PyDict) :
    Needs (fun _ => True) task.runId 1 (appendReaperEvent task type payload) := by
  intro b
  show (_ ∧ ∃ b', appendReaperEvent task type payload b = .ok () b' ∧ _) ∨
    _ ∧ ∃ e b', appendReaperEvent task type payload b = .error e b'
  have hone : b.Free task.runId 1 ↔
      b.events.get? (task.runId, nextSequence b.events task.runId) = none ∧
        nextSequence b.events task.runId ≤ b.database.top := by
    simp [Free, Room]
  unfold appendReaperEvent
  dsimp only
  split
  · rename_i event hevent
    refine .inr ⟨fun h => ?_, _, _, rfl⟩
    cases hevent.symm.trans (hone.mp h.2).1
  rename_i hfree
  split
  case isFalse hlarge => exact .inr ⟨fun h => hlarge (hone.mp h.2).2, _, _, rfl⟩
  case isTrue hfits =>
    refine .inl ⟨⟨trivial, hone.mpr ⟨hfree, hfits⟩⟩, _, rfl, fun id i => ?_,
      fun hlive key event hget => ?_, fun id => Iff.rfl, rfl⟩
    · have hnext : nextSequence _ id = nextSequence b.events id +
          (if id = task.runId then 1 else 0 : Nat) := nextSequence_set hfree rfl rfl id
      unfold Room
      rw [hnext, Dict.get?_set_ne, Int.add_assoc, Int.natCast_add]
      intro hkey
      have hid : id = task.runId := congrArg Prod.fst hkey
      have hsequence : nextSequence b.events id + _ + (i : Int) =
        nextSequence b.events task.runId := congrArg Prod.snd hkey
      rw [hid, if_pos rfl] at hsequence
      omega
    · rcases Dict.get?_set_cases hget with ⟨rfl, rfl⟩ | ⟨_, hold⟩
      · exact ⟨rfl, rfl⟩
      · exact hlive key event hold

theorem needs_failRunForReaper (runId : Int) :
    Needs (·.Failable runId) runId 0 (failRunForReaper runId) := by
  intro b
  have hfree : b.Free runId 0 := fun i hi => absurd hi (Nat.not_lt_zero i)
  -- what is assigned to the runs leaves those that can be failed such
  have hextends : ∀ runs, (∀ id, Failable { b with runs := runs } id ↔ b.Failable id) →
      Extends runId 0 b { b with runs := runs } :=
    fun runs hruns => ⟨fun id i => by simp [Room], fun hlive => hlive, hruns, rfl⟩
  unfold failRunForReaper
  simp only [EStateM.run_bind, EStateM.run_get]
  cases hget : b.runs.get? runId with
  | none =>
    refine .inl ⟨⟨fun run hrun => ?_, hfree⟩, b, rfl, hextends b.runs fun _ => Iff.rfl⟩
    cases hget.symm.trans hrun
  | some run =>
    have hiff : b.Failable runId ↔
        run.status = .pending ∨ run.status = .running ∨ run.status = .failed := by
      simp [Failable, hget]
    dsimp only
    cases hstatus : run.status with
    | failed =>
      exact .inl ⟨⟨hiff.mpr (by simp [hstatus]), hfree⟩, b, rfl,
        hextends b.runs fun _ => Iff.rfl⟩
    | pending | running =>
      have hfailable := hiff.mpr (by simp [hstatus])
      refine .inl ⟨⟨hfailable, hfree⟩, _, rfl, hextends _ fun id => ?_⟩
      by_cases hid : id = runId
      · subst hid
        exact iff_of_true (by simp [Failable]) hfailable
      · simp [Failable, Dict.get?_set_ne _ _ hid]
    | _ => exact .inr ⟨fun h => absurd (hiff.mp h.1) (by simp [hstatus]), _, _, rfl⟩

end SqlBackend

/-- How many events the reaper appends for the task. -/
def TaskRow.reaperEvents (task : TaskRow) : Nat :=
  if task.LastAttempt then 4 else if task.status = .running then 2 else 1

namespace SqlBackend

variable {b b' : SqlBackend} {now : Time} {taskId : Int} {row : TaskRow}

theorem nextId_update (t : Domain.Table TaskRow) (id : Int) (f : TaskRow → TaskRow) :
    (t.update id f).nextId = t.nextId := by
  unfold Domain.Table.update
  split <;> rfl

theorem needs_reapRun (latest : Option (Int × RunAttempt)) (failed : Option RunAttempt)
    (taskId : Int) (row : TaskRow) :
    Needs (fun b => (row.LastAttempt → b.Failable row.runId) ∧ b.Flushes failed) row.runId
      (row.reaperEvents) (reapRun row latest failed taskId (row.LastAttempt)) := by
  have happend := needs_appendReaperEvent row
  have hflush := needs_flushFailed failed row.runId
  unfold reapRun TaskRow.reaperEvents
  by_cases hlast : row.LastAttempt
  · simp only [hlast, if_true]
    simpa using (needs_failRunForReaper row.runId).bind (hflush.bind ((happend _ _).bind
      ((happend _ _).bind ((happend _ _).bind (happend _ _) (by simp)) (by simp)) (by simp))
        (by simp)) fun b b' hextends => by simp [Flushes, hextends.database]
  · simp only [hlast, decide_false, if_false]
    by_cases hrunning : row.status = .running
    · simpa [hrunning] using hflush.bind ((happend _ _).bind (happend _ _) (by simp)) (by simp)
    · simpa [hrunning] using hflush.bind (happend _ _) (by simp)

/-- What the reaper needs for one task. -/
structure ClearFor (b : SqlBackend) (now : Time) (order : RowOrder) (taskId : Int) (row : TaskRow) :
    Prop where
  run : row.LastAttempt → b.Failable row.runId
  attempt : b.Flushes (b.lost now order taskId row)
  events : b.Free row.runId (row.reaperEvents)

/-- What the reaper needs for one task, and what it does then. -/
theorem run_reapTask_cases (hrow : b.tasks.get? taskId = some row)
    (hexpired : row.Expired now) (order : RowOrder) :
    (b.ClearFor now order taskId row ∧
      ∃ b', (reapTask now order taskId).run b = .ok () b' ∧
        Extends row.runId (row.reaperEvents) b b' ∧
        (b'.tasks = b.tasks.update taskId fun _ => row.reaped now) ∧
        ∀ other, other ≠ taskId → b'.latestAttempt order other = b.latestAttempt order other) ∨
    ¬ b.ClearFor now order taskId row ∧
      ∃ e b', (reapTask now order taskId).run b = .error e b' := by
  obtain ⟨attempts, hrun, hothers⟩ := run_reapTask_of_expired hrow hexpired order
  rw [hrun]
  have hcases := needs_reapRun (b.latestAttempt order taskId) (b.lost now order taskId row) taskId row
    { b with attempts := attempts, tasks := b.tasks.update taskId fun _ => row.reaped now }
  refine hcases.imp ?_ ?_
  · rintro ⟨⟨⟨hfailable, hflushes⟩, hfree⟩, b', hok, hextends⟩
    obtain ⟨htasks, hattempts, _⟩ := (sameTasks_reapRun row _ _ taskId _).of_ok hok
    refine ⟨⟨hfailable, hflushes, hfree⟩, b', hok,
      ⟨hextends.room, hextends.live, hextends.failable, hextends.database⟩, htasks, ?_⟩
    intro other hne
    rw [← hothers other hne, latestAttempt, hattempts]
    rfl
  · exact fun ⟨hnot, hraises⟩ => ⟨fun h => hnot ⟨⟨h.run, h.attempt⟩, h.events⟩, hraises⟩

/-- How many events the reaper appends to the run. -/
def needed (rows : List TaskRow) (runId : Int) : Nat :=
  (rows.map fun row => if runId = row.runId then row.reaperEvents else 0).sum

/-- The sequences of the reaper's events fit their column. -/
def Fits (b : SqlBackend) (taskIds : List Int) : Prop :=
  ∀ runId, ∀ i < needed (taskIds.filterMap b.tasks.get?) runId,
    nextSequence b.events runId + (i : Nat) ≤ b.database.top

/-- What the reaper needs for these tasks: it can fail the runs whose last attempts are lost,
the latencies of the attempts that it fails fit their column, and the sequences of its events
are free and fit theirs. -/
structure Clear (b : SqlBackend) (now : Time) (order : RowOrder) (taskIds : List Int) : Prop where
  runs : ∀ taskId ∈ taskIds, ∀ row, b.tasks.get? taskId = some row → row.LastAttempt →
    b.Failable row.runId
  attempts : ∀ taskId ∈ taskIds, ∀ row, b.tasks.get? taskId = some row →
    b.Flushes (b.lost now order taskId row)
  events : ∀ runId, b.Free runId (needed (taskIds.filterMap b.tasks.get?) runId)

section

variable {order : RowOrder} {rest : List Int} (hrow : b.tasks.get? taskId = some row)

include hrow

theorem Clear.head (h : b.Clear now order (taskId :: rest)) : b.ClearFor now order taskId row := by
  refine ⟨h.runs taskId List.mem_cons_self row hrow, h.attempts taskId List.mem_cons_self row hrow,
    fun i hi => h.events row.runId i ?_⟩
  simp only [List.filterMap_cons_some hrow, needed, List.map_cons, List.sum_cons, if_pos]
  omega

/-- The other tasks and their latest attempts are as they were, so the rest of the loop needs
what it needed before. -/
theorem clear_cons_iff (hclear : b.ClearFor now order taskId row)
    (h : Extends row.runId (row.reaperEvents) b b')
    (htasks : ∀ id ∈ rest, b'.tasks.get? id = b.tasks.get? id)
    (hlatest : ∀ id ∈ rest, b'.latestAttempt order id = b.latestAttempt order id) :
    b.Clear now order (taskId :: rest) ↔ b'.Clear now order rest := by
  have hflushes : ∀ id ∈ rest, ∀ other, b'.Flushes (b'.lost now order id other) ↔
      b.Flushes (b.lost now order id other) := by
    intro id hid other
    rw [Flushes, Flushes, lost, lost, hlatest id hid, h.database]
  have hfree : ∀ id, b.Free id (needed ((taskId :: rest).filterMap b.tasks.get?) id) ↔
      b.Free id (if id = row.runId then row.reaperEvents else 0) ∧
        b'.Free id (needed (rest.filterMap b'.tasks.get?) id) := by
    intro id
    rw [List.filterMap_congr htasks, List.filterMap_cons_some hrow, ← h.free]
    rfl
  constructor
  · rintro ⟨hruns, hattempts, hevents⟩
    refine ⟨fun id hid other hother hlast => (h.failable _).mpr ?_,
      fun id hid other hother => (hflushes id hid other).mpr ?_,
      fun id => ((hfree id).mp (hevents id)).2⟩
    · exact hruns id (List.mem_cons_of_mem taskId hid) other (htasks id hid ▸ hother) hlast
    · exact hattempts id (List.mem_cons_of_mem taskId hid) other (htasks id hid ▸ hother)
  · rintro ⟨hruns, hattempts, hevents⟩
    refine ⟨List.forall_mem_cons.mpr ⟨fun other hother => ?_, fun id hid other hother hlast => ?_⟩,
      List.forall_mem_cons.mpr ⟨fun other hother => ?_, fun id hid other hother => ?_⟩,
      fun id => (hfree id).mpr ⟨?_, hevents id⟩⟩
    · cases hrow.symm.trans hother
      exact hclear.run
    · exact (h.failable _).mp (hruns id hid other ((htasks id hid).trans hother) hlast)
    · cases hrow.symm.trans hother
      exact hclear.attempt
    · exact (hflushes id hid other).mp (hattempts id hid other ((htasks id hid).trans hother))
    · split
      · rename_i heq
        exact heq ▸ hclear.events
      · exact fun i hi => absurd hi (Nat.not_lt_zero i)

end

/-- The reaper's loop: it has what it needs and reaps the tasks, or it raises. -/
theorem run_reapEach_cases (now : Time) (order : RowOrder) (taskIds : List Int) :
    ∀ b : SqlBackend, taskIds.Nodup →
      (∀ taskId ∈ taskIds, ∃ row, b.tasks.get? taskId = some row ∧ row.Expired now) →
      (b.Clear now order taskIds ∧
        ∃ count b', (reapEach now order taskIds).run b = .ok count b' ∧
          (EventsLive b.events → EventsLive b'.events) ∧ b'.tasks.nextId = b.tasks.nextId ∧
          ∀ id, b'.tasks.get? id =
            if id ∈ taskIds then (b.tasks.get? id).map (TaskRow.reaped now)
            else b.tasks.get? id) ∨
      ¬ b.Clear now order taskIds ∧
        ∃ e b', (reapEach now order taskIds).run b = .error e b' := by
  induction taskIds with
  | nil =>
    intro b _ _
    exact .inl ⟨⟨nofun, nofun, fun runId i hi => absurd hi (Nat.not_lt_zero i)⟩, 0, b, rfl, id, rfl,
      fun id => by simp⟩
  | cons taskId rest ih =>
    intro b hnodup hexpired
    obtain ⟨hnot, hrest⟩ := List.nodup_cons.mp hnodup
    obtain ⟨row, hrow, hexpiredRow⟩ := hexpired taskId List.mem_cons_self
    simp only [reapEach, EStateM.run_bind]
    rcases run_reapTask_cases hrow hexpiredRow order with
      ⟨hclearFor, b₁, hok, hextends, htasks, hlatest⟩ | ⟨hnone, e, b₁, herror⟩
    · have hget : ∀ id, b₁.tasks.get? id =
          if id = taskId then some (row.reaped now) else b.tasks.get? id := by
        intro id
        rw [htasks, get?_update_const hrow]
      -- the other tasks are as they were, so the rest of the loop is over the same ones
      have hothers : ∀ id ∈ rest, b₁.tasks.get? id = b.tasks.get? id := by
        intro id hid
        rw [hget, if_neg]
        rintro rfl
        exact hnot hid
      have hcases := ih b₁ hrest fun id hid => by
        rw [hothers id hid]
        exact hexpired id (List.mem_cons_of_mem taskId hid)
      rw [← clear_cons_iff hrow hclearFor hextends hothers fun id hid =>
        hlatest id fun heq => hnot (heq ▸ hid)] at hcases
      simp only [hok]
      refine hcases.imp ?_ ?_
      · rintro ⟨hclear, count, b₂, hok', hlive, hnext, hafter⟩
        refine ⟨hclear, count + 1, b₂, by rw [hok']; rfl, fun h => hlive (hextends.live h),
          hnext.trans (htasks ▸ nextId_update b.tasks taskId _), fun id => ?_⟩
        simp only [hafter, hget]
        by_cases heq : id = taskId
        · simp [heq, hnot, hrow]
        · simp [heq]
      · rintro ⟨hclear, e, b₂, herror⟩
        exact ⟨hclear, e, b₂, by rw [herror]⟩
    · exact .inr ⟨fun hclear => hnone (hclear.head hrow), e, b₁, by rw [herror]⟩

/-! ## The reaper -/

theorem run_reapExpiredLeases_cases (b : SqlBackend) (now : Time) (order : RowOrder) :
    (b.Clear now order (b.expired now order) ∧
      ∃ count b', (reapExpiredLeases now order).run b = .ok count b' ∧
        (EventsLive b.events → EventsLive b'.events) ∧ b'.tasks.nextId = b.tasks.nextId ∧
        ∀ id, b'.tasks.get? id =
          if id ∈ b.expired now order then (b.tasks.get? id).map (TaskRow.reaped now)
          else b.tasks.get? id) ∨
    ¬ b.Clear now order (b.expired now order) ∧
      ∃ e b', (reapExpiredLeases now order).run b = .error e b' :=
  run_reapEach_cases now order (b.expired now order) b (nodup_expired b now order)
    fun _ hmem => mem_expired.mp hmem

/-- The reaper returns exactly if it can fail every run whose last attempt is lost, the latencies
of the attempts that it fails fit their column, and the sequences of its events are free and fit
theirs. -/
theorem reaper_returns_iff (b : SqlBackend) (now : Time) (order : RowOrder) :
    (∃ count b', (reapExpiredLeases now order).run b = .ok count b') ↔
      b.Clear now order (b.expired now order) := by
  rcases run_reapExpiredLeases_cases b now order with
    ⟨hclear, count, b', hok, _⟩ | ⟨hnot, e, b', herror⟩
  · exact iff_of_true ⟨count, b', hok⟩ hclear
  · refine iff_of_false ?_ hnot
    rintro ⟨count, b'', hok⟩
    cases herror.symm.trans hok

/-- A task with an expired lease on its last attempt, whose run is over. -/
def cancelledRun : SqlBackend :=
  { empty with
    tasks := Domain.Table.empty.insert fun id =>
      { id := id
        runId := 7
        tenantId := 1
        projectId := 1
        status := .running
        maxAttempts := 1
        leasedUntil := some 0
        createdAt := 0 }
    runs := Dict.empty.set 7 { id := 7, agentId := 1, status := .cancelled } }

/-- The reaper raises on it, and so does every lease, of any queue. -/
theorem cancelled_run_blocks_leases :
    (∃ e b', (reapExpiredLeases 1 .byKey).run cancelledRun = .error e b') ∧
      ∀ quota now order queue workerId leaseSeconds,
        ∃ e b', (lease quota now 1 order .byKey queue workerId leaseSeconds).run cancelledRun =
          .error e b' := by
  have hraises : ∃ e b', (reapExpiredLeases 1 .byKey).run cancelledRun = .error e b' := ⟨_, _, rfl⟩
  obtain ⟨e, b', herror⟩ := hraises
  exact ⟨⟨e, b', herror⟩, fun _ _ _ _ _ _ => ⟨e, b', run_bind_of_error herror⟩⟩

end SqlBackend

/-! ## Complete rounds -/

section

variable {τ : Type} {Expired : τ → Prop} {before after : Int → Option τ}

/-- No task is expired afterwards, and the tasks that were not are as they were. -/
structure Complete (Expired : τ → Prop) (before after : Int → Option τ) : Prop where
  none_expired : ∀ id task, after id = some task → ¬ Expired task
  others : ∀ id task, before id = some task → ¬ Expired task → after id = some task

/-- A round that changes the expired tasks it chooses, and no others, is complete exactly if
it chooses all of them. -/
theorem complete_iff {C : τ → Prop} {f : τ → τ} (h : ∀ id, after id = (before id).map f)
    (hover : ∀ task, C task → Expired task → ¬ Expired (f task))
    (hothers : ∀ task, ¬ (C task ∧ Expired task) → f task = task) :
    Complete Expired before after ↔ ∀ id task, before id = some task → Expired task → C task := by
  constructor
  · intro hcomplete id task hbefore hexpired
    by_contra hnot
    have hsame : f task = task := hothers task fun hboth => hnot hboth.1
    refine hcomplete.none_expired id task ?_ hexpired
    rw [h, hbefore, Option.map_some, hsame]
  · intro hall
    refine ⟨fun id task hafter hexpired => ?_, fun id task hbefore hnot => ?_⟩
    · rw [h] at hafter
      obtain ⟨task', hbefore, rfl⟩ := Option.map_eq_some_iff.mp hafter
      by_cases hexpired' : Expired task'
      · exact hover task' (hall id task' hbefore hexpired') hexpired' hexpired
      · rw [hothers task' fun hboth => hexpired' hboth.2] at hexpired
        exact hexpired' hexpired
    · rw [h, hbefore, Option.map_some, hothers task fun hboth => hnot hboth.2]

end

/-! ## The three backends -/

theorem complete_inMemory {b b' : InMemoryTaskBackend} {now : Time}
    (h : (InMemoryTaskBackend.reapExpiredLeases now).run b = .ok () b') :
    Complete (InMemoryTask.Expired now) b.tasks.get? b'.tasks.get? := by
  obtain ⟨b'', hrun, _, _, _, hget⟩ := InMemoryTaskBackend.run_reapExpiredLeases now b
  cases h.symm.trans hrun
  refine (complete_iff (C := fun _ => True) hget (fun task _ hexpired => ?_)
    fun task hnot => ?_).mpr fun _ _ _ _ => trivial
  · rw [InMemoryTask.reaped, if_pos hexpired]
    rintro ⟨hstatus | hstatus, _⟩ <;> cases hstatus
  · exact if_neg fun hexpired => hnot ⟨trivial, hexpired⟩

theorem TaskRow.not_expired_reaped {now : Time} {row : TaskRow} (h : row.Expired now) :
    ¬ TaskRow.Expired now (row.reaped now) := by
  unfold TaskRow.reaped
  rw [TaskRow.run_reap]
  rcases h.1 with hleased | hrunning
  · simp [hleased, TaskRow.Expired]
  · by_cases hlast : row.attempt + 1 ≥ row.maxAttempts <;>
      simp [hrunning, hlast, TaskRow.Expired]

theorem complete_sql {b b' : SqlBackend} {now : Time} {order : RowOrder} {count : Nat}
    (h : (SqlBackend.reapExpiredLeases now order).run b = .ok count b') :
    Complete (TaskRow.Expired now) b.tasks.get? b'.tasks.get? := by
  rcases SqlBackend.run_reapExpiredLeases_cases b now order with
    ⟨_, count', b'', hrun, _, _, hget⟩ | ⟨_, e, b'', hrun⟩
  · cases h.symm.trans hrun
    refine (complete_iff (C := fun _ => True)
      (f := fun row => if row.Expired now then row.reaped now else row)
      (fun id => ?_) (fun row _ hexpired => ?_) fun row hnot => ?_).mpr fun _ _ _ _ => trivial
    · rw [hget]
      cases hrow : b.tasks.get? id with
      | none => simp
      | some row =>
        have hmem : id ∈ b.expired now order ↔ row.Expired now := by
          rw [SqlBackend.mem_expired]
          simp [hrow]
        simp only [hmem, Option.map_some]
        split <;> rfl
    · rw [if_pos hexpired]
      exact TaskRow.not_expired_reaped hexpired
    · exact if_neg fun hexpired => hnot ⟨trivial, hexpired⟩
  · cases h.symm.trans hrun

namespace RedisTaskBackend

/-- The hash after a round of the reaper on the queue. -/
def reapedIn (now : Time) (queue : String) (task : TaskHash) : TaskHash :=
  if task.queue = queue ∧ task.Expired now then endState (TaskHash.reap.run task) else task

/-- The reaper's loop returns, and leaves the tasks that it visits reaped. -/
theorem run_reapEach_tasks (score : Int → Time → ℚ) (now : Time) (queue : String)
    (taskIds : List Int) : ∀ store : RedisStore, store.Keyed → taskIds.Nodup →
      (∀ id ∈ taskIds, ∃ found, store.tasks.get? id = some found) →
        ∃ count store', (Program.run RedisStore.exec (reapEach score now queue taskIds)).run store =
          .ok count store' ∧ ∀ id, store'.tasks.get? id =
            if id ∈ taskIds then (store.tasks.get? id).map (reapedIn now queue)
            else store.tasks.get? id := by
  induction taskIds with
  | nil => exact fun store _ _ _ => ⟨0, store, rfl, fun id => by simp⟩
  | cons taskId rest ih =>
    intro store hkeyed hnodup hknown
    obtain ⟨hnot, hrest⟩ := List.nodup_cons.mp hnodup
    obtain ⟨found, hfound⟩ := hknown taskId List.mem_cons_self
    obtain ⟨count, store₁, hrun, hget⟩ : ∃ count store₁,
        (Program.run RedisStore.exec (reapTask score now queue taskId)).run store =
          .ok count store₁ ∧ ∀ id, store₁.tasks.get? id =
            if id = taskId then some (reapedIn now queue found) else store.tasks.get? id := by
      rcases run_reapTask_cases score now queue hfound with
        ⟨hidle, hrun⟩ | ⟨hdue, dead, reaped, hreaped, hrun⟩
      · refine ⟨0, store, hrun, fun id => ?_⟩
        rw [reapedIn]
        split
        · rename_i hid
          rw [hid, hfound]
        · rfl
      · have hid : reaped.taskId = taskId :=
          (HashOp.done_of_run (by rintro _ ⟨⟩; exact hdue.2) hreaped).2.1.taskId.trans
            (hkeyed taskId found hfound)
        rw [hid] at hrun
        refine ⟨1, _, hrun, fun id => ?_⟩
        have hput := RedisStore.get?_putTask_of_run hfound hreaped id
        have hact : TaskHash.reap.run found = .ok dead reaped := hreaped
        rw [reapedIn, if_pos hdue, hact, endState_ok, ← hput]
        cases dead <;> rfl
    have hkeyed₁ : store₁.Keyed := by
      have honward := runsOnward_reapTask score now queue taskId store hkeyed
      rw [hrun] at honward
      exact honward.1
    have hothers : ∀ id ∈ rest, store₁.tasks.get? id = store.tasks.get? id := by
      intro id hid
      rw [hget, if_neg]
      rintro rfl
      exact hnot hid
    obtain ⟨counts, store₂, hrun', hget'⟩ := ih store₁ hkeyed₁ hrest fun id hid => by
      rw [hothers id hid]
      exact hknown id (List.mem_cons_of_mem taskId hid)
    refine ⟨count + counts, store₂, ?_, fun id => ?_⟩
    · simp only [reapEach, Program.run_bind, hrun, hrun']
      rfl
    · simp only [hget', hget]
      by_cases heq : id = taskId
      · simp [heq, hnot, hfound]
      · simp [heq]

/-- A round without a queue is complete exactly if no task of another queue is expired. -/
theorem complete_redis_iff {score : Int → Time → ℚ} {store store' : RedisStore} {now : Time}
    {order : RowOrder} {count : Nat} (hkeyed : store.Keyed)
    (h : (Program.run RedisStore.exec (reapExpiredLeases score now order none)).run store =
      .ok count store') :
    Complete (TaskHash.Expired now) store.tasks.get? store'.tasks.get? ↔
      ∀ id task, store.tasks.get? id = some task → task.Expired now → task.queue = "default" := by
  obtain ⟨count', store'', hrun, hget⟩ := run_reapEach_tasks score now "default"
    (order.arrange store.tasks.keys) store hkeyed ((order.perm _).nodup_iff.mpr store.tasks.nodup)
    fun id hid => (Dict.mem_keys_iff _).mp ((order.perm _).mem_iff.mp hid)
  cases h.symm.trans hrun
  refine complete_iff (f := reapedIn now "default") (fun id => ?_)
    (fun task hqueue hexpired => ?_) fun task hnot => if_neg hnot
  · rw [hget id]
    split
    · rfl
    · rename_i hid
      rw [(order.perm _).mem_iff, ← Dict.get?_eq_none_iff] at hid
      rw [hid]
      rfl
  · rw [reapedIn, if_pos ⟨hqueue, hexpired⟩, TaskHash.run_reap]
    rcases hexpired.1 with hleased | hrunning
    · simp [hleased, TaskHash.Expired]
    · by_cases hlast : task.attempt + 1 ≥ task.maxAttempts <;>
        simp [hrunning, hlast, TaskHash.Expired]

end RedisTaskBackend

/-- A round that returns is complete in memory and, of the rows that are not deleted, in the
database; in Redis it is exactly if no task of a queue other than `default` is expired. -/
theorem reaping_complete_iff (now : Time) :
    (∀ b b', (InMemoryTaskBackend.reapExpiredLeases now).run b = .ok () b' →
      Complete (InMemoryTask.Expired now) b.tasks.get? b'.tasks.get?) ∧
    (∀ b order count b', (SqlBackend.reapExpiredLeases now order).run b = .ok count b' →
      Complete (TaskRow.Expired now) b.tasks.get? b'.tasks.get?) ∧
    ∀ score (store : RedisStore) order count store', store.Keyed → (Program.run RedisStore.exec
        (RedisTaskBackend.reapExpiredLeases score now order none)).run store = .ok count store' →
      (Complete (TaskHash.Expired now) store.tasks.get? store'.tasks.get? ↔
        ∀ id task, store.tasks.get? id = some task → task.Expired now → task.queue = "default") :=
  ⟨fun _ _ => complete_inMemory, fun _ _ _ _ => complete_sql,
    fun _ _ _ _ _ => RedisTaskBackend.complete_redis_iff⟩

/-- A task of the queue `mail`, whose lease is over. -/
def mailStore : RedisStore :=
  { RedisStore.empty with
    tasks := Dict.empty.set 7 { RedisWorkers.heldHash with queue := "mail" } }

theorem keyed_mailStore : mailStore.Keyed := by
  intro taskId task htask
  have hmem := (Dict.get?_eq_some_iff _).mp htask
  cases List.mem_singleton.mp hmem
  rfl

theorem expired_heldHash : RedisWorkers.heldHash.Expired 20 := ⟨.inl rfl, 10, rfl, by decide⟩

/-- Two leased tasks in memory, one until 10 and one until 30. -/
def twoInMemory : InMemoryTaskBackend :=
  let task (leasedUntil : Time) (id : Int) : InMemoryTask :=
    { taskId := id
      payload := {}
      runId := 3
      status := .leased
      leasedUntil := some leasedUntil
      createdAt := 0 }
  { InMemoryTaskBackend.init with tasks := (Dict.empty.set 1 (task 10 1)).set 2 (task 30 2) }

/-- The same in the database. -/
def twoRows : SqlBackend :=
  let row (leasedUntil : Time) (id : Int) : TaskRow :=
    { id := id
      runId := 3
      tenantId := 1
      projectId := 1
      status := .leased
      leasedUntil := some leasedUntil
      createdAt := 0 }
  { SqlBackend.empty with tasks := (Domain.Table.empty.insert (row 10)).insert (row 30) }

/-- The rounds return with the expired task queued, and the one in Redis is not complete. -/
theorem reaping_complete_iff_mail :
    Complete (InMemoryTask.Expired 20) twoInMemory.tasks.get?
        (endState ((InMemoryTaskBackend.reapExpiredLeases 20).run twoInMemory)).tasks.get? ∧
      Complete (TaskRow.Expired 20) twoRows.tasks.get?
        (endState ((SqlBackend.reapExpiredLeases 20 .byKey).run twoRows)).tasks.get? ∧
      ¬ Complete (TaskHash.Expired 20) mailStore.tasks.get? mailStore.tasks.get? := by
  obtain ⟨hmemory, hsql, hredis⟩ := reaping_complete_iff 20
  refine ⟨hmemory twoInMemory _ rfl, hsql twoRows .byKey 1 _ rfl, ?_⟩
  rw [hredis (fun _ _ => 0) mailStore .byKey 0 mailStore keyed_mailStore rfl]
  intro hdefault
  exact absurd (hdefault 7 _ rfl expired_heldHash) (by decide)

/-- The round without a queue leaves it. -/
theorem expired_task_of_other_queue_stays : (Program.run RedisStore.exec
      (RedisTaskBackend.reapExpiredLeases (fun _ _ => 0) 20 .byKey none)).run mailStore =
        .ok 0 mailStore ∧
      ∃ task, mailStore.tasks.get? 7 = some task ∧ task.Expired 20 :=
  ⟨rfl, _, rfl, expired_heldHash⟩

/-! ## `LeaseReaper`: scheduler/reaper.py -/

/-- `ReaperHeartbeat`. -/
structure ReaperHeartbeat where
  reaperId : String
  status : String
  heartbeatAt : Time
  reapedCount : Nat

namespace LeaseReaper

variable (reaperId : String) (now heartbeatAt : Time) (order : RowOrder)

/-- `reap` on the in-memory backend, with the heartbeat; `order` is that of the set of ids. -/
def reap : BackendM (List Int × ReaperHeartbeat) := do
  let tasks := (← get).tasks
  let before := tasks.keys.filter fun id => (tasks.get? id).any fun task =>
    (task.status = .leased ∨ task.status = .running) ∧ task.leasedUntil.isSome
  InMemoryTaskBackend.reapExpiredLeases now
  let tasks := (← get).tasks
  let reaped := (order.arrange before).filter fun id => (tasks.get? id).any fun task =>
    task.status = .queued ∧ task.workerId = none
  return (reaped, ⟨reaperId, "running", heartbeatAt, reaped.length⟩)

/-- The reaper reports each task whose lease was over once, and no other. -/
theorem reaper_reports_expired (b : InMemoryTaskBackend) :
    ∃ reaped b', (reap reaperId now heartbeatAt order).run b =
        .ok (reaped, ⟨reaperId, "running", heartbeatAt, reaped.length⟩) b' ∧ reaped.Nodup ∧
      ∀ id, id ∈ reaped ↔ ∃ task, b.tasks.get? id = some task ∧ task.Expired now := by
  obtain ⟨b', hrun, _, _, _, hget⟩ := InMemoryTaskBackend.run_reapExpiredLeases now b
  refine ⟨_, b', by simp only [reap, EStateM.run_bind, EStateM.run_get, hrun]; rfl, ?_,
    fun id => ?_⟩
  · exact ((order.perm _).nodup_iff.mpr (b.tasks.nodup.filter _)).filter _
  · simp only [List.mem_filter, (order.perm _).mem_iff, Dict.mem_keys_iff, hget]
    cases b.tasks.get? id with
    | none => simp
    | some task =>
      by_cases hexpired : task.Expired now
      · have ⟨hheld, _, hu, _⟩ := hexpired
        simp [InMemoryTask.reaped, hexpired, hheld, hu]
      · have hsame : task.reaped now = task := if_neg hexpired
        grind

end LeaseReaper

end DimooRun.Scheduler
