/-
  Persistence/Events.lean --- the event table under concurrent appends.

  Source: persistence/repositories.py, `EventRepository`, and the
  unique constraint on the run and the sequence in domain/models.py.

  An append reads the live events of its run and later inserts the next one; the two
  are separate statements, and other transactions make steps in between. The unique
  constraint makes the run and the sequence the key of the table: an insert of a key
  that is there fails, and the transaction with it; one of a key that another
  transaction is about to insert waits for the outcome.
-/
import DimooRun.Domain.Models
import DimooRun.Foundation.Transactions

set_option autoImplicit false

namespace DimooRun.Persistence

open Foundation Domain Transactions

/-- The columns of the unique constraint. -/
abbrev EventKey := Int × Int

/-- The arguments of `EventRepository.append` (its `event_id` is not used). -/
structure AppendArgs where
  runId : Int
  tenantId : Int
  projectId : Int
  type : String
  payload : Option PyDict := none
  attemptId : Option Int := none
  framework : Option String := none
  visibilityLevel : String := "internal"

namespace EventRepository

/-- `list_by_run`. -/
def listByRun (rows : Dict EventKey Event) (runId : Int) : List Event :=
  (rows.values.filter fun event => event.runId = runId ∧ event.isDeleted = false).insertionSort
    fun event event' => event.sequence ≤ event'.sequence

/-- `next_sequence`. -/
def nextSequence (rows : Dict EventKey Event) (runId : Int) : Int :=
  match ((listByRun rows runId).map Event.sequence).max? with
  | none => 1
  | some sequence => sequence + 1

/-- The event that `append` creates. -/
def newEvent (args : AppendArgs) (sequence : Int) : Event :=
  { runId := args.runId
    attemptId := args.attemptId
    tenantId := args.tenantId
    projectId := args.projectId
    type := args.type
    sequence := sequence
    eventId := toString args.runId ++ ":" ++ toString sequence
    framework := args.framework
    payloadJson := args.payload.getD []
    visibilityLevel := args.visibilityLevel }

end EventRepository

open EventRepository

/-- The event table, and the events that sessions have built and not yet inserted. -/
structure EventTable where
  rows : Transactions EventKey Event
  drafts : Dict Nat Event

namespace EventTable

/-- No events, no open transactions. -/
def empty : EventTable := ⟨.ofTable .empty, .empty⟩

/-- The steps of the sessions: the two halves of `append`, `soft_delete` of an event,
and the end of the transaction. -/
inductive Step where
  | read (session : Nat) (args : AppendArgs)
  | insert (session : Nat)
  | softDelete (session : Nat) (key : EventKey)
  | commit (session : Nat)
  | rollback (session : Nat)

/-- What a step comes to. `notNow` is a step that is not the session's next one. -/
inductive Outcome where
  | done
  | waiting
  | integrityError
  | keyError
  | notNow
deriving DecidableEq

/-- The key of an event. -/
def keyOf (event : Event) : EventKey := (event.runId, event.sequence)

section

variable (table : EventTable) (session : Nat)

/-- A failed statement ends the transaction. -/
def abort : EventTable :=
  ⟨table.rows.rollback session, table.drafts.erase session⟩

/-- `create`: add the event and flush. -/
def insertEvent (event : Event) : Outcome × EventTable :=
  if h : table.rows.Locked session (keyOf event) then (.waiting, table)
  else
    match (table.rows.visible session).get? (keyOf event) with
    | some _ => (.integrityError, table.abort session)
    | none =>
        (.done, ⟨table.rows.write session (keyOf event) event h, table.drafts.erase session⟩)

/-- `soft_delete`. -/
def deleteEvent (key : EventKey) : Outcome × EventTable :=
  if h : table.rows.Locked session key then (.waiting, table)
  else
    match (table.rows.visible session).get? key with
    | none => (.keyError, table)
    | some event =>
        if event.isDeleted then (.keyError, table)
        else (.done, ⟨table.rows.write session key { event with isDeleted := true } h, table.drafts⟩)

end

/-- One step. -/
def exec (table : EventTable) : Step → Outcome × EventTable
  | .read session args =>
      match table.drafts.get? session with
      | some _ => (.notNow, table)
      | none =>
          let sequence := nextSequence (table.rows.visible session) args.runId
          (.done, ⟨table.rows, table.drafts.set session (newEvent args sequence)⟩)
  | .insert session =>
      match table.drafts.get? session with
      | none => (.notNow, table)
      | some event => table.insertEvent session event
  | .softDelete session key =>
      match table.drafts.get? session with
      | some _ => (.notNow, table)
      | none => table.deleteEvent session key
  | .commit session =>
      match table.drafts.get? session with
      | some _ => (.notNow, table)
      | none => (.done, ⟨table.rows.commit session, table.drafts⟩)
  | .rollback session => (.done, table.abort session)

/-! ## Appends that do not meet -/

section

variable (table : EventTable)

/-- The session is between the first half of an append to the run and the end of its
transaction. -/
def Appending (session : Nat) (runId : Int) : Prop :=
  (∃ event, table.drafts.get? session = some event ∧ event.runId = runId) ∨
    ∃ sequence event, (table.rows.writes session).get? (runId, sequence) = some event ∧
      table.rows.committed.get? (runId, sequence) = none

/-- Every deleted event of the run that the session sees is below a live one. -/
def LiveOnTop (session : Nat) (runId : Int) : Prop :=
  ∀ sequence event, (table.rows.visible session).get? (runId, sequence) = some event →
    event.isDeleted = true →
      ∃ sequence' event', (table.rows.visible session).get? (runId, sequence') = some event' ∧
        event'.isDeleted = false ∧ sequence ≤ sequence'

/-- No append to a run starts while another transaction appends to it, or while the
highest event of the run is deleted. -/
def Undisturbed : Step → Prop
  | .read session args =>
      (∀ session', session' ≠ session → ¬ table.Appending session' args.runId) ∧
        table.LiveOnTop session args.runId
  | _ => True

end

variable {rows : Dict EventKey Event} {runId : Int} {event : Event} {session : Nat}
  {args : AppendArgs}

theorem mem_listByRun : event ∈ listByRun rows runId ↔
      (∃ key, rows.get? key = some event) ∧ event.runId = runId ∧ event.isDeleted = false := by
  unfold listByRun
  rw [List.mem_insertionSort, List.mem_filter, Dict.mem_values_iff]
  simp

/-- The next sequence is above every live event of the run. -/
theorem lt_nextSequence (h : event ∈ listByRun rows runId) :
    event.sequence < nextSequence rows runId := by
  have hmem : event.sequence ∈ (listByRun rows runId).map Event.sequence :=
    List.mem_map_of_mem h
  unfold nextSequence
  split
  · rename_i hnone
    rw [List.max?_eq_none_iff] at hnone
    simp [hnone] at hmem
  · rename_i sequence hmax
    have hle := (List.max?_eq_some_iff.mp hmax).2 _ hmem
    omega

/-- An event that gets the next sequence of its run moves that one on, and no other. -/
theorem nextSequence_set (hfree : rows.get? (keyOf event) = none)
    (hlive : event.isDeleted = false) (hnext : event.sequence = nextSequence rows event.runId)
    (runId : Int) :
    nextSequence (rows.set (keyOf event) event) runId =
      nextSequence rows runId + (if runId = event.runId then 1 else 0 : Nat) := by
  have hvalues : (rows.set (keyOf event) event).values = rows.values ++ [event] := by
    simp [Dict.values, Dict.entries_set_of_none event hfree]
  by_cases hrun : runId = event.runId
  · subst hrun
    have hmem : ∀ other, other ∈ listByRun (rows.set (keyOf event) event)
        event.runId ↔ other ∈ listByRun rows event.runId ∨ other = event := by
      simp only [listByRun, hvalues, List.mem_insertionSort, List.filter_append, List.mem_append]
      simp [hlive]
    have hmax : ((listByRun (rows.set (keyOf event) event)
        event.runId).map Event.sequence).max? = some event.sequence := by
      refine List.max?_eq_some_iff.mpr
        ⟨List.mem_map_of_mem ((hmem event).mpr (.inr rfl)), fun sequence hsequence => ?_⟩
      obtain ⟨other, hother, rfl⟩ := List.mem_map.mp hsequence
      rcases (hmem other).mp hother with hold | rfl
      · rw [hnext]
        exact (lt_nextSequence hold).le
      · exact le_refl _
    rw [if_pos rfl, nextSequence, hmax, ← hnext]
    rfl
  · have hne : ¬ event.runId = runId := fun h => hrun h.symm
    simp [nextSequence, listByRun, hvalues, hne, hrun]

/-- What holds between the steps: a row is stored under its own key, an event about to
be inserted is above all events of its run, and no two sessions append to one run. -/
structure InStep (table : EventTable) : Prop where
  keyed : ∀ key event, table.rows.Stored key event → keyOf event = key
  above : ∀ session event, table.drafts.get? session = some event →
    ∀ sequence event', table.rows.Stored (event.runId, sequence) event' → sequence < event.sequence
  single : ∀ session session' runId, table.Appending session runId →
    table.Appending session' runId → session = session'

theorem inStep_empty : InStep empty := by
  have hnone : ∀ key event, ¬ empty.rows.Stored key event := by
    rintro key event (h | ⟨session, h⟩)
    · exact absurd h (by simp [empty, ofTable])
    · exact absurd h (by simp [empty])
  refine ⟨fun key event h => absurd h (hnone key event),
    fun _ _ _ sequence event h => absurd h (hnone _ event), ?_⟩
  rintro session session' runId (⟨event, h, _⟩ | ⟨sequence, event, h, _⟩) _
  · exact absurd h (by simp [empty])
  · exact absurd (.inr ⟨session, h⟩) (hnone _ event)

variable {table : EventTable}

section

variable (h : InStep table)

include h

/-- A step after which nobody appends who did not before, and a new key is none of a run that
somebody is about to append to. -/
theorem InStep.mono {table' : EventTable}
    (hkeyed : ∀ key event, table'.rows.Stored key event → keyOf event = key)
    (hdrafts : ∀ session event, table'.drafts.get? session = some event →
      table.drafts.get? session = some event)
    (hstored : ∀ session event sequence event', table'.drafts.get? session = some event →
      table'.rows.Stored (event.runId, sequence) event' →
        ∃ event'', table.rows.Stored (event.runId, sequence) event'')
    (hnew : ∀ session runId sequence event,
      (table'.rows.writes session).get? (runId, sequence) = some event →
        table'.rows.committed.get? (runId, sequence) = none → table.Appending session runId) :
    InStep table' := by
  have happending : ∀ session runId, table'.Appending session runId →
      table.Appending session runId := by
    rintro session runId (⟨event, hdraft, hrun⟩ | ⟨sequence, event, hwrite, hnone⟩)
    · exact .inl ⟨event, hdrafts _ _ hdraft, hrun⟩
    · exact hnew _ _ _ _ hwrite hnone
  refine ⟨hkeyed, ?_, ?_⟩
  · intro session event hdraft sequence event' hthere
    obtain ⟨event'', hthere'⟩ := hstored _ _ _ _ hdraft hthere
    exact h.above session event (hdrafts _ _ hdraft) sequence event'' hthere'
  · intro session session' runId h₁ h₂
    exact h.single session session' runId (happending _ _ h₁) (happending _ _ h₂)

theorem InStep.abort (session : Nat) : InStep (table.abort session) :=
  h.mono (fun key event hthere => h.keyed key event hthere.of_rollback)
    (fun _ _ hdraft => (Dict.of_get?_erase hdraft).2)
    (fun _ _ _ event' _ hthere => ⟨event', hthere.of_rollback⟩)
    fun _ _ sequence event hwrite hnone =>
      Or.inr ⟨sequence, event, get?_writes_of_rollback hwrite, hnone⟩

theorem InStep.commit (session : Nat) : InStep ⟨table.rows.commit session, table.drafts⟩ := by
  refine h.mono (fun key event hthere => h.keyed key event hthere.of_commit) (fun _ _ => id)
    (fun _ _ _ event' _ hthere => ⟨event', hthere.of_commit⟩) ?_
  intro session' runId sequence event hwrite hnone
  have hnone : (table.rows.visible session).get? (runId, sequence) = none := hnone
  rw [get?_visible, Option.or_eq_none_iff] at hnone
  exact .inr ⟨sequence, event, get?_writes_of_rollback hwrite, hnone.2⟩

theorem InStep.deleteEvent (session : Nat) (key : EventKey) :
    InStep (table.deleteEvent session key).2 := by
  unfold EventTable.deleteEvent
  split
  · exact h
  · rename_i hfree
    split
    · exact h
    · rename_i event hvisible
      have hkey := stored_of_visible hvisible
      split
      · exact h
      · refine h.mono ?_ (fun _ _ => id) ?_ ?_
        · intro key' event' hthere
          rcases Transactions.Stored.of_write hfree hthere with hold | ⟨rfl, rfl⟩
          · exact h.keyed key' event' hold
          · exact h.keyed key' event hkey
        · intro _ _ _ event' _ hthere
          rcases Transactions.Stored.of_write hfree hthere with hold | ⟨rfl, rfl⟩
          · exact ⟨event', hold⟩
          · exact ⟨event, hkey⟩
        · intro session' runId sequence event' hwrite hnone
          rw [get?_writes_write] at hwrite
          split at hwrite
          · rename_i hsame
            obtain ⟨rfl, rfl⟩ := hsame
            -- the row is the session's own: the table does not have it
            rw [get?_visible, Option.or_eq_some_iff] at hvisible
            rcases hvisible with hown | ⟨_, hcommitted⟩
            · exact .inr ⟨sequence, event, hown, hnone⟩
            · cases hcommitted.symm.trans hnone
          · exact .inr ⟨sequence, event', hwrite, hnone⟩

/-- An append that starts undisturbed gets a sequence above everything there is. -/
theorem InStep.read (hundisturbed : table.Undisturbed (.read session args)) :
    InStep ⟨table.rows, table.drafts.set session
      (newEvent args (nextSequence (table.rows.visible session) args.runId))⟩ := by
  obtain ⟨halone, htop⟩ := hundisturbed
  -- the session sees every key of the run
  have hvisible : ∀ sequence event, table.rows.Stored (args.runId, sequence) event →
      ∃ event', (table.rows.visible session).get? (args.runId, sequence) = some event' := by
    intro sequence event hthere
    refine Option.ne_none_iff_exists'.mp fun hnone => ?_
    rw [get?_visible, Option.or_eq_none_iff] at hnone
    rcases hthere with hcommitted | ⟨session', hwrite⟩
    · cases hcommitted.symm.trans hnone.2
    · refine halone session' ?_ (.inr ⟨sequence, event, hwrite, hnone.2⟩)
      rintro rfl
      cases hwrite.symm.trans hnone.1
  have hlive : ∀ sequence event,
      (table.rows.visible session).get? (args.runId, sequence) = some event →
        event.isDeleted = false →
          sequence < nextSequence (table.rows.visible session) args.runId := by
    intro sequence event hget hnot
    obtain ⟨hrun, rfl⟩ := Prod.mk.inj (h.keyed _ event (stored_of_visible hget))
    exact lt_nextSequence (mem_listByRun.mpr ⟨⟨_, hget⟩, hrun, hnot⟩)
  have habove : ∀ sequence event, table.rows.Stored (args.runId, sequence) event →
      sequence < nextSequence (table.rows.visible session) args.runId := by
    intro sequence event hthere
    obtain ⟨event, hget⟩ := hvisible sequence event hthere
    cases hdeleted : event.isDeleted with
    | false => exact hlive sequence event hget hdeleted
    | true =>
      obtain ⟨sequence', event', hget', hnot, hle⟩ := htop sequence event hget hdeleted
      have hlt := hlive sequence' event' hget' hnot
      omega
  refine ⟨h.keyed, ?_, ?_⟩
  · intro session' event hdraft sequence event' hthere
    rcases Dict.get?_set_cases hdraft with ⟨_, rfl⟩ | ⟨_, hold⟩
    · exact habove sequence event' hthere
    · exact h.above session' event hold sequence event' hthere
  · have hcases : ∀ session' runId, Appending ⟨table.rows, table.drafts.set session
        (newEvent args (nextSequence (table.rows.visible session) args.runId))⟩ session' runId →
          table.Appending session' runId ∨ session' = session ∧ runId = args.runId := by
      rintro session' runId (⟨event, hdraft, hrun⟩ | hnew)
      · rcases Dict.get?_set_cases hdraft with ⟨hsame, rfl⟩ | ⟨_, hold⟩
        · exact .inr ⟨hsame, hrun.symm⟩
        · exact .inl (.inl ⟨event, hold, hrun⟩)
      · exact .inl (.inr hnew)
    have honly : ∀ session', table.Appending session' args.runId → session' = session := by
      intro session' happending
      by_contra hne
      exact halone session' hne happending
    intro session₁ session₂ runId h₁ h₂
    rcases hcases _ _ h₁ with h₁ | ⟨rfl, rfl⟩ <;> rcases hcases _ _ h₂ with h₂ | ⟨hsame, hrun⟩
    · exact h.single _ _ _ h₁ h₂
    · rw [hrun] at h₁
      exact (honly _ h₁).trans hsame.symm
    · exact (honly _ h₂).symm
    · exact hsame.symm

section

variable (hdraft : table.drafts.get? session = some event)

include hdraft

/-- The event that a session is about to insert has a free key. -/
theorem InStep.not_stored (event' : Event) : ¬ table.rows.Stored (keyOf event) event' := by
  intro hthere
  exact absurd (h.above session event hdraft event.sequence event' hthere) (Int.lt_irrefl _)

/-- Its insert goes through. -/
theorem InStep.insertEvent_eq : ∃ hfree, table.insertEvent session event =
      (.done, ⟨table.rows.write session (keyOf event) event hfree, table.drafts.erase session⟩) := by
  have habsent := h.not_stored hdraft
  have hfree : ¬ table.rows.Locked session (keyOf event) := by
    rintro ⟨session', _, event', hwrite⟩
    exact habsent event' (Or.inr ⟨session', hwrite⟩)
  have hnone : (table.rows.visible session).get? (keyOf event) = none :=
    Option.eq_none_iff_forall_ne_some.mpr fun event' hget =>
      habsent event' (stored_of_visible hget)
  refine ⟨hfree, ?_⟩
  unfold EventTable.insertEvent
  rw [dif_neg hfree, hnone]

theorem InStep.insertEvent : InStep (table.insertEvent session event).2 := by
  obtain ⟨hfree, heq⟩ := h.insertEvent_eq hdraft
  rw [heq]
  refine h.mono ?_ (fun _ _ hdraft' => (Dict.of_get?_erase hdraft').2) ?_ ?_
  · intro key event' hthere
    rcases Transactions.Stored.of_write hfree hthere with hold | ⟨rfl, rfl⟩
    · exact h.keyed key event' hold
    · rfl
  · intro session' event' sequence event'' hdraft' hthere
    obtain ⟨hne, hdraft'⟩ := Dict.of_get?_erase hdraft'
    rcases Transactions.Stored.of_write hfree hthere with hold | ⟨hkey, _⟩
    · exact ⟨event'', hold⟩
    · -- the new key is of a run that nobody else appends to
      have hrun : event'.runId = event.runId := congrArg Prod.fst hkey
      exact absurd (h.single session' session event.runId (Or.inl ⟨event', hdraft', hrun⟩)
        (Or.inl ⟨event, hdraft, rfl⟩)) hne
  · intro session' runId sequence event' hwrite hnone
    rw [get?_writes_write] at hwrite
    split at hwrite
    · rename_i hsame
      obtain ⟨rfl, hkey⟩ := hsame
      exact .inl ⟨event, hdraft, (congrArg Prod.fst hkey).symm⟩
    · exact .inr ⟨sequence, event', hwrite, hnone⟩

end

/-- Every undisturbed step keeps the table in step. -/
theorem InStep.exec {step : Step} (hundisturbed : table.Undisturbed step) :
    InStep (exec table step).2 := by
  cases step with
  | read session args =>
    cases hdraft : table.drafts.get? session <;> simp only [EventTable.exec, hdraft]
    · exact h.read hundisturbed
    · exact h
  | insert session =>
    cases hdraft : table.drafts.get? session <;> simp only [EventTable.exec, hdraft]
    · exact h
    · exact h.insertEvent hdraft
  | softDelete session key =>
    cases hdraft : table.drafts.get? session <;> simp only [EventTable.exec, hdraft]
    · exact h.deleteEvent session key
    · exact h
  | commit session =>
    cases hdraft : table.drafts.get? session <;> simp only [EventTable.exec, hdraft]
    · exact h.commit session
    · exact h
  | rollback session => exact h.abort session

/-- The sequences of a run in the table, of live and deleted events. -/
def sequences (table : EventTable) (runId : Int) : List Int :=
  (table.rows.committed.values.filter fun event => event.runId = runId).map Event.sequence

theorem InStep.nodup_sequences (runId : Int) : (table.sequences runId).Nodup := by
  have hkeys : table.rows.committed.values.map keyOf = table.rows.committed.keys := by
    unfold Dict.values Dict.keys
    rw [List.map_map]
    refine List.map_congr_left ?_
    rintro ⟨key, event⟩ hmem
    exact h.keyed key event (Or.inl ((Dict.get?_eq_some_iff _).mpr hmem))
  have hvalues : (table.rows.committed.values.map keyOf).Nodup := by
    rw [hkeys]
    exact table.rows.committed.nodup
  refine List.Nodup.map_on ?_ (List.Nodup.filter _ (List.Nodup.of_map _ hvalues))
  intro event hmem event' hmem' hsequence
  obtain ⟨hmem, hrun⟩ := List.mem_filter.mp hmem
  obtain ⟨hmem', hrun'⟩ := List.mem_filter.mp hmem'
  refine List.inj_on_of_nodup_map hvalues hmem hmem' ?_
  exact Prod.ext ((of_decide_eq_true hrun).trans (of_decide_eq_true hrun').symm) hsequence

end

/-- In every history in which appends start undisturbed, the events of a run have
different sequences, and every append under way inserts its event and commits it. -/
theorem appends_commit_of_undisturbed (steps : List Step)
    (h : Admitted EventTable.exec Undisturbed empty steps) :
    let table := final EventTable.exec empty steps
    (∀ runId, (table.sequences runId).Nodup) ∧
      ∀ session event, table.drafts.get? session = some event →
        let inserted := EventTable.exec table (.insert session)
        let committed := EventTable.exec inserted.2 (.commit session)
        inserted.1 = .done ∧ committed.1 = .done ∧
          committed.2.rows.committed.get? (keyOf event) = some event := by
  intro table
  have hinStep : InStep table :=
    invariant_final EventTable.exec (fun _ _ hundisturbed h => h.exec hundisturbed) steps empty
      inStep_empty h
  refine ⟨hinStep.nodup_sequences, ?_⟩
  intro session event hdraft
  obtain ⟨hfree, heq⟩ := hinStep.insertEvent_eq hdraft
  have hinsert : EventTable.exec table (.insert session) = (.done,
      ⟨table.rows.write session (keyOf event) event hfree, table.drafts.erase session⟩) := by
    simp only [EventTable.exec, hdraft, heq]
  have hidle : (table.drafts.erase session).get? session = none := by
    rw [Dict.get?_erase, if_pos rfl]
  simp only [hinsert]
  simp only [EventTable.exec, hidle, true_and]
  rw [committed_commit, get?_visible, get?_writes_write, if_pos ⟨rfl, rfl⟩]
  rfl

/-- An append to run 1. -/
def cancelled : AppendArgs := { runId := 1, tenantId := 1, projectId := 1, type := "run.cancelled" }

/-- One transaction appends, another one after it; then the first event is deleted. -/
def oneAfterTheOther : List Step :=
  [.read 1 cancelled, .insert 1, .commit 1, .read 2 cancelled, .insert 2, .commit 2,
    .softDelete 3 (1, 1), .commit 3, .read 1 cancelled]

/-- Without open transactions only deleted events can be in the way. -/
theorem undisturbed_of_quiet (hdrafts : table.drafts.entries = [])
    (hpending : table.rows.pending.entries = [])
    (htop : ∀ e ∈ table.rows.committed.entries, e.1.1 = args.runId → e.2.isDeleted = true →
      ∃ e' ∈ table.rows.committed.entries,
        e'.1.1 = args.runId ∧ e'.2.isDeleted = false ∧ e.1.2 ≤ e'.1.2) (session : Nat) :
    table.Undisturbed (.read session args) := by
  have hwrites : ∀ session' key, (table.rows.writes session').get? key = none := by
    intro session' key
    have hnone : table.rows.pending.get? session' = none := by simp [Dict.get?, hpending]
    simp [writes, hnone]
  have hvisible : ∀ key event, (table.rows.visible session).get? key = some event ↔
      (key, event) ∈ table.rows.committed.entries := by
    intro key event
    rw [get?_visible, hwrites, Option.none_or, Dict.get?_eq_some_iff]
  refine ⟨?_, ?_⟩
  · rintro session' _ (⟨event, hdraft, _⟩ | ⟨sequence, event, hwrite, _⟩)
    · simp [Dict.get?, hdrafts] at hdraft
    · simp [hwrites] at hwrite
  · intro sequence event hget hdeleted
    obtain ⟨⟨⟨_, sequence'⟩, event'⟩, hmem, rfl, hlive, hle⟩ :=
      htop _ ((hvisible _ _).mp hget) rfl hdeleted
    exact ⟨sequence', event', (hvisible _ _).mpr hmem, hlive, hle⟩

theorem undisturbed_oneAfterTheOther :
    Admitted EventTable.exec Undisturbed empty oneAfterTheOther := by
  refine ⟨undisturbed_of_quiet rfl rfl (by decide) 1, trivial, trivial,
    undisturbed_of_quiet rfl rfl (by decide) 2, trivial, trivial, trivial, trivial,
    undisturbed_of_quiet rfl rfl (by decide) 1, trivial⟩

theorem appends_commit_of_undisturbed_oneAfterTheOther :
    let table := final EventTable.exec empty oneAfterTheOther
    (∀ runId, (table.sequences runId).Nodup) ∧
      ∀ session event, table.drafts.get? session = some event →
        let inserted := EventTable.exec table (.insert session)
        let committed := EventTable.exec inserted.2 (.commit session)
        inserted.1 = .done ∧ committed.1 = .done ∧
          committed.2.rows.committed.get? (keyOf event) = some event :=
  appends_commit_of_undisturbed oneAfterTheOther undisturbed_oneAfterTheOther

/-- Two transactions that read the same maximum: the second insert fails. And an append
after the highest event was deleted fails without any other transaction. -/
theorem append_fails : (trace EventTable.exec empty
        [.read 1 cancelled, .read 2 cancelled, .insert 1, .commit 1, .insert 2]).map
          Entry.reply = [.done, .done, .done, .done, .integrityError] ∧
      (trace EventTable.exec empty
        [.read 1 cancelled, .insert 1, .softDelete 1 (1, 1), .commit 1, .read 1 cancelled,
          .insert 1]).map Entry.reply = [.done, .done, .done, .done, .done, .integrityError] := by
  decide

end EventTable

end DimooRun.Persistence
