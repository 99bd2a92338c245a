/-
  Worker/DurableBuffer.lean --- the event buffer of an execution and the event table.

  Source: worker/durable.py, `SQLAlchemyReplayBuffer`.

  The buffer numbers the events it takes, from one on in each execution, and the table
  numbers its rows after the live events of the run. The event that `append` returns,
  and the reference put in place of an oversized payload, bear the buffer's number.
-/
import DimooRun.Persistence.Events
import DimooRun.Streaming.ReplayBuffer

set_option autoImplicit false

namespace DimooRun.Worker

open Foundation Domain Streaming Persistence EventRepository EventTable

/-- `SQLAlchemyReplayBuffer`, with the event table as its session sees it. -/
structure DurableBuffer where
  rows : Dict EventKey Event
  buffer : ReplayBuffer

namespace DurableBuffer

/-- What is done: an execution starts with a fresh buffer, other writers change the table,
or the buffer appends an event (`scope` is the tenant and the project of the run, if
`get_run` finds it). -/
inductive Step where
  | fresh
  | others (rows : Dict EventKey Event)
  | append (runId : Int) (scope : Option (Int × Int)) (attemptId : Option Int) (event : AgentEvent)

/-- What `append` raises. -/
inductive AppendError where
  /-- `TypeError` of the encoder -/
  | notSerializable (cls : String)
  /-- `KeyError` of `get_run` -/
  | noRun
  /-- `IntegrityError` of the insert -/
  | integrity

/-- An append that went through gives the event it returns and the row it stored. -/
abbrev Reply := Except AppendError (Option (AgentEvent × Event))

/-- One step. -/
def exec (s : DurableBuffer) : Step → Reply × DurableBuffer
  | .fresh => (.ok none, { s with buffer := {} })
  | .others rows => (.ok none, { s with rows := rows })
  | .append runId scope attemptId event =>
      match s.buffer.append runId attemptId event with
      | .error cls => (.error (.notSerializable cls), s)
      | .ok (appended, buffer) =>
          match scope with
          | none => (.error .noRun, { s with buffer := buffer })
          | some (tenantId, projectId) =>
              let row := newEvent
                { runId := runId
                  tenantId := tenantId
                  projectId := projectId
                  type := appended.type
                  payload := some appended.payload
                  attemptId := attemptId
                  framework := appended.framework
                  visibilityLevel := appended.visibilityLevel } (nextSequence s.rows runId)
              match s.rows.get? (keyOf row) with
              | some _ => (.error .integrity, { s with buffer := buffer })
              | none => (.ok (some (appended, row)), ⟨s.rows.set (keyOf row) row, buffer⟩)

variable {s : DurableBuffer} {event : AgentEvent} (e : Entry DurableBuffer Step Reply)

/-- The step appended the event, returned `stored` and wrote `row`. -/
def Persisted (runId : Int) (event stored : AgentEvent) (row : Event) : Prop :=
  (∃ scope attemptId, e.call = .append runId scope attemptId event) ∧
    e.reply = .ok (some (stored, row))

section

variable (s)

/-- The payload is too long for the buffer. -/
def Oversized (event : AgentEvent) : Prop :=
  ∃ encoded, PyValue.dumps (.dict event.payload) = .ok encoded ∧
    s.buffer.maxPayloadBytes < encoded.length

/-- The highest live event of the run has the number of the last one that the buffer took. -/
def Aligned (runId : Int) : Prop :=
  ((listByRun s.rows runId).map Event.sequence).max?.getD 0 =
    (s.buffer.nextSequence.get? runId).getD 1 - 1

theorem aligned_iff (runId : Int) :
    s.Aligned runId ↔ (s.buffer.nextSequence.get? runId).getD 1 = nextSequence s.rows runId := by
  unfold Aligned nextSequence
  cases ((listByRun s.rows runId).map Event.sequence).max? with
  | none =>
    dsimp only [Option.getD_none]
    omega
  | some sequence =>
    dsimp only [Option.getD_some]
    omega

end

/-- What the payload of an oversized event refers to. -/
def payloadRef (runId sequence : Int) : String :=
  "artifact://" ++ toString runId ++ "/" ++ toString sequence

/-- The returned event is the row, and a reference in place of the payload names the row. -/
def KeepsIdentity : Prop :=
  ∀ runId event stored row, Persisted e runId event stored row →
    stored.sequence = some row.sequence ∧ stored.eventId = some row.eventId ∧
      (e.before.Oversized event →
        row.payloadJson.get? "payload_ref" = some (.str (payloadRef runId row.sequence)))

theorem get?_of_oversized (h : s.Oversized event) {runId sequence : Int} {payload : PyDict}
    (hpayload : s.buffer.payloadOrRef runId sequence event.payload = .ok payload) :
    payload.get? "payload_ref" = some (.str (payloadRef runId sequence)) := by
  obtain ⟨encoded, hdumps, hlt⟩ := h
  simp only [ReplayBuffer.payloadOrRef, hdumps, if_neg (Int.not_le.mpr hlt)] at hpayload
  cases hpayload
  rfl

/-! ## One execution, alone on its run -/

section

variable (runId : Int)

/-- A step of an execution that is the only writer of the run: the others leave its live events
as they are, and an event that the buffer has numbered is stored. -/
def Sole (s : DurableBuffer) : Step → Prop
  | .fresh => False
  | .others rows => listByRun rows runId = listByRun s.rows runId
  | .append id scope _ event => id = runId → (PyValue.dict event.payload).Encodable →
      scope.isSome ∧ s.rows.get? (runId, nextSequence s.rows runId) = none

variable {runId}

/-- Such a step keeps buffer and table aligned. -/
theorem Aligned.exec (h : s.Aligned runId) {step : Step} (hstep : s.Sole runId step) :
    (exec s step).2.Aligned runId := by
  cases step with
  | fresh => cases hstep
  | others rows =>
    unfold Aligned at h ⊢
    simp only [DurableBuffer.exec]
    rw [hstep]
    exact h
  | append id scope attemptId event =>
    by_cases hencodable : (PyValue.dict event.payload).Encodable
    case neg =>
      obtain ⟨cls, happend⟩ :=
        ReplayBuffer.append_of_not_encodable event hencodable s.buffer id attemptId
      simp only [DurableBuffer.exec, happend]
      exact h
    obtain ⟨payload, hpayload⟩ := ReplayBuffer.payloadOrRef_of_encodable hencodable s.buffer id
      ((s.buffer.nextSequence.get? id).getD 1)
    rw [aligned_iff] at h ⊢
    simp only [DurableBuffer.exec, ReplayBuffer.append, hpayload]
    by_cases hid : id = runId
    · subst hid
      obtain ⟨hscope, hfree⟩ := hstep rfl hencodable
      obtain ⟨⟨tenantId, projectId⟩, rfl⟩ := Option.isSome_iff_exists.mp hscope
      simp only [keyOf, newEvent, hfree]
      let row := newEvent
        { runId := id
          tenantId := tenantId
          projectId := projectId
          type := event.type
          payload := some payload
          attemptId := attemptId
          framework := event.framework
          visibilityLevel := event.visibilityLevel } (nextSequence s.rows id)
      have hnext : nextSequence (s.rows.set (keyOf row) row) id = _ :=
        nextSequence_set hfree rfl rfl id
      simp only [row, keyOf, newEvent] at hnext
      rw [Dict.get?_set_self, Option.getD_some, hnext, h]
      simp
    · -- the events of another run
      have hbuffer : ∀ sequence, ((s.buffer.nextSequence.set id sequence).get? runId).getD 1 =
          nextSequence s.rows runId := by
        intro sequence
        rw [Dict.get?_set_ne _ _ (Ne.symm hid), h]
      cases scope with
      | none => exact hbuffer _
      | some scope =>
        dsimp only
        split
        · exact hbuffer _
        · rename_i hfree
          rw [hbuffer, nextSequence_set hfree rfl rfl runId]
          simp [newEvent, Ne.symm hid]

/-- The event of an append is stored as it is returned, if buffer and table are aligned. -/
theorem keepsIdentity_of_aligned {step : Step}
    (h : ∀ runId scope attemptId event, step = .append runId scope attemptId event →
      s.Aligned runId) :
    KeepsIdentity (entry exec s step) := by
  rintro runId event stored row ⟨⟨scope, attemptId, hcall⟩, hreply⟩
  cases (show step = _ from hcall)
  have heq := (aligned_iff s runId).mp (h runId scope attemptId event rfl)
  have hreply : (exec s (.append runId scope attemptId event)).1 = .ok (some (stored, row)) := hreply
  simp only [exec, ReplayBuffer.append] at hreply
  cases hpayload : s.buffer.payloadOrRef runId ((s.buffer.nextSequence.get? runId).getD 1)
      event.payload with
  | error cls =>
    rw [hpayload] at hreply
    cases hreply
  | ok payload =>
    rw [hpayload] at hreply
    cases scope with
    | none => cases hreply
    | some scope =>
      dsimp only at hreply
      split at hreply
      · cases hreply
      · cases hreply
        rw [heq] at hpayload ⊢
        exact ⟨rfl, rfl, fun hover => get?_of_oversized hover hpayload⟩

end

/-- Before every append, the execution was the only writer of the run since it began with a fresh
buffer, and the run had no live event then. -/
def SoleWriter (rows : Dict EventKey Event) (steps : List Step) : Prop :=
  ∀ earlier runId scope attemptId event later,
    steps = earlier ++ .append runId scope attemptId event :: later →
      ∃ before mine, earlier = before ++ mine ∧ (before = [] ∨ ∃ rest, before = rest ++ [.fresh]) ∧
        listByRun (final exec ⟨rows, {}⟩ before).rows runId = [] ∧
        Admitted exec (Sole runId) (final exec ⟨rows, {}⟩ before) mine

theorem SoleWriter.aligned {rows : Dict EventKey Event} {steps : List Step}
    (h : SoleWriter rows steps) {earlier later : List Step} {runId : Int}
    {scope : Option (Int × Int)} {attemptId : Option Int} {event : AgentEvent}
    (hsteps : steps = earlier ++ .append runId scope attemptId event :: later) :
    (final exec ⟨rows, {}⟩ earlier).Aligned runId := by
  obtain ⟨before, mine, rfl, hbefore, hnone, hmine⟩ := h _ _ _ _ _ _ hsteps
  rw [final_append]
  refine invariant_final exec (I := fun s => s.Aligned runId)
    (fun s step hstep haligned => Aligned.exec haligned hstep) mine _ ?_ hmine
  have hbuffer : (final exec ⟨rows, {}⟩ before).buffer = {} := by
    rcases hbefore with rfl | ⟨rest, rfl⟩
    · rfl
    · rw [final_append]
      rfl
  rw [Aligned, hnone, hbuffer]
  rfl

/-- Events keep their identity. From any event table and a fresh buffer, if before every append the
execution was the only writer of the run since it began, without a live event of the run: the event
that each append returns has the sequence and the event id of the row it stored, references name
their rows, and those of different events of a run are distinct. -/
theorem events_keep_identity_of_sole_writer (rows : Dict EventKey Event) (steps : List Step)
    (h : SoleWriter rows steps) :
    (∀ e ∈ trace exec ⟨rows, {}⟩ steps, KeepsIdentity e) ∧
      ∀ e ∈ trace exec ⟨rows, {}⟩ steps, ∀ e' ∈ trace exec ⟨rows, {}⟩ steps,
        ∀ runId event stored row event' stored' row', Persisted e runId event stored row →
          Persisted e' runId event' stored' row' → e.before.Oversized event →
            e'.before.Oversized event' → row.sequence ≠ row'.sequence →
              row.payloadJson.get? "payload_ref" ≠ row'.payloadJson.get? "payload_ref" := by
  have hkeeps : ∀ e ∈ trace exec ⟨rows, {}⟩ steps, KeepsIdentity e := by
    intro e he
    obtain ⟨earlier, step, later, hsteps, rfl⟩ := exists_of_mem_trace exec steps _ he
    refine keepsIdentity_of_aligned fun runId scope attemptId event hstep => ?_
    exact h.aligned (hstep ▸ hsteps)
  refine ⟨hkeeps, ?_⟩
  intro e he e' he' runId event stored row event' stored' row' h h' hover hover' hne heq
  have href := (hkeeps e he runId event stored row h).2.2 hover
  have href' := (hkeeps e' he' runId event' stored' row' h').2.2 hover'
  rw [href, href', Option.some.injEq, PyValue.str.injEq, payloadRef, payloadRef,
    String.append_right_inj] at heq
  have hread := parseInt_toString row.sequence
  rw [heq, parseInt_toString] at hread
  exact hne (Option.some.inj hread).symm

/-- The event that starts an execution of run 1. -/
def started : Step := .append 1 (some (1, 1)) none { type := "attempt.started", payload := [] }

/-- Two events of the first execution. -/
theorem events_keep_identity_of_sole_writer_started :
    SoleWriter .empty [started, started] ∧
      ∀ e ∈ trace exec ⟨.empty, {}⟩ [started, started], KeepsIdentity e := by
  refine (fun h => ⟨h, (events_keep_identity_of_sole_writer .empty _ h).1⟩) ?_
  intro earlier runId scope attemptId event later hsteps
  refine ⟨[], earlier, rfl, .inl rfl, ?_, ?_⟩
  · rfl
  · rcases earlier with _ | ⟨first, _ | ⟨second, rest⟩⟩
    · trivial
    · obtain ⟨rfl, _⟩ := List.cons_eq_cons.mp hsteps
      exact ⟨fun _ _ => ⟨rfl, rfl⟩, trivial⟩
    · simp at hsteps

/-- The second execution of a run: the event that starts it is returned as the first event. -/
theorem second_execution_renumbers : ∃ stored row, (exec ⟨Dict.empty.set (1, 1)
          (newEvent { runId := 1, tenantId := 1, projectId := 1, type := "attempt.started" } 1), {}⟩
        started).1 = .ok (some (stored, row)) ∧ stored.sequence = some 1 ∧ row.sequence = 2 :=
  ⟨_, _, rfl, rfl, rfl⟩

end DurableBuffer

end DimooRun.Worker
