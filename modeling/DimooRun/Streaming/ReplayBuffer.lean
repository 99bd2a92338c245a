/-
  Streaming/ReplayBuffer.lean --- the bounded event buffer of a run.

  Source: streaming/replay_buffer.py and core/events.py.

  Events are numbered per run. A payload whose JSON text is longer than the
  limit is replaced by a reference; a payload the encoder refuses makes `append`
  raise before anything is stored. Creation times of events are not kept: no
  function of the buffer reads them.
-/
import DimooRun.Foundation.Trace
import DimooRun.Foundation.Json

set_option autoImplicit false

namespace DimooRun.Streaming

open Foundation

/-- `AgentEvent`. -/
structure AgentEvent where
  type : String
  payload : PyDict
  runId : Option Int := none
  attemptId : Option Int := none
  sequence : Option Int := none
  eventId : Option String := none
  framework : Option String := none
  visibilityLevel : String := "internal"

/-- `AgentResult`; its metadata is read by nobody here. -/
structure AgentResult where
  output : PyDict
  events : List AgentEvent := []

/-- `ReplayBuffer`. -/
structure ReplayBuffer where
  maxEventsPerRun : Int := 1000
  maxPayloadBytes : Int := 64000
  events : Dict Int (List AgentEvent) := Dict.empty
  nextSequence : Dict Int Int := Dict.empty

namespace ReplayBuffer

variable (buffer : ReplayBuffer) (runId : Int)

/-- `_payload_or_ref`; a refusal names the class the encoder does not know. -/
def payloadOrRef (runId sequence : Int) (payload : PyDict) : Except String PyDict :=
  match PyValue.dumps (.dict payload) with
  | .error cls => .error cls
  | .ok encoded =>
      if (encoded.length : Int) ≤ buffer.maxPayloadBytes then
        .ok payload
      else
        .ok
          [("payload_ref", .str ("artifact://" ++ toString runId ++ "/" ++ toString sequence)),
            ("truncated", .bool true)]

/-- `del events[: len(events) - max_events_per_run]`, when there are too many. -/
def trim (events : List AgentEvent) : List AgentEvent :=
  if (events.length : Int) > buffer.maxEventsPerRun then
    events.drop ((events.length : Int) - buffer.maxEventsPerRun).toNat
  else
    events

/-- `append`: the stored event and the buffer after it. -/
def append (attemptId : Option Int) (event : AgentEvent) :
    Except String (AgentEvent × ReplayBuffer) :=
  let sequence := (buffer.nextSequence.get? runId).getD 1
  match buffer.payloadOrRef runId sequence event.payload with
  | .error cls => .error cls
  | .ok payload =>
      let stored : AgentEvent :=
        { event with
          runId := some runId
          attemptId := attemptId
          sequence := some sequence
          eventId := some (toString runId ++ ":" ++ toString sequence)
          payload := payload }
      let events := (buffer.events.get? runId).getD [] ++ [stored]
      .ok
        (stored,
          { buffer with
            events := buffer.events.set runId (buffer.trim events)
            nextSequence := buffer.nextSequence.set runId (sequence + 1) })

/-- What `replay` raises. -/
inductive ReplayError where
  /-- `ReplayExpiredError` -/
  | expired (event : AgentEvent)
  /-- `ValueError`: the id names another run, or no number -/
  | invalidId

/-- `_parse_event_id`. -/
def parseEventId (eventId : String) : Except ReplayError Int :=
  let runText := (toString runId ++ ":").toList
  if runText.isPrefixOf eventId.toList then
    match parseInt (eventId.toList.drop runText.length) with
    | some sequence => .ok sequence
    | none => .error .invalidId
  else
    .error .invalidId

/-- The event that tells a client it has to start over. -/
def expiredEvent (lastEventId : String) (lastSequence : Int) : AgentEvent :=
  { type := "stream.replay_expired"
    payload := [("last_event_id", .str lastEventId)]
    runId := some runId
    eventId := some (toString runId ++ ":replay-expired:" ++ toString lastSequence)
    visibilityLevel := "transport" }

/-- The events of a run that are still there. -/
def retained : List AgentEvent :=
  (buffer.events.get? runId).getD []

/-- `event.sequence is not None and event.sequence > last_sequence`. -/
def After (lastSequence : Int) (event : AgentEvent) : Prop :=
  ∃ sequence, event.sequence = some sequence ∧ lastSequence < sequence

instance (lastSequence : Int) (event : AgentEvent) : Decidable (After lastSequence event) :=
  match h : event.sequence with
  | none => .isFalse (by simp [After, h])
  | some sequence => decidable_of_iff (lastSequence < sequence) (by simp [After, h])

/-- `replay`. -/
def replay (lastEventId : Option String) : Except ReplayError (List AgentEvent) :=
  let events := buffer.retained runId
  match lastEventId with
  | none => .ok events
  | some lastEventId =>
      match parseEventId runId lastEventId with
      | .error e => .error e
      | .ok lastSequence =>
          if events.head?.any fun first => After lastSequence first then
            .error (.expired (expiredEvent runId lastEventId lastSequence))
          else
            .ok (events.filter fun event => After lastSequence event)

theorem payloadOrRef_of_encodable {payload : PyDict} (h : (PyValue.dict payload).Encodable)
    (buffer : ReplayBuffer) (runId sequence : Int) :
    ∃ payload', buffer.payloadOrRef runId sequence payload = .ok payload' := by
  unfold payloadOrRef
  unfold PyValue.Encodable at h
  cases hdumps : PyValue.dumps (.dict payload) with
  | error cls =>
    rw [hdumps] at h
    simp [Except.toBool] at h
  | ok encoded => exact ⟨_, (apply_ite _ _ _ _).symm⟩

/-- `append` stores an event whose payload is encodable. -/
theorem append_of_encodable (event : AgentEvent) (h : (PyValue.dict event.payload).Encodable)
    (buffer : ReplayBuffer) (runId : Int) (attemptId : Option Int) :
    ∃ stored buffer', buffer.append runId attemptId event = .ok (stored, buffer') := by
  obtain ⟨payload, hpayload⟩ :=
    payloadOrRef_of_encodable h buffer runId ((buffer.nextSequence.get? runId).getD 1)
  simp only [append, hpayload]
  exact ⟨_, _, rfl⟩

/-- `append` refuses an event whose payload is not. -/
theorem append_of_not_encodable (event : AgentEvent)
    (h : ¬ (PyValue.dict event.payload).Encodable) (buffer : ReplayBuffer) (runId : Int)
    (attemptId : Option Int) : ∃ cls, buffer.append runId attemptId event = .error cls := by
  unfold PyValue.Encodable at h
  cases hdumps : PyValue.dumps (.dict event.payload) with
  | error cls =>
    refine ⟨cls, ?_⟩
    simp only [append, payloadOrRef, hdumps]
  | ok encoded =>
    rw [hdumps] at h
    exact absurd rfl h

end ReplayBuffer

/-! ## Histories

The buffer forgets the oldest events of a run. What it keeps is always a final
stretch of everything that was appended for the run, numbered from one without
gaps, so a client that asks for the events after number `k` gets exactly those,
or learns that the buffer no longer reaches back to where it left off. -/

namespace ReplayBuffer

/-- A call of `append`. -/
structure AppendCall where
  runId : Int
  attemptId : Option Int
  event : AgentEvent

namespace AppendCall

/-- The encoder accepts the payload of the event. -/
def Accepted (call : AppendCall) : Prop := (PyValue.dict call.event.payload).Encodable

instance : DecidablePred Accepted := fun call =>
  inferInstanceAs (Decidable (PyValue.dict call.event.payload).Encodable)

/-- The event of the caller under a number, with its payload or the reference to it. -/
def numbered (maxPayloadBytes sequence : Int) (call : AppendCall) : AgentEvent :=
  { call.event with
    runId := some call.runId
    attemptId := call.attemptId
    sequence := some sequence
    eventId := some (toString call.runId ++ ":" ++ toString sequence)
    payload :=
      if ((PyValue.dict call.event.payload).dumps.toOption.getD []).length ≤ maxPayloadBytes then
        call.event.payload
      else
        [("payload_ref", .str ("artifact://" ++ toString call.runId ++ "/" ++ toString sequence)),
          ("truncated", .bool true)] }

end AppendCall

/-- What the calls append to a run: the events of those that are accepted, from one on. -/
def appended (maxPayloadBytes runId : Int) (calls : List AppendCall) : List AgentEvent :=
  (calls.filter fun call => call.runId = runId ∧ call.Accepted).mapIdx fun i call =>
    call.numbered maxPayloadBytes (i + 1)

theorem appended_append_singleton (maxPayloadBytes runId : Int) (calls : List AppendCall)
    (call : AppendCall) :
    appended maxPayloadBytes runId (calls ++ [call]) = appended maxPayloadBytes runId calls ++
      if call.runId = runId ∧ call.Accepted then
        [call.numbered maxPayloadBytes ((appended maxPayloadBytes runId calls).length + 1)]
      else [] := by
  unfold appended
  rw [List.filter_append, List.mapIdx_append, List.length_mapIdx]
  by_cases h : call.runId = runId ∧ call.Accepted <;> simp [h]

/-- `append` as a step: a refused event leaves the buffer alone. -/
def exec (buffer : ReplayBuffer) (call : AppendCall) : Except String AgentEvent × ReplayBuffer :=
  match buffer.append call.runId call.attemptId call.event with
  | .ok (stored, buffer') => (.ok stored, buffer')
  | .error cls => (.error cls, buffer)

/-- A new buffer. -/
def init (maxEventsPerRun maxPayloadBytes : Int) : ReplayBuffer :=
  { maxEventsPerRun := maxEventsPerRun, maxPayloadBytes := maxPayloadBytes }

section

variable (runId : Int) (tr : List (Entry ReplayBuffer AppendCall (Except String AgentEvent)))
  (e : Entry ReplayBuffer AppendCall (Except String AgentEvent))

/-- The event that a call stored for a run. -/
def storedFor : Option AgentEvent :=
  if e.call.runId = runId then e.reply.toOption else none

/-- Everything that was stored for a run, oldest first. -/
def history : List AgentEvent :=
  tr.filterMap (storedFor runId)

theorem history_append_singleton :
    history runId (tr ++ [e]) = history runId tr ++ (storedFor runId e).toList := by
  unfold history
  cases h : storedFor runId e <;> simp [h]

end

/-! ## One append -/

/-- What a call of `append` does: it is refused, or it stores the event of the caller,
numbered next, for its own run. -/
theorem exec_cases (buffer : ReplayBuffer) (call : AppendCall) :
    (¬ call.Accepted ∧ ∃ cls, exec buffer call = (.error cls, buffer)) ∨
      call.Accepted ∧ ∃ stored, stored = call.numbered buffer.maxPayloadBytes
          ((buffer.nextSequence.get? call.runId).getD 1) ∧
        exec buffer call = (.ok stored,
            { buffer with
              events := buffer.events.set call.runId
                (buffer.trim (buffer.retained call.runId ++ [stored]))
              nextSequence := buffer.nextSequence.set call.runId
                ((buffer.nextSequence.get? call.runId).getD 1 + 1) }) := by
  by_cases haccepted : call.Accepted
  · have hdumps : ∃ encoded, (PyValue.dict call.event.payload).dumps = .ok encoded := by
      unfold AppendCall.Accepted PyValue.Encodable at haccepted
      cases hdumps : (PyValue.dict call.event.payload).dumps with
      | error cls =>
        rw [hdumps] at haccepted
        cases haccepted
      | ok encoded => exact ⟨encoded, rfl⟩
    obtain ⟨encoded, hdumps⟩ := hdumps
    have hpayload : ∀ sequence, buffer.payloadOrRef call.runId sequence call.event.payload =
        .ok (call.numbered buffer.maxPayloadBytes sequence).payload := by
      intro sequence
      simp only [payloadOrRef, AppendCall.numbered, hdumps, Except.toOption, Option.getD_some]
      split <;> rfl
    refine .inr ⟨haccepted, _, rfl, ?_⟩
    simp only [exec, append, hpayload]
    rfl
  · obtain ⟨cls, hrefused⟩ := append_of_not_encodable call.event haccepted buffer call.runId
      call.attemptId
    exact .inl ⟨haccepted, cls, by simp only [exec, hrefused]⟩

variable {m : Nat} {runId : Int} {stored : List AgentEvent} {buffer : ReplayBuffer}

/-- The last `m` of a list, after one more element. -/
theorem drop_append_singleton {α : Type} (l : List α) (a : α) (hm : 1 ≤ m) :
    (l.drop (l.length - m) ++ [a]).drop ((l.drop (l.length - m) ++ [a]).length - m) =
      (l ++ [a]).drop ((l ++ [a]).length - m) := by
  have hlength : (l.drop (l.length - m)).length = l.length - (l.length - m) := List.length_drop
  rw [List.length_append, List.length_append, List.length_singleton]
  rw [List.drop_append_of_le_length (by rw [hlength]; omega), List.drop_drop,
    List.drop_append_of_le_length (by omega)]
  congr 2
  omega

theorem trim_eq_drop (buffer : ReplayBuffer) (hm : buffer.maxEventsPerRun = m)
    (events : List AgentEvent) : buffer.trim events = events.drop (events.length - m) := by
  unfold trim
  split
  · congr 1
    omega
  · have hzero : events.length - m = 0 := by omega
    rw [hzero, List.drop_zero]

/-! ## The window -/

/-- The buffer keeps the last `m` events of a run's history, which is numbered from one
without gaps. -/
structure Window (m : Nat) (runId : Int) (stored : List AgentEvent) (buffer : ReplayBuffer) :
    Prop where
  size : buffer.maxEventsPerRun = m
  next : (buffer.nextSequence.get? runId).getD 1 = stored.length + 1
  numbered : stored.map (·.sequence) =
    (List.range stored.length).map fun i : Nat => some ((i : Int) + 1)
  kept : buffer.retained runId = stored.drop (stored.length - m)

theorem window_init (maxPayloadBytes runId : Int) : Window m runId [] (init m maxPayloadBytes) :=
  ⟨rfl, rfl, rfl, by simp [retained, init]⟩

/-- One append keeps the window. -/
theorem window_exec (hm : 1 ≤ m) (h : Window m runId stored buffer) (call : AppendCall) :
    Window m runId (stored ++ (storedFor runId (entry exec buffer call)).toList)
      (exec buffer call).2 := by
  rcases exec_cases buffer call with ⟨_, cls, hexec⟩ | ⟨_, event, hevent, hexec⟩
  · have hnone : storedFor runId (entry exec buffer call) = none := by
      unfold storedFor entry
      rw [hexec]
      split <;> rfl
    rw [hnone, hexec, Option.toList_none, List.append_nil]
    exact h
  · by_cases hrun : call.runId = runId
    · have hsome : storedFor runId (entry exec buffer call) = some event := by
        unfold storedFor entry
        rw [hexec, if_pos hrun]
        rfl
      have hsequence : event.sequence = some ((buffer.nextSequence.get? runId).getD 1) := by
        rw [hevent, hrun]
        rfl
      rw [hsome, hexec, Option.toList_some]
      refine ⟨h.size, ?_, ?_, ?_⟩
      · simp only [hrun, Dict.get?_set_self, Option.getD_some, h.next, List.length_append]
        rfl
      · rw [List.map_append, h.numbered, List.length_append, List.length_singleton,
          List.range_succ, List.map_append]
        simp only [List.map_cons, List.map_nil, hsequence, h.next]
      · have hkept : ((buffer.events.set call.runId
            (buffer.trim (buffer.retained call.runId ++ [event]))).get? runId).getD [] =
            buffer.trim (buffer.retained runId ++ [event]) := by
          rw [hrun, Dict.get?_set_self, Option.getD_some]
        refine hkept.trans ?_
        rw [trim_eq_drop buffer h.size, h.kept]
        exact drop_append_singleton stored event hm
    · have hnone : storedFor runId (entry exec buffer call) = none := by
        unfold storedFor entry
        rw [if_neg hrun]
      rw [hnone, hexec, Option.toList_none, List.append_nil]
      refine ⟨h.size, ?_, h.numbered, ?_⟩
      · rw [← h.next]
        simp only [Dict.get?_set_ne _ _ (Ne.symm hrun)]
      · rw [← h.kept]
        unfold retained
        simp only [Dict.get?_set_ne _ _ (Ne.symm hrun)]

/-- One append stores the event of the caller, if it is accepted and for the run. -/
theorem storedFor_exec (h : Window m runId stored buffer) (call : AppendCall) :
    (storedFor runId (entry exec buffer call)).toList =
        (if call.runId = runId ∧ call.Accepted then
          [call.numbered buffer.maxPayloadBytes (stored.length + 1)] else []) ∧
      (exec buffer call).2.maxPayloadBytes = buffer.maxPayloadBytes := by
  unfold storedFor entry
  rcases exec_cases buffer call with ⟨hnot, cls, hexec⟩ | ⟨haccepted, event, hevent, hexec⟩
  · simp only [hexec, if_neg fun h : _ ∧ _ => hnot h.2]
    split <;> exact ⟨rfl, trivial⟩
  · by_cases hrun : call.runId = runId
    · rw [hrun, h.next] at hevent
      simp [hexec, hrun, haccepted, hevent, Except.toOption]
    · simp [hexec, hrun]

/-- Any history of appends keeps the window, and what is stored is what was appended. -/
theorem window_final (hm : 1 ≤ m) (maxPayloadBytes runId : Int) (calls : List AppendCall) :
    history runId (trace exec (init m maxPayloadBytes) calls) =
        appended maxPayloadBytes runId calls ∧
      Window m runId (history runId (trace exec (init m maxPayloadBytes) calls))
        (final exec (init m maxPayloadBytes) calls) := by
  have hrun := history_induction exec (J := fun tr buffer =>
      buffer.maxPayloadBytes = maxPayloadBytes ∧
        history runId tr = appended maxPayloadBytes runId (tr.map Entry.call) ∧
        Window m runId (history runId tr) buffer)
    (fun tr buffer call _ ⟨hbytes, happended, hwindow⟩ => by
      obtain ⟨hstored, hsame⟩ := storedFor_exec hwindow call
      rw [history_append_singleton]
      refine ⟨hsame.trans hbytes, ?_, window_exec hm hwindow call⟩
      rw [List.map_append, List.map_singleton, appended_append_singleton, ← happended, hstored,
        hbytes]
      rfl)
    calls [] (init m maxPayloadBytes) ⟨rfl, rfl, window_init maxPayloadBytes runId⟩
    (admitted_true _ calls _)
  simpa using hrun.2

/-! ## Replaying -/

/-- The id that the buffer gives to the events of a run is read back. -/
theorem parseEventId_eventId (runId k : Int) :
    parseEventId runId (toString runId ++ ":" ++ toString k) = .ok k := by
  unfold parseEventId
  have htext : (toString runId ++ ":" ++ toString k).toList =
      (toString runId ++ ":").toList ++ (toString k).toList := String.toList_append
  rw [htext, if_pos (List.isPrefixOf_iff_prefix.mpr (List.prefix_append _ _)),
    List.drop_left, parseInt_toString]

/-- The numbers of a window. -/
theorem Window.sequence_get (h : Window m runId stored buffer) {i : Nat} {event : AgentEvent}
    (hget : stored[i]? = some event) : event.sequence = some ((i : Int) + 1) := by
  have hi : i < stored.length := (List.getElem?_eq_some_iff.mp hget).1
  have hmap : (stored.map (·.sequence))[i]? = some event.sequence := by
    rw [List.getElem?_map, hget]
    rfl
  rw [h.numbered, List.getElem?_map, List.getElem?_range hi] at hmap
  exact (Option.some.inj hmap).symm

/-- An event that was dropped from the window has a number below those kept. -/
theorem Window.filter_kept (h : Window m runId stored buffer) {k : Int}
    (hk : ((stored.length - m : Nat) : Int) ≤ k) :
    (buffer.retained runId).filter (fun event => After k event) =
      stored.filter fun event => After k event := by
  have hdropped : (stored.take (stored.length - m)).filter (fun event => After k event) = [] := by
    rw [List.filter_eq_nil_iff]
    intro event hevent
    obtain ⟨i, hget⟩ := List.mem_iff_getElem?.mp hevent
    have hi : i < stored.length - m := by
      have hlt := (List.getElem?_eq_some_iff.mp hget).1
      rw [List.length_take] at hlt
      omega
    rw [List.getElem?_take_of_lt hi] at hget
    have hsequence := h.sequence_get hget
    simp only [After, hsequence, decide_eq_true_eq, Option.some.injEq, exists_eq_left']
    omega
  have hsplit := congrArg (List.filter fun event => decide (After k event))
    (List.take_append_drop (stored.length - m) stored)
  rw [List.filter_append, hdropped] at hsplit
  rw [h.kept]
  exact hsplit

/-- The first event kept, and its number. -/
theorem Window.head_kept (hm : 1 ≤ m) (h : Window m runId stored buffer) (hne : stored ≠ []) :
    ∃ first, (buffer.retained runId).head? = some first ∧
      first.sequence = some (((stored.length - m : Nat) : Int) + 1) := by
  have hpos : 0 < stored.length := List.length_pos_of_ne_nil hne
  have hlt : stored.length - m < stored.length := by omega
  have hget : stored[stored.length - m]? = some stored[stored.length - m] :=
    List.getElem?_eq_getElem hlt
  refine ⟨_, ?_, h.sequence_get hget⟩
  rw [h.kept, List.head?_drop, hget]

/-- Replay after number `k`: the client is told to start over when it left off before the
first event kept, and gets everything it has not seen otherwise. -/
theorem Window.replay_eq (hm : 1 ≤ m) (h : Window m runId stored buffer) (k : Int) :
    buffer.replay runId (some (toString runId ++ ":" ++ toString k)) =
      if stored ≠ [] ∧ k < ((stored.length - m : Nat) : Int) + 1 then
        .error (.expired (expiredEvent runId (toString runId ++ ":" ++ toString k) k))
      else .ok (stored.filter fun event => After k event) := by
  unfold replay
  simp only [parseEventId_eventId]
  by_cases hne : stored = []
  · have hkept : buffer.retained runId = [] := by
      rw [h.kept, hne]
      exact List.drop_nil
    simp [hkept, hne]
  · obtain ⟨first, hfirst, hsequence⟩ := h.head_kept hm hne
    have hafter : After k first ↔ k < ((stored.length - m : Nat) : Int) + 1 := by
      simp [After, hsequence]
    simp only [hfirst, Option.any_some, decide_eq_true_eq, hafter, ne_eq, hne, not_false_eq_true,
      true_and]
    split
    · rfl
    · rw [h.filter_kept (by omega)]

/-- An append leaves what is replayed for other runs alone. -/
theorem replay_exec_of_ne (buffer : ReplayBuffer) (call : AppendCall) (hne : call.runId ≠ runId)
    (lastEventId : Option String) :
    (exec buffer call).2.replay runId lastEventId = buffer.replay runId lastEventId := by
  have hretained : (exec buffer call).2.retained runId = buffer.retained runId := by
    rcases exec_cases buffer call with ⟨_, cls, hexec⟩ | ⟨_, event, _, hexec⟩
    · rw [hexec]
    · rw [hexec]
      unfold retained
      simp only [Dict.get?_set_ne _ _ (Ne.symm hne)]
  unfold replay
  rw [hretained]

/-- Replay is exact. After any history of appends, the events of a run are those of the calls
that were accepted, numbered from one without gaps. Replay after number `k` raises exactly when
the run has events and `k` is below the first number kept; otherwise it returns all events of the
run that were appended after number `k`, in order. Appends to one run do not change what is
replayed for another. -/
theorem event_replay_exact (maxEventsPerRun maxPayloadBytes : Int)
    (hsize : 1 ≤ maxEventsPerRun) (calls : List AppendCall) :
    (∀ runId, history runId (trace exec (init maxEventsPerRun maxPayloadBytes) calls) =
        appended maxPayloadBytes runId calls) ∧
      (∀ runId,
        (history runId (trace exec (init maxEventsPerRun maxPayloadBytes) calls)).map (·.sequence) =
          (List.range
            (history runId (trace exec (init maxEventsPerRun maxPayloadBytes) calls)).length).map
            fun i : Nat => some ((i : Int) + 1)) ∧
      (∀ runId k,
        ((∃ event, (final exec (init maxEventsPerRun maxPayloadBytes) calls).replay runId
              (some (toString runId ++ ":" ++ toString k)) = .error (.expired event)) ↔
            history runId (trace exec (init maxEventsPerRun maxPayloadBytes) calls) ≠ [] ∧
              ∃ first sequence,
                ((final exec (init maxEventsPerRun maxPayloadBytes) calls).retained runId).head? =
                  some first ∧
                first.sequence = some sequence ∧ k < sequence) ∧
          ((¬ ∃ event, (final exec (init maxEventsPerRun maxPayloadBytes) calls).replay runId
              (some (toString runId ++ ":" ++ toString k)) = .error (.expired event)) →
            (final exec (init maxEventsPerRun maxPayloadBytes) calls).replay runId
                (some (toString runId ++ ":" ++ toString k)) =
              .ok ((history runId (trace exec (init maxEventsPerRun maxPayloadBytes) calls)).filter
                  fun event => After k event))) ∧
      ∀ (call : AppendCall) (runId : Int), call.runId ≠ runId → ∀ lastEventId,
        (exec (final exec (init maxEventsPerRun maxPayloadBytes) calls) call).2.replay runId
            lastEventId =
          (final exec (init maxEventsPerRun maxPayloadBytes) calls).replay runId lastEventId := by
  obtain ⟨m, rfl⟩ : ∃ m : Nat, maxEventsPerRun = m := ⟨maxEventsPerRun.toNat, by omega⟩
  have hm : 1 ≤ m := by omega
  have hwindow := fun runId => (window_final hm maxPayloadBytes runId calls).2
  refine ⟨fun runId => (window_final hm maxPayloadBytes runId calls).1,
    fun runId => (hwindow runId).numbered, ?_, ?_⟩
  · intro runId k
    rw [(hwindow runId).replay_eq hm k]
    have hfirst := (hwindow runId).head_kept hm
    generalize history runId (trace exec (init m maxPayloadBytes) calls) = stored at hfirst ⊢
    constructor
    · by_cases hne : stored = []
      · simp [hne]
      · obtain ⟨first, hhead, hsequence⟩ := hfirst hne
        simp only [hhead, ne_eq, hne, not_false_eq_true, true_and, Option.some.injEq,
          exists_eq_left', exists_and_left, hsequence]
        constructor
        · rintro ⟨event, hreplay⟩
          by_contra hk
          rw [if_neg hk] at hreplay
          simp at hreplay
        · intro hk
          rw [if_pos hk]
          exact ⟨_, rfl⟩
    · intro hnot
      by_cases hexpired : stored ≠ [] ∧ k < ((stored.length - m : Nat) : Int) + 1
      · rw [if_pos hexpired] at hnot
        exact absurd ⟨_, rfl⟩ hnot
      · rw [if_neg hexpired]
  · intro call runId hne lastEventId
    exact replay_exec_of_ne _ call hne lastEventId

/-- Three events for one run and one for another, in a buffer for two. -/
def fourAppends : List AppendCall :=
  [⟨1, none, { type := "run.started", payload := [] }⟩,
    ⟨1, none, { type := "agent.stream_chunk", payload := [("delta", .str "a")] }⟩,
    ⟨2, none, { type := "run.started", payload := [] }⟩,
    ⟨1, none, { type := "stream.completed", payload := [] }⟩]

theorem event_replay_exact_fourAppends :
    ((history 1 (trace exec (init 2 64000) fourAppends)).map (·.type) =
        ["run.started", "agent.stream_chunk", "stream.completed"]) ∧
      ∃ event, (final exec (init 2 64000) fourAppends).replay 1 (some "1:1") =
        .error (.expired event) := by
  obtain ⟨happended, _, hreplay, _⟩ := event_replay_exact 2 64000 (by decide) fourAppends
  refine ⟨by rw [happended 1]; decide, (hreplay 1 1).1.mpr ⟨?_, ?_⟩⟩
  · have hlength : (history 1 (trace exec (init 2 64000) fourAppends)).length = 3 := by decide
    intro hnil
    rw [hnil] at hlength
    simp at hlength
  · exact ⟨_, 2, rfl, rfl, by decide⟩

end ReplayBuffer

end DimooRun.Streaming
