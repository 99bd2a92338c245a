/-
  Streaming/Fanout.lean --- live events to the subscribers of a run.

  Source: streaming/fanout.py, the hub and its subscribers.

  A subscriber is an object: whoever subscribed keeps it and drains it, also after
  the hub has dropped it. The hub refers to subscribers by their place in the list
  of all that were ever created.
-/
import Mathlib.Data.Set.Card
import DimooRun.Foundation.Raising
import DimooRun.Streaming.ReplayBuffer

set_option autoImplicit false

namespace DimooRun.Streaming

open Foundation

/-- `StreamBackpressureError`. -/
structure StreamBackpressureError where
  subscriberId : String

/-- `StreamBackpressureError.error_code`. -/
def StreamBackpressureError.errorCode : String := "stream_backpressure"

/-- `StreamSubscriber`. -/
structure StreamSubscriber where
  subscriberId : String
  maxBufferSize : Int
  buffer : List AgentEvent := []
  disconnected : Bool := false
  disconnectReason : Option String := none

namespace StreamSubscriber

/-- `push`. -/
def push (event : AgentEvent) : EStateM StreamBackpressureError StreamSubscriber Unit := do
  let subscriber ← get
  if subscriber.disconnected then
    return
  if (subscriber.buffer.length : Int) ≥ subscriber.maxBufferSize then
    modify fun subscriber =>
      { subscriber with
        disconnected := true
        disconnectReason := some StreamBackpressureError.errorCode }
    throw ⟨subscriber.subscriberId⟩
  modify fun subscriber => { subscriber with buffer := subscriber.buffer ++ [event] }

/-- There is no room for another event. -/
def Full (subscriber : StreamSubscriber) : Prop :=
  subscriber.maxBufferSize ≤ subscriber.buffer.length

instance (subscriber : StreamSubscriber) : Decidable subscriber.Full :=
  inferInstanceAs (Decidable (_ ≤ _))

/-- A connected subscriber takes an event, or overflows. -/
theorem run_push {subscriber : StreamSubscriber} (h : subscriber.disconnected = false)
    (event : AgentEvent) :
    (push event).run subscriber =
      if subscriber.Full then
        .error ⟨subscriber.subscriberId⟩ { subscriber with
            disconnected := true
            disconnectReason := some StreamBackpressureError.errorCode }
      else .ok () { subscriber with buffer := subscriber.buffer ++ [event] } := by
  simp only [push, EStateM.run_bind, EStateM.run_get, h, Bool.false_eq_true, if_false, Full]
  by_cases hfull : (subscriber.buffer.length : Int) ≥ subscriber.maxBufferSize
  · rw [if_pos hfull, if_pos hfull]
    rfl
  · rw [if_neg hfull, if_neg hfull]
    show EStateM.Result.ok () { subscriber with buffer := subscriber.buffer ++ [event] } = _
    rw [h]

end StreamSubscriber

/-- `StreamFanOutHub`, and the subscribers that were ever created. -/
structure StreamFanOutHub where
  maxBufferSize : Int := 100
  subscribers : Dict Int (Dict String Nat) := Dict.empty
  objects : List StreamSubscriber := []

namespace StreamFanOutHub

section

variable (hub : StreamFanOutHub) (runId : Int) (subscriberId : String)

/-- `subscribe`; the result is the new subscriber. -/
def subscribe : Nat × StreamFanOutHub :=
  let subscriber : StreamSubscriber :=
    { subscriberId := subscriberId, maxBufferSize := hub.maxBufferSize }
  let ofRun := (hub.subscribers.get? runId).getD Dict.empty
  (hub.objects.length,
    { hub with
      subscribers := hub.subscribers.set runId (ofRun.set subscriberId hub.objects.length)
      objects := hub.objects ++ [subscriber] })

/-- `unsubscribe`. -/
def unsubscribe :
    StreamFanOutHub :=
  match hub.subscribers.get? runId with
  | none => hub
  | some ofRun =>
      { hub with subscribers := hub.subscribers.set runId (ofRun.erase subscriberId) }

/-- The body of the loop of `publish`; the result tells whether the event counts as
delivered. -/
def pushTo (event : AgentEvent) (ref : Nat) : Bool × StreamFanOutHub :=
  match hub.objects[ref]? with
  | none => (false, hub)
  | some subscriber =>
      match (StreamSubscriber.push event).run subscriber with
      | .ok _ subscriber' => (true, { hub with objects := hub.objects.set ref subscriber' })
      | .error e subscriber' =>
          (false,
            { hub with objects := hub.objects.set ref subscriber' }.unsubscribe runId
              e.subscriberId)

end

/-- The loop of `publish`. -/
def publishEach (runId : Int) (event : AgentEvent) :
    StreamFanOutHub → List Nat → Nat × StreamFanOutHub
  | hub, [] => (0, hub)
  | hub, ref :: refs =>
      let (delivered, hub) := hub.pushTo runId event ref
      let (count, hub) := publishEach runId event hub refs
      ((if delivered then 1 else 0) + count, hub)

section

variable (hub : StreamFanOutHub)

/-- The subscribers of a run, in the order of the dictionary. -/
def subscribersOf (runId : Int) : List Nat :=
  ((hub.subscribers.get? runId).getD Dict.empty).values

/-- `publish`. -/
def publish (runId : Int) (event : AgentEvent) : Nat × StreamFanOutHub :=
  publishEach runId event hub (hub.subscribersOf runId)

/-- `drain` of a subscriber. -/
def drain (ref : Nat) : List AgentEvent × StreamFanOutHub :=
  match hub.objects[ref]? with
  | none => ([], hub)
  | some subscriber =>
      (subscriber.buffer,
        { hub with objects := hub.objects.set ref { subscriber with buffer := [] } })

/-! ## Calls -/

/-- A call on the hub or on a subscriber. -/
inductive HubCall where
  | subscribe (runId : Int) (subscriberId : String)
  | unsubscribe (runId : Int) (subscriberId : String)
  | publish (runId : Int) (event : AgentEvent)
  | drain (ref : Nat)

/-- What a call returns. -/
inductive HubReply where
  | subscriber (ref : Nat)
  | done
  | delivered (count : Nat)
  | events (events : List AgentEvent)

/-- One call. -/
def exec : HubCall → HubReply × StreamFanOutHub
  | .subscribe runId subscriberId =>
      let (ref, hub) := hub.subscribe runId subscriberId
      (.subscriber ref, hub)
  | .unsubscribe runId subscriberId => (.done, hub.unsubscribe runId subscriberId)
  | .publish runId event =>
      let (count, hub) := hub.publish runId event
      (.delivered count, hub)
  | .drain ref =>
      let (events, hub) := hub.drain ref
      (.events events, hub)

/-- `StreamFanOutHub.__init__`. -/
def init (maxBufferSize : Int) : StreamFanOutHub := { maxBufferSize := maxBufferSize }

/-! ## Registration -/

/-- The hub has the subscriber `ref` under an id of a run. -/
def Registered (runId : Int) (subscriberId : String) (ref : Nat) : Prop :=
  ((hub.subscribers.get? runId).bind fun ofRun => ofRun.get? subscriberId) = some ref

end

variable {hub : StreamFanOutHub} {runId runId' : Int} {ref : Nat}
  {subscriberId subscriberId' : String}

theorem mem_subscribersOf :
    ref ∈ hub.subscribersOf runId ↔ ∃ subscriberId, hub.Registered runId subscriberId ref := by
  unfold subscribersOf Registered
  cases hub.subscribers.get? runId with
  | none => simp [Dict.values, Dict.empty]
  | some ofRun => simp [Dict.mem_values_iff]

theorem registered_unsubscribe :
    (hub.unsubscribe runId subscriberId).Registered runId' subscriberId' ref ↔
      hub.Registered runId' subscriberId' ref ∧
        ¬ (runId' = runId ∧ subscriberId' = subscriberId) := by
  unfold unsubscribe Registered
  cases hrun : hub.subscribers.get? runId with
  | none =>
    refine (and_iff_left_of_imp fun href hsame => ?_).symm
    rw [hsame.1, hrun] at href
    cases href
  | some ofRun =>
    simp only [Dict.get?_set]
    by_cases hsame : runId' = runId
    · subst hsame
      simp only [if_true, Option.bind_some, Dict.get?_erase, hrun]
      by_cases hid : subscriberId' = subscriberId <;> simp [hid]
    · simp [hsame]

@[simp] theorem objects_unsubscribe (hub : StreamFanOutHub) (runId : Int) (subscriberId : String) :
    (hub.unsubscribe runId subscriberId).objects = hub.objects := by
  unfold unsubscribe
  split <;> rfl

@[simp] theorem maxBufferSize_unsubscribe (hub : StreamFanOutHub) (runId : Int)
    (subscriberId : String) :
    (hub.unsubscribe runId subscriberId).maxBufferSize = hub.maxBufferSize := by
  unfold unsubscribe
  split <;> rfl

theorem registered_subscribe :
    (hub.subscribe runId subscriberId).2.Registered runId' subscriberId' ref ↔
      if runId' = runId ∧ subscriberId' = subscriberId then ref = hub.objects.length
      else hub.Registered runId' subscriberId' ref := by
  unfold subscribe Registered
  simp only [Dict.get?_set]
  by_cases hrun : runId' = runId
  · subst hrun
    simp only [if_true, Option.bind_some, Dict.get?_set]
    by_cases hid : subscriberId' = subscriberId
    · simp [hid, eq_comm]
    · simp only [hid]
      cases hub.subscribers.get? runId' with
      | none => simp
      | some ofRun => simp
  · simp [hrun]

end StreamFanOutHub

/-! ## What one call does to the hub

A publication hits every subscriber that is registered for the run, once: it takes
the event, or it overflows and loses its registration. Everybody else is left
alone. That rests on the hub being in order (`Orderly`): a registered subscriber
is connected, and is registered under one id of one run. -/

namespace StreamSubscriber

variable (subscriber : StreamSubscriber) (event : AgentEvent)

/-- The subscriber after it took an event. -/
def received : StreamSubscriber :=
  { subscriber with buffer := subscriber.buffer ++ [event] }

/-- The subscriber after an event found it full. -/
def overflowed : StreamSubscriber :=
  { subscriber with
    disconnected := true
    disconnectReason := some StreamBackpressureError.errorCode }

/-- What an event does to a registered subscriber. -/
def hit : StreamSubscriber :=
  if subscriber.Full then subscriber.overflowed else subscriber.received event

/-- The buffer is empty or within its bound. -/
def Bounded : Prop :=
  subscriber.buffer = [] ∨ (subscriber.buffer.length : Int) ≤ subscriber.maxBufferSize

theorem Bounded.hit {subscriber : StreamSubscriber} (h : subscriber.Bounded)
    (event : AgentEvent) : (subscriber.hit event).Bounded := by
  unfold StreamSubscriber.hit
  split
  · exact h
  · rename_i hroom
    right
    simp only [received, List.length_append, List.length_singleton]
    unfold Full at hroom
    omega

@[simp] theorem maxBufferSize_hit :
    (subscriber.hit event).maxBufferSize = subscriber.maxBufferSize := by
  unfold hit
  split <;> rfl

end StreamSubscriber

namespace StreamFanOutHub

open StreamSubscriber

/-! ## The hub in order -/

/-- Registered subscribers exist, know their id, are connected and registered once. -/
structure Orderly (hub : StreamFanOutHub) : Prop where
  connected : ∀ {runId subscriberId ref}, hub.Registered runId subscriberId ref →
    ∃ subscriber, hub.objects[ref]? = some subscriber ∧
      subscriber.subscriberId = subscriberId ∧ subscriber.disconnected = false
  unique : ∀ {runId subscriberId runId' subscriberId' ref},
    hub.Registered runId subscriberId ref → hub.Registered runId' subscriberId' ref →
      runId' = runId ∧ subscriberId' = subscriberId

theorem orderly_init (maxBufferSize : Int) : Orderly (init maxBufferSize) where
  connected href := by simp [Registered, init] at href
  unique href := by simp [Registered, init] at href

variable {hub hub' : StreamFanOutHub} {runId : Int} {subscriberId : String} {ref : Nat}
  {subscriber : StreamSubscriber} {event : AgentEvent}

/-- Connected subscribers may lose their registration. -/
theorem Orderly.shrink (h : Orderly hub)
    (hregistered : ∀ {runId subscriberId ref}, hub'.Registered runId subscriberId ref →
      hub.Registered runId subscriberId ref)
    (hconnected : ∀ {runId subscriberId ref}, hub'.Registered runId subscriberId ref →
      ∀ subscriber, hub.objects[ref]? = some subscriber →
        ∃ subscriber', hub'.objects[ref]? = some subscriber' ∧
          subscriber'.subscriberId = subscriber.subscriberId ∧
          subscriber'.disconnected = subscriber.disconnected) : Orderly hub' where
  connected href := by
    obtain ⟨subscriber, hobject, hid, hconnected'⟩ := h.connected (hregistered href)
    obtain ⟨subscriber', hobject', hid', hsame⟩ := hconnected href subscriber hobject
    exact ⟨subscriber', hobject', hid'.trans hid, hsame.trans hconnected'⟩
  unique href href' := h.unique (hregistered href) (hregistered href')

/-- One push of the loop, to a registered subscriber. -/
theorem pushTo_eq (h : Orderly hub) (href : hub.Registered runId subscriberId ref)
    (hobject : hub.objects[ref]? = some subscriber) (event : AgentEvent) :
    hub.pushTo runId event ref =
      if subscriber.Full then
        (false,
          { hub with objects := hub.objects.set ref (subscriber.hit event) }.unsubscribe runId
            subscriberId)
      else (true, { hub with objects := hub.objects.set ref (subscriber.hit event) }) := by
  obtain ⟨subscriber', hobject', hid, hconnected⟩ := h.connected href
  rw [hobject] at hobject'
  cases hobject'
  unfold pushTo hit
  simp only [hobject, run_push hconnected event]
  by_cases hfull : subscriber.Full
  · simp only [if_pos hfull, ← hid]
    rfl
  · simp only [if_neg hfull]
    rfl

/-- What a publication leaves: every subscriber in `refs` hit, everybody else as before,
and the registrations of those that did not overflow. -/
structure Published (hub hub' : StreamFanOutHub) (refs : List Nat) (event : AgentEvent) : Prop where
  hit : ∀ ref ∈ refs, ∀ subscriber, hub.objects[ref]? = some subscriber →
    hub'.objects[ref]? = some (subscriber.hit event)
  others : ∀ ref, ref ∉ refs → hub'.objects[ref]? = hub.objects[ref]?
  registered : ∀ runId subscriberId ref, hub'.Registered runId subscriberId ref ↔
    hub.Registered runId subscriberId ref ∧
      ¬ (ref ∈ refs ∧ ∃ subscriber, hub.objects[ref]? = some subscriber ∧ subscriber.Full)
  maxBufferSize : hub'.maxBufferSize = hub.maxBufferSize

theorem published_pushTo (h : Orderly hub) (href : hub.Registered runId subscriberId ref)
    (hobject : hub.objects[ref]? = some subscriber) (event : AgentEvent) :
    Published hub (hub.pushTo runId event ref).2 [ref] event ∧
      (hub.pushTo runId event ref).1 = !decide subscriber.Full := by
  have hlt : ref < hub.objects.length := (List.getElem?_eq_some_iff.mp hobject).1
  rw [pushTo_eq h href hobject event]
  have hhit : ∀ ref' ∈ [ref], ∀ subscriber', hub.objects[ref']? = some subscriber' →
      (hub.objects.set ref (subscriber.hit event))[ref']? = some (subscriber'.hit event) := by
    intro ref' hmem subscriber' hobject'
    rw [List.mem_singleton.mp hmem, hobject] at hobject'
    cases hobject'
    rw [List.mem_singleton.mp hmem]
    exact List.getElem?_set_self hlt
  have hothers : ∀ ref', ref' ∉ [ref] →
      (hub.objects.set ref (subscriber.hit event))[ref']? = hub.objects[ref']? :=
    fun ref' hne => List.getElem?_set_ne fun hsame => hne (List.mem_singleton.mpr hsame.symm)
  by_cases hfull : subscriber.Full
  · rw [if_pos hfull]
    refine ⟨⟨?_, ?_, ?_, by simp⟩, by simp [hfull]⟩
    · simpa only [objects_unsubscribe] using hhit
    · simpa only [objects_unsubscribe] using hothers
    · intro runId' subscriberId' ref'
      rw [registered_unsubscribe]
      refine and_congr_right fun href' => not_congr ?_
      constructor
      · rintro ⟨rfl, rfl⟩
        -- the id names one subscriber only
        cases href.symm.trans href'
        exact ⟨List.mem_singleton_self ref, subscriber, hobject, hfull⟩
      · rintro ⟨hmem, _⟩
        rw [List.mem_singleton.mp hmem] at href'
        exact h.unique href href'
  · rw [if_neg hfull]
    refine ⟨⟨hhit, hothers, ?_, rfl⟩, by simp [hfull]⟩
    intro runId' subscriberId' ref'
    refine (and_iff_left ?_).symm
    rintro ⟨hmem, subscriber', hobject', hfull'⟩
    rw [List.mem_singleton.mp hmem, hobject] at hobject'
    cases hobject'
    exact hfull hfull'

theorem Published.orderly {refs : List Nat} (hpublished : Published hub hub' refs event)
    (h : Orderly hub) : Orderly hub' := by
  refine h.shrink (fun href => ((hpublished.registered _ _ _).mp href).1) ?_
  intro runId subscriberId ref href subscriber hobject
  by_cases hmem : ref ∈ refs
  · have hnotFull : ¬ subscriber.Full := fun hfull =>
      ((hpublished.registered _ _ _).mp href).2 ⟨hmem, subscriber, hobject, hfull⟩
    refine ⟨_, hpublished.hit ref hmem subscriber hobject, ?_⟩
    unfold StreamSubscriber.hit
    rw [if_neg hnotFull]
    exact ⟨rfl, rfl⟩
  · exact ⟨subscriber, (hpublished.others ref hmem).trans hobject, rfl, rfl⟩

theorem Published.cons {hub'' : StreamFanOutHub} {refs : List Nat}
    (hfirst : Published hub hub' [ref] event) (hrest : Published hub' hub'' refs event)
    (hnotin : ref ∉ refs) : Published hub hub'' (ref :: refs) event where
  hit := by
    intro ref' hmem subscriber hobject
    by_cases hsame : ref' = ref
    · subst hsame
      exact (hrest.others ref' hnotin).trans
        (hfirst.hit ref' (List.mem_singleton_self _) subscriber hobject)
    · refine hrest.hit ref' ((List.mem_cons.mp hmem).resolve_left hsame) subscriber ?_
      rw [hfirst.others ref' (by simpa using hsame), hobject]
  others := by
    intro ref' hnot
    rw [List.mem_cons, not_or] at hnot
    exact (hrest.others ref' hnot.2).trans (hfirst.others ref' (by simpa using hnot.1))
  registered := by
    intro runId subscriberId ref'
    rw [hrest.registered, hfirst.registered]
    by_cases hsame : ref' = ref
    · subst hsame
      simp [hnotin]
    · rw [hfirst.others ref' (by simpa using hsame)]
      simp [hsame]
  maxBufferSize := hrest.maxBufferSize.trans hfirst.maxBufferSize

/-- The subscriber has room for an event. -/
def HasRoom (hub : StreamFanOutHub) (ref : Nat) : Prop :=
  ∃ subscriber, hub.objects[ref]? = some subscriber ∧ ¬ subscriber.Full

instance (hub : StreamFanOutHub) (ref : Nat) : Decidable (hub.HasRoom ref) :=
  match h : hub.objects[ref]? with
  | none => .isFalse (by simp [HasRoom, h])
  | some subscriber => decidable_of_iff (¬ subscriber.Full) (by simp [HasRoom, h])

theorem publishEach_cons (runId : Int) (event : AgentEvent) (hub : StreamFanOutHub) (ref : Nat)
    (refs : List Nat) :
    publishEach runId event hub (ref :: refs) = ((if (hub.pushTo runId event ref).1 then 1 else 0) +
          (publishEach runId event (hub.pushTo runId event ref).2 refs).1,
        (publishEach runId event (hub.pushTo runId event ref).2 refs).2) := rfl

/-- The loop of `publish` hits every subscriber of the list once, and counts those that
had room. -/
theorem published_publishEach (runId : Int) (event : AgentEvent) (refs : List Nat) :
    ∀ {hub : StreamFanOutHub}, Orderly hub → refs.Nodup →
      (∀ ref ∈ refs, ∃ subscriberId, hub.Registered runId subscriberId ref) →
      Published hub (publishEach runId event hub refs).2 refs event ∧
        (publishEach runId event hub refs).1 = refs.countP fun ref => hub.HasRoom ref := by
  induction refs with
  | nil =>
    intro hub _ _ _
    exact ⟨⟨by simp, fun _ _ => rfl, by simp [publishEach], rfl⟩, rfl⟩
  | cons ref refs ih =>
    intro hub h hnodup hrefs
    obtain ⟨hnotin, hnodup⟩ := List.nodup_cons.mp hnodup
    obtain ⟨subscriberId, href⟩ := hrefs ref List.mem_cons_self
    obtain ⟨subscriber, hobject, _⟩ := h.connected href
    obtain ⟨hpushed, hdelivered⟩ := published_pushTo h href hobject event
    have hne : ∀ ref' ∈ refs, ref' ∉ [ref] := by
      intro ref' hmem hsame
      exact hnotin (List.mem_singleton.mp hsame ▸ hmem)
    -- the subscribers still to come are registered as before
    have hrefs' : ∀ ref' ∈ refs, ∃ subscriberId',
        (hub.pushTo runId event ref).2.Registered runId subscriberId' ref' := by
      intro ref' hmem
      obtain ⟨subscriberId', href'⟩ := hrefs ref' (List.mem_cons_of_mem _ hmem)
      exact ⟨subscriberId', (hpushed.registered _ _ _).mpr ⟨href', fun hhit => hne ref' hmem hhit.1⟩⟩
    obtain ⟨hrest, hcount⟩ := ih (hpushed.orderly h) hnodup hrefs'
    refine ⟨hpushed.cons hrest hnotin, ?_⟩
    have hcountP : refs.countP (fun ref' => (hub.pushTo runId event ref).2.HasRoom ref') =
        refs.countP fun ref' => hub.HasRoom ref' := by
      refine List.countP_congr fun ref' hmem => ?_
      rw [decide_eq_true_iff, decide_eq_true_iff, HasRoom, hpushed.others ref' (hne ref' hmem)]
      rfl
    have hhead : hub.HasRoom ref ↔ ¬ subscriber.Full := by simp [HasRoom, hobject]
    rw [publishEach_cons, List.countP_cons, ← hcountP, ← hcount, hdelivered, Nat.add_comm]
    simp [hhead]

/-- The subscribers of a run are listed once. -/
theorem nodup_subscribersOf (h : Orderly hub) (runId : Int) : (hub.subscribersOf runId).Nodup := by
  unfold subscribersOf
  cases hrun : hub.subscribers.get? runId with
  | none => simp [Dict.values, Dict.empty]
  | some ofRun =>
    refine List.Nodup.map_on ?_ (List.Nodup.of_map Prod.fst ofRun.nodup)
    rintro ⟨subscriberId, ref⟩ hmem ⟨subscriberId', ref'⟩ hmem' hsame
    obtain rfl : ref = ref' := hsame
    have href : ∀ {subscriberId : String}, (subscriberId, ref) ∈ ofRun.entries →
        hub.Registered runId subscriberId ref := fun hmem => by
      rw [Registered, hrun]
      exact (Dict.get?_eq_some_iff _).mpr hmem
    rw [(h.unique (href hmem) (href hmem')).2]

theorem published_publish (h : Orderly hub) (runId : Int) (event : AgentEvent) :
    Published hub (hub.publish runId event).2 (hub.subscribersOf runId) event ∧
      (hub.publish runId event).1 = (hub.subscribersOf runId).countP fun ref => hub.HasRoom ref :=
  published_publishEach runId event _ h (nodup_subscribersOf h runId)
    fun _ href => mem_subscribersOf.mp href

/-! ## The other calls -/

theorem not_registered_of_length_le (h : Orderly hub) (hle : hub.objects.length ≤ ref) :
    ¬ hub.Registered runId subscriberId ref := by
  intro href
  obtain ⟨subscriber, hobject, _⟩ := h.connected href
  have hlt := (List.getElem?_eq_some_iff.mp hobject).1
  omega

section

variable (hub runId subscriberId)

theorem objects_subscribe (hlt : ref < hub.objects.length) :
    (hub.subscribe runId subscriberId).2.objects[ref]? = hub.objects[ref]? :=
  List.getElem?_append_left hlt

theorem object_subscribe : (hub.subscribe runId subscriberId).2.objects[hub.objects.length]? =
      some { subscriberId := subscriberId, maxBufferSize := hub.maxBufferSize } :=
  List.getElem?_concat_length

theorem objects_drain (ref ref' : Nat) : (hub.drain ref).2.objects[ref']? =
      if ref' = ref then (hub.objects[ref]?).map fun subscriber => { subscriber with buffer := [] }
      else hub.objects[ref']? := by
  unfold drain
  cases hobject : hub.objects[ref]? with
  | none =>
    by_cases hsame : ref' = ref
    · simp [hsame, hobject]
    · simp [hsame]
  | some subscriber =>
    have hlt : ref < hub.objects.length := (List.getElem?_eq_some_iff.mp hobject).1
    by_cases hsame : ref' = ref
    · simp [hsame, List.getElem?_set_self hlt]
    · simp [hsame, List.getElem?_set_ne (Ne.symm hsame)]

end

theorem registered_drain {ref' : Nat} : (hub.drain ref).2.Registered runId subscriberId ref' ↔
      hub.Registered runId subscriberId ref' := by
  unfold drain Registered
  split <;> rfl

/-- Every call keeps the hub in order. -/
theorem orderly_exec (h : Orderly hub) (call : HubCall) : Orderly (exec hub call).2 := by
  cases call with
  | subscribe runId subscriberId =>
    show Orderly (hub.subscribe runId subscriberId).2
    constructor
    · intro runId' subscriberId' ref href
      rw [registered_subscribe] at href
      split at href
      · rename_i hsame
        subst href
        exact ⟨_, object_subscribe hub runId subscriberId, hsame.2.symm, rfl⟩
      · obtain ⟨subscriber, hobject, hrest⟩ := h.connected href
        rw [objects_subscribe hub _ _ (List.getElem?_eq_some_iff.mp hobject).1]
        exact ⟨subscriber, hobject, hrest⟩
    · intro runId₁ subscriberId₁ runId₂ subscriberId₂ ref h₁ h₂
      rw [registered_subscribe] at h₁ h₂
      split at h₁ <;> split at h₂
      · rename_i hsame₁ hsame₂
        exact ⟨hsame₂.1.trans hsame₁.1.symm, hsame₂.2.trans hsame₁.2.symm⟩
      · exact absurd h₂ (not_registered_of_length_le h h₁.ge)
      · exact absurd h₁ (not_registered_of_length_le h h₂.ge)
      · exact h.unique h₁ h₂
  | unsubscribe runId subscriberId =>
    refine h.shrink (fun href => (registered_unsubscribe.mp href).1) fun _ subscriber hobject => ?_
    exact ⟨subscriber, by rw [← hobject, exec, objects_unsubscribe], rfl, rfl⟩
  | publish runId event => exact (published_publish h runId event).1.orderly h
  | drain ref =>
    refine h.shrink registered_drain.mp fun {_ _ ref'} _ subscriber hobject => ?_
    rw [exec, objects_drain]
    split
    · rename_i hsame
      rw [← hsame, hobject]
      exact ⟨_, rfl, rfl, rfl⟩
    · exact ⟨subscriber, hobject, rfl, rfl⟩

theorem maxBufferSize_exec (h : Orderly hub) (call : HubCall) :
    (exec hub call).2.maxBufferSize = hub.maxBufferSize := by
  cases call with
  | subscribe => rfl
  | unsubscribe runId subscriberId => exact maxBufferSize_unsubscribe hub runId subscriberId
  | publish runId event => exact (published_publish h runId event).1.maxBufferSize
  | drain ref =>
    show (hub.drain ref).2.maxBufferSize = _
    unfold drain
    split <;> rfl

theorem orderly_final (maxBufferSize : Int) (calls : List HubCall) :
    Orderly (final exec (init maxBufferSize) calls) ∧
      (final exec (init maxBufferSize) calls).maxBufferSize = maxBufferSize := by
  refine invariant_final exec
    (I := fun hub => Orderly hub ∧ hub.maxBufferSize = maxBufferSize) ?_ calls _
    ⟨orderly_init maxBufferSize, rfl⟩ (admitted_true exec calls _)
  rintro hub call _ ⟨h, hsize⟩
  exact ⟨orderly_exec h call, (maxBufferSize_exec h call).trans hsize⟩

/-! ## Receivers -/

/-- The subscribers that have the event after a call on top of what they had before. -/
def receivers (event : AgentEvent) (before after : StreamFanOutHub) : Set Nat :=
  { ref | ∃ subscriber, before.objects[ref]? = some subscriber ∧
    after.objects[ref]? = some (subscriber.received event) }

theorem ne_received {other : StreamSubscriber} (h : other.buffer = subscriber.buffer) :
    other ≠ subscriber.received event := by
  intro hsame
  rw [hsame] at h
  simp [received] at h

theorem Published.mem_receivers {refs : List Nat} (h : Published hub hub' refs event) (ref : Nat) :
    ref ∈ receivers event hub hub' ↔ ref ∈ refs ∧ hub.HasRoom ref := by
  constructor
  · rintro ⟨subscriber, hobject, hreceived⟩
    by_cases hmem : ref ∈ refs
    · refine ⟨hmem, subscriber, hobject, fun hfull => ?_⟩
      rw [h.hit ref hmem subscriber hobject, StreamSubscriber.hit, if_pos hfull] at hreceived
      exact absurd (Option.some.inj hreceived) (ne_received rfl)
    · rw [h.others ref hmem, hobject] at hreceived
      exact absurd (Option.some.inj hreceived) (ne_received rfl)
  · rintro ⟨hmem, subscriber, hobject, hroom⟩
    refine ⟨subscriber, hobject, ?_⟩
    rw [h.hit ref hmem subscriber hobject, StreamSubscriber.hit, if_neg hroom]

theorem publish_count (h : Orderly hub) (runId : Int) (event : AgentEvent) :
    (hub.publish runId event).1 = (receivers event hub (hub.publish runId event).2).ncard := by
  obtain ⟨hpublished, hcount⟩ := published_publish h runId event
  have hset : receivers event hub (hub.publish runId event).2 =
      (((hub.subscribersOf runId).filter fun ref => hub.HasRoom ref).toFinset : Set Nat) := by
    ext ref
    rw [hpublished.mem_receivers]
    simp
  rw [hset, Set.ncard_coe_finset,
    List.toFinset_card_of_nodup ((nodup_subscribersOf h runId).filter _), hcount,
    List.countP_eq_length_filter]

end StreamFanOutHub

end DimooRun.Streaming
