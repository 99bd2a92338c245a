/-
  Streaming/Delivery.lean --- what a subscriber of the hub receives.

  The hub is compared with one subscriber on its own (`Solo`), which sees only the
  calls that concern it: events published for its run, its own drains, and the end
  of its registration. The hub follows the lone subscriber call by call, so nothing
  that happens to other subscribers can make a difference to it; and for the lone
  subscriber, what it drained and what it still holds is what was published for its
  run while it was registered.
-/
import DimooRun.Streaming.Fanout

set_option autoImplicit false

namespace DimooRun.Streaming

open Foundation

namespace StreamFanOutHub

open StreamSubscriber

/-! ## A subscriber on its own -/

/-- A subscriber by itself, with all it drained so far. -/
structure Solo where
  subscriber : StreamSubscriber
  registered : Bool
  drained : List AgentEvent

/-- What a subscriber is known by. -/
structure Subscription where
  runId : Int
  subscriberId : String
  ref : Nat

section

variable (runId : Int) (subscriberId : String) (ref : Nat) (sub : Subscription)

/-- The calls that concern a subscriber. -/
def Concerns : HubCall → Prop
  | .subscribe runId' subscriberId' => runId' = runId ∧ subscriberId' = subscriberId
  | .unsubscribe runId' subscriberId' => runId' = runId ∧ subscriberId' = subscriberId
  | .publish runId' _ => runId' = runId
  | .drain ref' => ref' = ref

instance : DecidablePred (Concerns runId subscriberId ref)
  | .subscribe _ _ => inferInstanceAs (Decidable (_ ∧ _))
  | .unsubscribe _ _ => inferInstanceAs (Decidable (_ ∧ _))
  | .publish _ _ => inferInstanceAs (Decidable (_ = _))
  | .drain _ => inferInstanceAs (Decidable (_ = _))

section

variable (solo : Solo) (calls : List HubCall)

/-- What a call that concerns it does to a subscriber. -/
def Solo.act : HubCall → Solo
  | .subscribe _ _ => { solo with registered := false }
  | .unsubscribe _ _ => { solo with registered := false }
  | .publish _ event =>
      if solo.registered then
        { solo with
          subscriber := solo.subscriber.hit event
          registered := !decide solo.subscriber.Full }
      else solo
  | .drain _ =>
      { solo with
        subscriber := { solo.subscriber with buffer := [] }
        drained := solo.drained ++ solo.subscriber.buffer }

/-- What any call does to a subscriber. -/
def Solo.step (call : HubCall) : Solo :=
  if Concerns sub.runId sub.subscriberId sub.ref call then solo.act call else solo

/-- A subscription is cancelled or replaced. -/
theorem Solo.step_ended (runId' : Int) (subscriberId' : String) :
    let ended : Solo :=
      { solo with
        registered := solo.registered &&
          !decide (runId' = sub.runId ∧ subscriberId' = sub.subscriberId) }
    solo.step sub (.subscribe runId' subscriberId') = ended ∧
      solo.step sub (.unsubscribe runId' subscriberId') = ended := by
  by_cases hsame : runId' = sub.runId ∧ subscriberId' = sub.subscriberId
  · simp [Solo.step, Concerns, Solo.act, hsame]
  · simp [Solo.step, Concerns, hsame]

/-- A subscriber after a list of calls. -/
def Solo.run : Solo :=
  calls.foldl (Solo.step sub) solo

/-- Only the calls that concern a subscriber make a difference to it. -/
theorem Solo.run_filter : solo.run sub calls =
      solo.run sub (calls.filter fun call => Concerns sub.runId sub.subscriberId sub.ref call) := by
  induction calls generalizing solo with
  | nil => rfl
  | cons call calls ih =>
    unfold Solo.run at ih ⊢
    rw [List.foldl_cons, ih]
    by_cases hconcerns : Concerns sub.runId sub.subscriberId sub.ref call
    · rw [List.filter_cons_of_pos (by simpa using hconcerns), List.foldl_cons]
    · rw [List.filter_cons_of_neg (by simpa using hconcerns), Solo.step, if_neg hconcerns]

/-- The events published for the run. -/
def publishedFor : List AgentEvent :=
  calls.filterMap fun
    | .publish runId' event => if runId' = runId then some event else none
    | _ => none

end

variable (calls calls' : List HubCall)

theorem publishedFor_append : publishedFor runId (calls ++ calls') =
      publishedFor runId calls ++ publishedFor runId calls' := List.filterMap_append

/-- The calls that end a registration: the subscription is cancelled or replaced, or an
event finds the subscriber full. -/
def ends (full : Bool) : HubCall → Bool
  | .subscribe runId' subscriberId' => runId' = runId ∧ subscriberId' = subscriberId
  | .unsubscribe runId' subscriberId' => runId' = runId ∧ subscriberId' = subscriberId
  | .publish runId' _ => runId' = runId && full
  | .drain _ => false

/-- The calls made while a subscriber is registered. -/
def Solo.lifetime : Solo → List HubCall → List HubCall
  | _, [] => []
  | solo, call :: calls =>
      if ends sub.runId sub.subscriberId solo.subscriber.Full call then []
      else call :: Solo.lifetime (solo.step sub call) calls

/-- All a subscriber was given. -/
def Solo.total (solo : Solo) : List AgentEvent := solo.drained ++ solo.subscriber.buffer

/-- A subscriber that is no longer registered is given nothing. -/
theorem Solo.step_of_unregistered {solo : Solo} (h : solo.registered = false) (call : HubCall) :
    (solo.step sub call).registered = false ∧ (solo.step sub call).total = solo.total := by
  unfold Solo.step
  split
  · cases call with
    | subscribe | unsubscribe => exact ⟨rfl, rfl⟩
    | publish =>
      simp only [Solo.act, h, Bool.false_eq_true, if_false]
      exact ⟨trivial, trivial⟩
    | drain => exact ⟨h, by simp [Solo.act, Solo.total]⟩
  · exact ⟨h, rfl⟩

/-- The call that ends the registration gives nothing. -/
theorem Solo.step_of_ends {solo : Solo} {call : HubCall}
    (h : ends sub.runId sub.subscriberId solo.subscriber.Full call = true) :
    (solo.step sub call).registered = false ∧ (solo.step sub call).total = solo.total := by
  cases call with
  | subscribe runId' subscriberId' | unsubscribe runId' subscriberId' =>
    obtain ⟨rfl, rfl⟩ := of_decide_eq_true h
    simp [Solo.step, Concerns, Solo.act, Solo.total]
  | publish runId' event =>
    simp only [ends, Bool.and_eq_true, decide_eq_true_eq] at h
    obtain ⟨rfl, hfull⟩ := h
    cases hregistered : solo.registered with
    | true => simp [Solo.step, Concerns, Solo.act, Solo.total, hregistered, hit, hfull, overflowed]
    | false => exact Solo.step_of_unregistered _ hregistered _
  | drain => exact absurd h Bool.false_ne_true

/-- Any other call gives a registered subscriber what it publishes for the run. -/
theorem Solo.step_of_not_ends {solo : Solo} (hregistered : solo.registered = true)
    {call : HubCall} (h : ends sub.runId sub.subscriberId solo.subscriber.Full call = false) :
    (solo.step sub call).registered = true ∧
      (solo.step sub call).total = solo.total ++ publishedFor sub.runId [call] := by
  cases call with
  | subscribe runId' subscriberId' | unsubscribe runId' subscriberId' =>
    have hother : decide (runId' = sub.runId ∧ subscriberId' = sub.subscriberId) = false := h
    simp [Solo.step_ended, hother, hregistered, publishedFor, Solo.total]
  | publish runId' event =>
    by_cases hrun : runId' = sub.runId
    · have hroom : ¬ solo.subscriber.Full := by simpa [ends, hrun] using h
      simp [Solo.step, Concerns, Solo.act, Solo.total, hrun, hregistered, hit, hroom, received,
        publishedFor]
    · simp [Solo.step, Concerns, hrun, hregistered, publishedFor]
  | drain ref' =>
    by_cases href : ref' = sub.ref
    · simp [Solo.step, Concerns, Solo.act, Solo.total, href, hregistered, publishedFor]
    · simp [Solo.step, Concerns, href, hregistered, publishedFor]

theorem Solo.total_run_of_unregistered :
    ∀ {solo : Solo}, solo.registered = false → (solo.run sub calls).total = solo.total := by
  induction calls with
  | nil => intro solo _; rfl
  | cons call calls ih =>
    intro solo h
    obtain ⟨hstill, hsame⟩ := Solo.step_of_unregistered sub h call
    exact (ih hstill).trans hsame

/-- A registered subscriber is given what is published for its run until its registration
ends. -/
theorem Solo.total_run : ∀ {solo : Solo}, solo.registered = true → (solo.run sub calls).total =
        solo.total ++ publishedFor sub.runId (solo.lifetime sub calls) := by
  induction calls with
  | nil =>
    intro solo _
    exact (List.append_nil _).symm
  | cons call calls ih =>
    intro solo hregistered
    unfold Solo.lifetime
    split
    · rename_i hends
      obtain ⟨hover, hsame⟩ := Solo.step_of_ends sub hends
      rw [show publishedFor sub.runId [] = [] from rfl, List.append_nil, ← hsame]
      exact Solo.total_run_of_unregistered sub calls hover
    · rename_i hends
      obtain ⟨hstill, hgiven⟩ := Solo.step_of_not_ends sub hregistered
        (Bool.eq_false_of_not_eq_true hends)
      have hrest := ih hstill
      rw [hgiven, List.append_assoc, ← publishedFor_append] at hrest
      exact hrest

/-- The buffer stays within its bound. -/
theorem Solo.bounded_run : ∀ {solo : Solo}, solo.subscriber.Bounded →
      (solo.run sub calls).subscriber.Bounded ∧ (solo.run sub calls).subscriber.maxBufferSize =
          solo.subscriber.maxBufferSize := by
  induction calls with
  | nil => intro solo h; exact ⟨h, rfl⟩
  | cons call calls ih =>
    intro solo h
    have hstep : (solo.step sub call).subscriber.Bounded ∧
        (solo.step sub call).subscriber.maxBufferSize =
          solo.subscriber.maxBufferSize := by
      unfold Solo.step
      split
      · cases call with
        | subscribe | unsubscribe => exact ⟨h, rfl⟩
        | publish runId' event =>
          simp only [Solo.act]
          split
          · exact ⟨h.hit event, maxBufferSize_hit _ _⟩
          · exact ⟨h, rfl⟩
        | drain => exact ⟨Or.inl rfl, rfl⟩
      · exact ⟨h, rfl⟩
    obtain ⟨hbounded, hsize⟩ := ih hstep.1
    exact ⟨hbounded, hsize.trans hstep.2⟩

end

/-! ## The hub follows every subscriber -/

/-- The hub has a subscriber as it would be on its own. -/
structure Follows (sub : Subscription) (hub : StreamFanOutHub) (solo : Solo) : Prop where
  object : hub.objects[sub.ref]? = some solo.subscriber
  registered : ∀ runId' subscriberId', hub.Registered runId' subscriberId' sub.ref ↔
    runId' = sub.runId ∧ subscriberId' = sub.subscriberId ∧ solo.registered = true

section

variable {sub : Subscription} {hub : StreamFanOutHub} {solo : Solo}

theorem Follows.lt (h : Follows sub hub solo) : sub.ref < hub.objects.length :=
  (List.getElem?_eq_some_iff.mp h.object).1

theorem Follows.mem_subscribersOf (h : Follows sub hub solo) {runId' : Int} :
    sub.ref ∈ hub.subscribersOf runId' ↔ runId' = sub.runId ∧ solo.registered = true := by
  simp [StreamFanOutHub.mem_subscribersOf, h.registered]

/-- The hub and the lone subscriber make every call alike. -/
theorem Follows.exec (hfollows : Follows sub hub solo) (h : Orderly hub) (call : HubCall) :
    Follows sub (exec hub call).2 (solo.step sub call) := by
  cases call with
  | subscribe runId₁ subscriberId₁ =>
    have hlt := hfollows.lt
    rw [(solo.step_ended sub runId₁ subscriberId₁).1]
    refine ⟨(objects_subscribe hub _ _ hlt).trans hfollows.object, fun runId' subscriberId' => ?_⟩
    refine registered_subscribe.trans ?_
    split
    · -- the new subscription is not under the old reference
      rename_i hkey
      obtain ⟨rfl, rfl⟩ := hkey
      refine iff_of_false hlt.ne ?_
      rintro ⟨rfl, rfl, hregistered⟩
      simp at hregistered
    · rw [hfollows.registered]
      simp only [Bool.and_eq_true, Bool.not_eq_true', decide_eq_false_iff_not]
      grind
  | unsubscribe runId₁ subscriberId₁ =>
    have hobject : (hub.unsubscribe runId₁ subscriberId₁).objects[sub.ref]? =
        some solo.subscriber := by
      rw [objects_unsubscribe]
      exact hfollows.object
    rw [(solo.step_ended sub runId₁ subscriberId₁).2]
    refine ⟨hobject, fun runId' subscriberId' => registered_unsubscribe.trans ?_⟩
    rw [hfollows.registered]
    simp only [Bool.and_eq_true, Bool.not_eq_true', decide_eq_false_iff_not]
    grind
  | publish runId₁ event =>
    obtain ⟨hpublished, _⟩ := published_publish h runId₁ event
    by_cases hmem : sub.ref ∈ hub.subscribersOf runId₁
    · obtain ⟨rfl, hregistered⟩ := hfollows.mem_subscribersOf.mp hmem
      have hconcerns : Concerns sub.runId sub.subscriberId sub.ref (.publish sub.runId event) := rfl
      simp only [Solo.step, if_pos hconcerns, Solo.act, hregistered, if_true]
      refine ⟨hpublished.hit _ hmem _ hfollows.object, fun runId' subscriberId' => ?_⟩
      refine (hpublished.registered _ _ _).trans ?_
      rw [hfollows.registered]
      simp [hmem, hfollows.object, hregistered, and_assoc]
    · have hsame : solo.step sub (.publish runId₁ event) = solo := by
        rw [hfollows.mem_subscribersOf, not_and, Bool.not_eq_true] at hmem
        unfold Solo.step
        split
        · rename_i hrun
          simp [Solo.act, hmem hrun]
        · rfl
      rw [hsame]
      refine ⟨(hpublished.others _ hmem).trans hfollows.object, fun runId' subscriberId' => ?_⟩
      refine (hpublished.registered _ _ _).trans ?_
      rw [hfollows.registered]
      simp [hmem]
  | drain ref₁ =>
    have hregistered : ∀ runId' subscriberId',
        (hub.drain ref₁).2.Registered runId' subscriberId' sub.ref ↔
          runId' = sub.runId ∧ subscriberId' = sub.subscriberId ∧ solo.registered = true :=
      fun _ _ => registered_drain.trans (hfollows.registered _ _)
    by_cases hsame : Concerns sub.runId sub.subscriberId sub.ref (.drain ref₁)
    · rw [Solo.step, if_pos hsame]
      obtain rfl : ref₁ = sub.ref := hsame
      refine ⟨(objects_drain hub _ _).trans ?_, hregistered⟩
      rw [if_pos rfl, hfollows.object]
      rfl
    · rw [Solo.step, if_neg hsame]
      refine ⟨(objects_drain hub ref₁ _).trans ?_, hregistered⟩
      rw [if_neg fun h => hsame h.symm]
      exact hfollows.object

/-- What a call handed out of a subscriber's buffer. -/
def drainedBy (ref : Nat) (e : Entry StreamFanOutHub HubCall HubReply) : List AgentEvent :=
  match e.call, e.reply with
  | .drain ref', .events events => if ref' = ref then events else []
  | _, _ => []

theorem Follows.drained (hfollows : Follows sub hub solo) (call : HubCall) :
    (solo.step sub call).drained =
      solo.drained ++ drainedBy sub.ref (entry StreamFanOutHub.exec hub call) := by
  cases call with
  | subscribe | unsubscribe => unfold Solo.step; split <;> simp [Solo.act, drainedBy, entry]
  | publish =>
    simp only [drainedBy, entry, List.append_nil]
    unfold Solo.step
    split
    · simp only [Solo.act]
      split <;> rfl
    · rfl
  | drain ref₁ =>
    by_cases hsame : ref₁ = sub.ref
    · subst hsame
      simp [Solo.step, Concerns, Solo.act, drainedBy, entry, StreamFanOutHub.exec, drain,
        hfollows.object]
    · simp [Solo.step, Concerns, drainedBy, entry, StreamFanOutHub.exec, hsame]

/-- What the calls of a run handed out of a subscriber's buffer. -/
def drainedFrom (ref : Nat) (tr : List (Entry StreamFanOutHub HubCall HubReply)) :
    List AgentEvent := tr.flatMap (drainedBy ref)

/-- The hub and the lone subscriber go through every run alike. -/
theorem Follows.run (calls : List HubCall) :
    ∀ {hub : StreamFanOutHub} {solo : Solo}, Orderly hub → Follows sub hub solo →
      Follows sub (final StreamFanOutHub.exec hub calls) (solo.run sub calls) ∧
        (solo.run sub calls).drained =
          solo.drained ++ drainedFrom sub.ref (trace StreamFanOutHub.exec hub calls) := by
  induction calls with
  | nil =>
    intro hub solo _ hfollows
    exact ⟨hfollows, (List.append_nil _).symm⟩
  | cons call calls ih =>
    intro hub solo h hfollows
    obtain ⟨hrest, hdrained⟩ := ih (orderly_exec h call) (hfollows.exec h call)
    refine ⟨hrest, hdrained.trans ?_⟩
    rw [hfollows.drained call, List.append_assoc]
    rfl

/-- The subscriber has no room for an event. -/
def fullAt (hub : StreamFanOutHub) (ref : Nat) : Bool :=
  (hub.objects[ref]?).any fun subscriber => subscriber.Full

/-- The calls made from a subscription up to its end: those before the first call that
cancels it, replaces it, or finds the subscriber full. -/
def lifetime (runId : Int) (subscriberId : String) (ref : Nat) :
    StreamFanOutHub → List HubCall → List HubCall
  | _, [] => []
  | hub, call :: calls =>
      if ends runId subscriberId (hub.fullAt ref) call then []
      else call :: lifetime runId subscriberId ref (exec hub call).2 calls

theorem Follows.lifetime (calls : List HubCall) :
    ∀ {hub : StreamFanOutHub} {solo : Solo}, Orderly hub → Follows sub hub solo →
      hub.lifetime sub.runId sub.subscriberId sub.ref calls = solo.lifetime sub calls := by
  induction calls with
  | nil => intro hub solo _ _; rfl
  | cons call calls ih =>
    intro hub solo h hfollows
    have hfull : hub.fullAt sub.ref = decide solo.subscriber.Full := by
      simp [fullAt, hfollows.object]
    unfold StreamFanOutHub.lifetime Solo.lifetime
    rw [hfull, ih (orderly_exec h call) (hfollows.exec h call)]

end

/-- A subscriber just created. -/
def Solo.start (maxBufferSize : Int) (subscriberId : String) : Solo :=
  { subscriber := { subscriberId := subscriberId, maxBufferSize := maxBufferSize }
    registered := true
    drained := [] }

theorem follows_subscribe {hub : StreamFanOutHub} (h : Orderly hub) (runId : Int)
    (subscriberId : String) :
    Follows ⟨runId, subscriberId, hub.objects.length⟩ (hub.subscribe runId subscriberId).2
      (Solo.start hub.maxBufferSize subscriberId) := by
  refine ⟨object_subscribe hub runId subscriberId, fun runId' subscriberId' => ?_⟩
  rw [registered_subscribe]
  split
  · rename_i hkey
    simp [hkey, Solo.start]
  · rename_i hkey
    refine iff_of_false (not_registered_of_length_le h le_rfl) ?_
    rintro ⟨hrun, hid, _⟩
    exact hkey ⟨hrun, hid⟩

/-! ## Fan-out delivery -/

/-- Whatever was called before a subscription and whatever is called after it: what its
subscriber drained and what it still holds are the events published for its run while
the subscription lasts; its buffer stays within the maximum; what it drained and what it
holds do not depend on any call that does not concern it; and `publish` returns the
number of subscribers that received the event. -/
theorem fan_out_delivery (maxBufferSize : Int) (runId : Int) (subscriberId : String)
    (pre post : List HubCall) :
    let hub := final exec (init maxBufferSize) pre
    let ref := hub.objects.length
    let joined := (exec hub (.subscribe runId subscriberId)).2
    (exec hub (.subscribe runId subscriberId)).1 = .subscriber ref ∧
    (∃ subscriber, (final exec joined post).objects[ref]? = some subscriber ∧
      drainedFrom ref (trace exec joined post) ++ subscriber.buffer =
        publishedFor runId (lifetime runId subscriberId ref joined post) ∧
      (subscriber.buffer.length : Int) ≤ max 0 maxBufferSize ∧
      ∀ pre' post', (final exec (init maxBufferSize) pre').objects.length = ref →
        (post'.filter fun call => Concerns runId subscriberId ref call) =
          (post.filter fun call => Concerns runId subscriberId ref call) →
        let joined' := (exec (final exec (init maxBufferSize) pre')
          (.subscribe runId subscriberId)).2
        (final exec joined' post').objects[ref]? = some subscriber ∧
          drainedFrom ref (trace exec joined' post') = drainedFrom ref (trace exec joined post)) ∧
    ∀ runId' event, (exec (final exec joined post) (.publish runId' event)).1 =
      .delivered (receivers event (final exec joined post)
        (exec (final exec joined post) (.publish runId' event)).2).ncard := by
  intro hub ref joined
  let sub : Subscription := ⟨runId, subscriberId, ref⟩
  obtain ⟨h, hsize⟩ := orderly_final maxBufferSize pre
  have hjoined : Orderly joined := orderly_exec h (.subscribe runId subscriberId)
  -- every history that ends in the subscription leaves the same lone subscriber
  have hrun : ∀ pre' post', (final exec (init maxBufferSize) pre').objects.length = ref →
      let joined' := (exec (final exec (init maxBufferSize) pre') (.subscribe runId subscriberId)).2
      Follows sub (final exec joined' post')
          ((Solo.start maxBufferSize subscriberId).run sub post') ∧
        ((Solo.start maxBufferSize subscriberId).run sub post').drained =
          drainedFrom ref (trace exec joined' post') := by
    intro pre' post' hlength joined'
    obtain ⟨h', hsize'⟩ := orderly_final maxBufferSize pre'
    have hfollows := follows_subscribe h' runId subscriberId
    rw [hsize', hlength] at hfollows
    exact Follows.run post' (orderly_exec h' (.subscribe runId subscriberId)) hfollows
  obtain ⟨hfollows, hdrained⟩ := hrun pre post rfl
  have hstart : Follows sub joined (Solo.start maxBufferSize subscriberId) := by
    have hfollows := follows_subscribe h runId subscriberId
    rwa [hsize] at hfollows
  refine ⟨rfl, ⟨_, hfollows.object, ?_, ?_, ?_⟩, ?_⟩
  · rw [← hdrained, hstart.lifetime post hjoined]
    exact Solo.total_run sub post rfl
  · have hnew : (Solo.start maxBufferSize subscriberId).subscriber.Bounded := Or.inl rfl
    obtain ⟨hbounded, hmax⟩ := Solo.bounded_run sub post hnew
    rcases hbounded with hempty | hle
    · rw [hempty]
      exact le_max_left _ _
    · rw [hmax] at hle
      exact hle.trans (le_max_right _ _)
  · intro pre' post' hlength hsame joined'
    obtain ⟨hfollows', hdrained'⟩ := hrun pre' post' hlength
    have hrun' : (Solo.start maxBufferSize subscriberId).run sub post' =
        (Solo.start maxBufferSize subscriberId).run sub post := by
      rw [Solo.run_filter, hsame, ← Solo.run_filter]
    rw [← hrun']
    exact ⟨hfollows'.object, by rw [← hdrained', hrun', hdrained]⟩
  · intro runId' event
    have horderly : Orderly (final exec joined post) := by
      have hlast := (orderly_final maxBufferSize (pre ++ .subscribe runId subscriberId :: post)).1
      rwa [final_append] at hlast
    exact congrArg HubReply.delivered (publish_count horderly runId' event)

end StreamFanOutHub

end DimooRun.Streaming
