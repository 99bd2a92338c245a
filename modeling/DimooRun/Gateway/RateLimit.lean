/-
  Gateway/RateLimit.lean --- how many requests a surface accepts.

  The limit is one per minute by its name. What is compared with it is the number of all
  accepted requests that there is a log of, so a surface that has reached its limit stays
  closed however long it waits.
-/
import DimooRun.Gateway.Ingress

set_option autoImplicit false

namespace DimooRun.Gateway

open Foundation Policy
open Scheduler (Time seconds)

/-- A live request, with the policies and the time it comes at. -/
structure LiveCall where
  policies : Table PolicyRow
  now : Time
  request : LiveRequest

variable (py : Builtins)

def live (gateway : GatewayState) (call : LiveCall) : IngressReply × GatewayState :=
  handleLiveIngress py call.policies call.now call.request gateway

/-- The requests of a run that were accepted on the surface since a time. -/
def acceptedSince (run : List (Entry GatewayState LiveCall IngressReply)) (surfaceId : Int)
    (since : Option Time) : Nat :=
  run.countP fun e => e.reply.acceptedOn = some surfaceId ∧ ∀ start ∈ since, start ≤ e.call.now

/-- Nothing but the limit keeps the request from being accepted. -/
structure Acceptable (surface : Surface) (call : LiveCall) : Prop where
  ordinary : upperText call.request.method ≠ "OPTIONS"
  method : liveIngressMethods.contains call.request.verb = true
  origin : (corsDecision surface call.request.headers).allowed ≠ some false
  active : surface.status = .active
  allowed : (ingressPolicy py call.policies surface).decision.allows = true

/-- The process has a log for every row of the surface, and `n` of its logs are of accepted
requests. -/
structure Tally (gateway : GatewayState) (surfaceId : Int) (n : Nat) : Prop where
  accepted : (processLogs gateway.process surfaceId).countP (·.verdict.httpStatus == 200) = n
  rows : ∀ key log, gateway.db.requestLogs.get? (surfaceId, key) = some log →
    ∃ own ∈ processLogs gateway.process surfaceId, own.id = log.id

section

variable {gateway : GatewayState} {surfaceId : Int} {n : Nat}

theorem Tally.recentAllowed_eq
    (h : Tally gateway surfaceId n) : recentAllowed gateway surfaceId = n := by
  have hmerged : ((persistedLogs gateway.db surfaceId).filter fun log =>
      !(processLogs gateway.process surfaceId).any fun own => own.id == log.id) = [] := by
    rw [List.filter_eq_nil_iff]
    intro log hlog
    obtain ⟨row, hrow, rfl⟩ := List.mem_map.mp hlog
    obtain ⟨hmem, hid⟩ := List.mem_filter.mp hrow
    obtain ⟨own, hown, heq⟩ := h.rows row.1.2 row.2
      ((Dict.get?_eq_some_iff _).mpr (by rwa [← beq_iff_eq.mp hid]))
    simpa using ⟨own, hown, heq⟩
  unfold recentAllowed surfaceRequestLogs mergeByNumber
  rw [hmerged, List.append_nil, ← List.countP_eq_length_filter, List.countP_reverse,
    (List.perm_insertionSort _ _).countP_eq, h.accepted]

/-- A log is counted if it is one of the surface and of an accepted request. -/
theorem Tally.record (h : Tally gateway surfaceId n) (log : RequestLog) :
    Tally (recordRequestLog gateway log) surfaceId
      (n + if (if log.verdict.httpStatus = 200 then some log.surfaceId else none) = some surfaceId
        then 1 else 0) := by
  have hlogs : processLogs (recordRequestLog gateway log).process surfaceId =
      (if surfaceId = log.surfaceId then [log] else []) ++
        processLogs gateway.process surfaceId := by
    unfold processLogs recordRequestLog
    rw [Dict.get?_set]
    split
    · rename_i hid
      rw [hid]
      rfl
    · rfl
  refine ⟨?_, fun key row hrow => ?_⟩
  · rw [hlogs, List.countP_append, h.accepted, Nat.add_comm]
    by_cases hid : surfaceId = log.surfaceId
    · by_cases hstatus : log.verdict.httpStatus = 200 <;> simp [hid]
    · simp [hid, Ne.symm hid]
  · rw [hlogs]
    rcases Dict.get?_set_cases hrow with ⟨hkey, rfl⟩ | ⟨_, hold⟩
    · cases hkey
      exact ⟨log, by simp, rfl⟩
    · obtain ⟨own, hown, heq⟩ := h.rows key row hold
      exact ⟨own, List.mem_append_right _ hown, heq⟩

/-- A request counts if it is accepted. -/
theorem Tally.step (h : Tally gateway surfaceId n) (call : LiveCall) :
    Tally (live py gateway call).2 surfaceId
      (n + if (live py gateway call).1.acceptedOn = some surfaceId then 1 else 0) := by
  unfold live handleLiveIngress
  cases hroute : surfaceForPublishedRoute gateway call.request.routePath with
  | none => exact h
  | some found =>
    obtain ⟨surface, gateway'⟩ := found
    have h' : Tally gateway' surfaceId n := by
      obtain ⟨_, ⟨_, rfl⟩ | ⟨_, rfl⟩⟩ := surfaceForPublishedRoute_cases hroute
      · exact h
      · exact ⟨h.accepted, h.rows⟩
    by_cases hoptions : upperText call.request.method = "OPTIONS"
    · obtain ⟨_, _, _, hpreflight⟩ := preflight_eq surface call.request.headers
      simp only [if_pos hoptions, hpreflight]
      exact h'
    · have hstatus := testRoute_httpStatus_eq_iff py call.policies surface
      simp only [if_neg hoptions, acceptedOn_testRoute]
      cases hlogged : logged call.request with
      | false =>
        have hmethod : liveIngressMethods.contains call.request.verb = false := hlogged
        simp only [hstatus, hmethod, Bool.false_eq_true, false_and]
        exact h'
      | true =>
        exact h'.record (liveLog call.now surface call.request (testRoute py call.policies surface
          (recentAllowed gateway' surface.id) call.request)
          (gateway'.process.requestLogSequence + 1))

end

/-- What is compared with the limit is the number of all accepted requests of a run. -/
theorem Tally.run {surfaceId : Int} (calls : List LiveCall) :
    ∀ {gateway : GatewayState} {n : Nat}, Tally gateway surfaceId n →
      Tally (final (live py) gateway calls) surfaceId
        (n + acceptedSince (trace (live py) gateway calls) surfaceId none) := by
  induction calls with
  | nil => exact id
  | cons call calls ih =>
    intro gateway n h
    have hrest := ih (h.step py call)
    rw [Nat.add_assoc] at hrest
    refine Eq.mp (congrArg (Tally _ _) ?_) hrest
    simp only [acceptedSince, trace, List.countP_cons, Nat.add_comm]
    simp [entry]

/-- A request that is otherwise acceptable is refused exactly if the requests accepted
within the last minute reach the limit, unless they do not reach it and with the earlier ones
they do. -/
theorem rate_limit_by_minute_iff (py : Builtins) (gateway routed : GatewayState)
    (calls : List LiveCall) (call : LiveCall) (surface : Surface)
    (hlogs : processLogs gateway.process surface.id = [])
    (hrows : ∀ key, gateway.db.requestLogs.get? (surface.id, key) = none)
    (hroute : surfaceForPublishedRoute (final (live py) gateway calls) call.request.routePath =
      some (surface, routed))
    (hacceptable : Acceptable py surface call) :
    let run := trace (live py) gateway calls
    let recent := acceptedSince run surface.id (some (call.now - seconds 60))
    ((∃ verdict id, (live py (final (live py) gateway calls) call).1 = .answered verdict id ∧
        verdict.httpStatus = 429) ↔ rateLimitOf surface ≤ recent) ↔
      ¬ (recent < rateLimitOf surface ∧
        rateLimitOf surface ≤ acceptedSince run surface.id none) := by
  have htally : Tally routed surface.id
      (acceptedSince (trace (live py) gateway calls) surface.id none) := by
    have hstart : Tally gateway surface.id 0 :=
      ⟨by rw [hlogs]; rfl, fun key log hrow => by rw [hrows key] at hrow; cases hrow⟩
    have hend := hstart.run py calls
    rw [Nat.zero_add] at hend
    obtain ⟨_, ⟨_, rfl⟩ | ⟨_, rfl⟩⟩ := surfaceForPublishedRoute_cases hroute
    · exact hend
    · exact ⟨hend.accepted, hend.rows⟩
  have hstatus : (∃ verdict id, (live py (final (live py) gateway calls) call).1 =
      .answered verdict id ∧ verdict.httpStatus = 429) ↔
        rateLimitOf surface ≤ acceptedSince (trace (live py) gateway calls) surface.id none := by
    rw [← htally.recentAllowed_eq]
    simp only [live, handleLiveIngress, hroute, if_neg hacceptable.ordinary,
      IngressReply.answered.injEq]
    unfold testRoute
    simp only [hacceptable.method, hacceptable.active, if_neg hacceptable.origin,
      hacceptable.allowed, Bool.not_true, Bool.false_eq_true, if_false, ne_eq, not_true_eq_false]
    split
    · rename_i hreached
      exact iff_of_true ⟨_, _, ⟨rfl, rfl⟩, rfl⟩ hreached
    · rename_i hbelow
      refine iff_of_false ?_ hbelow
      rintro ⟨_, _, ⟨rfl, _⟩, hstatus⟩
      cases hstatus
  have hle : acceptedSince (trace (live py) gateway calls) surface.id
      (some (call.now - seconds 60)) ≤
        acceptedSince (trace (live py) gateway calls) surface.id none := by
    refine List.countP_mono_left fun e _ he => ?_
    simp only [decide_eq_true_eq] at he ⊢
    exact ⟨he.1, by simp⟩
  rw [hstatus]
  omega

/-- A request to the surface for one a minute. -/
def orderAt (now : Time) : LiveCall := ⟨⟨[]⟩, now, bareRequest "orders"⟩

/-- A request is accepted, and another is refused half a minute later. -/
theorem rate_limit_by_minute_second :
    acceptedSince (trace (live .simple) onePerMinuteGateway [orderAt 0]) 501
        (some (seconds 30 - seconds 60)) = 1 ∧
      ∃ verdict id, (live .simple (final (live .simple) onePerMinuteGateway [orderAt 0])
        (orderAt (seconds 30))).1 = .answered verdict id ∧ verdict.httpStatus = 429 :=
  ⟨by decide +kernel, ((rate_limit_by_minute_iff .simple onePerMinuteGateway _ [orderAt 0]
    (orderAt (seconds 30)) onePerMinute rfl (fun _ => rfl) rfl
    ⟨by decide, by decide, by decide, rfl, by decide⟩).mpr (by decide +kernel)).mpr
      (by decide +kernel)⟩

/-- A request is accepted, and another is refused ten minutes later. -/
theorem limit_outlasts_minute :
    acceptedSince (trace (live .simple) onePerMinuteGateway [orderAt 0]) 501
        (some (seconds 600 - seconds 60)) = 0 ∧
      ((live .simple (final (live .simple) onePerMinuteGateway [orderAt 0])
        (orderAt (seconds 600))).1 matches .answered { httpStatus := 429, .. } _) = true := by
  decide +kernel

end DimooRun.Gateway
