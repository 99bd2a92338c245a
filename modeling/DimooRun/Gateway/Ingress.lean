/-
  Gateway/Ingress.lean --- live requests to published surfaces.

  Sources: gateway/route_tester.py and api/ingress.py.

  A request is routed by its path, first among the surfaces that the process has and then
  among the bindings. Origin, status, rate limit and policies are checked in this order.
  No credential is read: the decision about it is a constant of the branch. A log gets
  the next number of the process, which starts again with every process.
-/
import DimooRun.Gateway.Rollouts

set_option autoImplicit false

namespace DimooRun.Gateway

open Foundation Policy
open Scheduler (Time)

/-! ## Requests -/

/-- A live request; the id is the client's or a fresh one. -/
structure LiveRequest where
  path : String
  method : String
  headers : List (String × PyValue) := []
  body : PyDict := []
  requestId : String := ""

/-- `path.strip("/")`. -/
def stripSlashes (path : String) : String :=
  String.ofList ((((path.toList.dropWhile (· == '/')).reverse).dropWhile (· == '/')).reverse)

section

variable (py : Builtins) (policies : Table PolicyRow) (surface : Surface) (recentAllowed : Nat)
  (request : LiveRequest)

/-- `"/" + path.strip("/")`. -/
def LiveRequest.routePath : String := "/" ++ stripSlashes request.path

/-- `str(payload.get("method") or "POST").upper()`. -/
def LiveRequest.verb : String :=
  upperText (if request.method = "" then "POST" else request.method)

/-- `_LIVE_INGRESS_METHODS`. -/
def liveIngressMethods : List String := ["GET", "POST", "PUT", "PATCH", "DELETE"]

/-- `_header_value`: the first text that is not empty. -/
def headerValue (headers : List (String × PyValue)) (name : String) : Option String :=
  headers.findSome? fun header =>
    if lowerText header.1 = name then header.2.str?.filter (· != "") else none

/-- `_cors_decision`. -/
def corsDecision (headers : List (String × PyValue)) : CorsDecision :=
  match headerValue headers "origin" with
  | none => { origin := none, allowed := none }
  | some origin =>
      { origin := some origin, allowed := some (surface.corsAllowedOrigins.contains origin) }

/-- `surface.get("route_id", 701)`; no surface has one. -/
def routeId : Nat := 701

/-- `_traffic_control`. -/
def trafficControl : TrafficControl where
  trafficSplit :=
    if surface.trafficSplit.isEmpty then [("stable", .int 100), ("candidate", .int 0)]
    else surface.trafficSplit
  shadowMode := surface.shadowMode && surface.shadowRouteId == some routeId
  shadowRouteId := surface.shadowRouteId

def matchedDeployment : MatchedDeployment where
  deploymentId := surface.deploymentId
  environment := surface.environment
  surfaceId := surface.id
  routeId := routeId

/-! ## Verdicts -/

/-- A denial by the gateway itself. -/
def denial (httpStatus : Nat) (reason policyId : String) : Verdict where
  httpStatus := httpStatus
  matchedDeployment := some (matchedDeployment surface)
  policyDecision := .denied policyId
  blockedReasons := [reason]
  trafficControl := some (trafficControl surface)

/-- The reason of a surface that is not active. -/
def inactiveReason : SurfaceStatus → String
  | .revoked => "surface_revoked"
  | .disabled => "surface_disabled"
  | .active => "surface_not_active"

/-- `_positive_int(surface.get("requests_per_minute")) or 120`. -/
def rateLimitOf : Nat :=
  match surface.requestsPerMinute with
  | some 0 => 120
  | some n => n
  | none => 120

/-- The decision of the policies about a request to a surface. -/
def ingressPolicy :
    PolicyDecision :=
  evaluateSurfacePolicy py policies surface.tenantId surface.projectId surface.environment
    "ingress.invoke" surface.id

/-- `test_route`: what is decided about a request to a surface of which `recentAllowed` requests
were accepted. -/
def testRoute : Verdict :=
  let cors := corsDecision surface request.headers
  if !liveIngressMethods.contains request.verb then
    { httpStatus := 403, blockedReasons := ["method_not_allowed"] }
  else if cors.allowed = some false then
    { denial surface 403 "cors_origin_not_allowed" "published-surface-cors" with cors := some cors }
  else if surface.status ≠ .active then
    denial surface 403 (inactiveReason surface.status) "published-surface-active-state"
  else if rateLimitOf surface ≤ recentAllowed then
    { denial surface 429 "rate_limited" "published-surface-rate-limit" with
      authDecision := .allow surface.authMode
      rateLimit := some { limit := rateLimitOf surface } }
  else
    let decision := ingressPolicy py policies surface
    if decision.decision.allows then
      { httpStatus := 200
        matchedDeployment := some (matchedDeployment surface)
        authDecision := .allow surface.authMode
        policyDecision := .engine decision
        cors := some cors
        runtimeTask := some
          { deploymentId := surface.deploymentId
            method := request.verb
            path := request.routePath }
        trafficControl := some (trafficControl surface) }
    else
      { httpStatus := 403
        matchedDeployment := some (matchedDeployment surface)
        authDecision := .allow surface.authMode
        policyDecision := .engine decision
        blockedReasons := [policyReason decision]
        trafficControl := some (trafficControl surface) }

/-- The surface lets requests in: it is active, below its limit, and the policies allow them. -/
structure Open : Prop where
  active : surface.status = .active
  below : recentAllowed < rateLimitOf surface
  allowed : (ingressPolicy py policies surface).decision.allows = true

end

theorem testRoute_of_open {py : Builtins} {policies : Table PolicyRow} {surface : Surface}
    {recentAllowed : Nat} {request : LiveRequest}
    (hmethod : liveIngressMethods.contains request.verb = true)
    (hcors : (corsDecision surface request.headers).allowed ≠ some false)
    (hopen : Open py policies surface recentAllowed) :
    (testRoute py policies surface recentAllowed request).httpStatus = 200 ∧
      (testRoute py policies surface recentAllowed request).matchedDeployment =
        some (matchedDeployment surface) := by
  unfold testRoute
  simp only [hmethod, Bool.not_true, Bool.false_eq_true, if_false, if_neg hcors, hopen.active,
    ne_eq, not_true_eq_false, Nat.not_le.mpr hopen.below, hopen.allowed, if_true, and_self]

section

variable (py : Builtins) (policies : Table PolicyRow)

/-- A request is accepted if its method is known and its origin allowed, and the surface is
open. -/
theorem testRoute_httpStatus_eq_iff
    (surface : Surface) (recentAllowed : Nat) (request : LiveRequest) :
    (testRoute py policies surface recentAllowed request).httpStatus = 200 ↔
      liveIngressMethods.contains request.verb = true ∧
        (corsDecision surface request.headers).allowed ≠ some false ∧
        Open py policies surface recentAllowed := by
  constructor
  · -- every branch but the last answers with another status
    intro h
    unfold testRoute at h
    dsimp only at h
    split at h
    · cases h
    · split at h
      · cases h
      · split at h
        · cases h
        · split at h
          · cases h
          · split at h
            · rename_i hmethod hcors hactive hbelow hallows
              exact ⟨by simpa using hmethod, hcors, of_not_not hactive, Nat.lt_of_not_le hbelow,
                hallows⟩
            · cases h
  · rintro ⟨hmethod, hcors, hopen⟩
    exact (testRoute_of_open hmethod hcors hopen).1

/-- A request with a method that is not allowed has no log. -/
def logged (request : LiveRequest) : Bool := liveIngressMethods.contains request.verb

/-! ## Logs -/

/-- The logs that the process has itself. -/
def processLogs (process : GatewayProcess) (surfaceId : Int) : List RequestLog :=
  (process.requestLogs.get? surfaceId).getD []

/-- `_persisted_request_logs`. -/
def persistedLogs (db : GatewayDb) (surfaceId : Int) : List RequestLog :=
  (db.requestLogs.entries.filter fun row => row.1.1 == surfaceId).map Prod.snd

variable (gateway : GatewayState)

/-- `_surface_request_logs`, the latest first. -/
def surfaceRequestLogs (surfaceId : Int) : List RequestLog :=
  (mergeByNumber RequestLog.id (processLogs gateway.process surfaceId)
    (persistedLogs gateway.db surfaceId)).reverse

/-- The number of requests that were accepted. -/
def recentAllowed (surfaceId : Int) : Nat :=
  ((surfaceRequestLogs gateway surfaceId).filter fun log => log.verdict.httpStatus == 200).length

/-- `_redact_headers`. -/
def redactHeaders (headers : List (String × PyValue)) : List (String × PyValue) :=
  let redacted := headers.foldl (fun d header =>
    PyDict.set d (lowerText header.1)
      (if lowerText header.1 = "authorization" then .str "[REDACTED]" else header.2)) []
  if (PyDict.get? redacted "authorization").isSome then redacted
  else PyDict.set redacted "authorization" (.str "[REDACTED]")

/-- `sorted(body.keys())`. -/
def bodyKeys (body : PyDict) : List String :=
  (body.map Prod.fst).insertionSort (· ≤ ·)

/-- The log of a live request, as `handle_live_ingress` leaves it. -/
def liveLog (now : Time) (surface : Surface) (request : LiveRequest) (verdict : Verdict)
    (id : Nat) : RequestLog where
  id := id
  surfaceId := surface.id
  path := request.routePath
  method := request.verb
  verdict := verdict
  headers := redactHeaders request.headers
  bodyKeys := bodyKeys request.body
  createdAt := now
  ingressSource := some "live_http"
  requestId := some request.requestId

/-- `_record_request_log` and `_persist_request_log`: a row with this number is overwritten. -/
def recordRequestLog (log : RequestLog) : GatewayState where
  process :=
    { gateway.process with
      requestLogs := gateway.process.requestLogs.set log.surfaceId
        (log :: processLogs gateway.process log.surfaceId)
      requestLogSequence := log.id }
  db :=
    { gateway.db with requestLogs := gateway.db.requestLogs.set (log.surfaceId, log.id) log }

/-! ## Ingress -/

/-- `_surface_for_published_route`: the surface, and the process that may have read it from the
database. -/
def surfaceForPublishedRoute (path : String) : Option (Surface × GatewayState) :=
  match gateway.process.surfaces.values.find? (Surface.serves path) with
  | some surface => some (surface, gateway)
  | none =>
      match gateway.db.bindings.values.find? (Surface.serves path) with
      | some surface => some (surface, putSurface gateway surface.id surface)
      | none => none

/-- A route is found among the copies, or else among the bindings, and copied. -/
theorem surfaceForPublishedRoute_cases {gateway gateway' : GatewayState} {path : String}
    {surface : Surface} (h : surfaceForPublishedRoute gateway path = some (surface, gateway')) :
    surface.serves path = true ∧
      ((∃ key, gateway.process.surfaces.get? key = some surface) ∧ gateway' = gateway ∨
        (∃ key, gateway.db.bindings.get? key = some surface) ∧
          gateway' = putSurface gateway surface.id surface) := by
  unfold surfaceForPublishedRoute at h
  split at h
  · rename_i hfind
    cases h
    exact ⟨List.find?_some hfind,
      .inl ⟨(Dict.mem_values_iff _).mp (List.mem_of_find?_eq_some hfind), rfl⟩⟩
  · split at h
    · rename_i hfind
      cases h
      exact ⟨List.find?_some hfind,
        .inr ⟨(Dict.mem_values_iff _).mp (List.mem_of_find?_eq_some hfind), rfl⟩⟩
    · cases h

/-- What live ingress answers. -/
inductive IngressReply where
  | notFound
  | preflight (httpStatus : Nat) (blockedReasons : List String) (cors : CorsDecision)
      (allowHeaders : Option String)
  | answered (verdict : Verdict) (requestLogId : Option Nat)

/-- `_handle_live_ingress_preflight`. -/
def preflight (surface : Surface) (headers : List (String × PyValue)) : IngressReply :=
  let cors := corsDecision surface headers
  if cors.allowed = some false then .preflight 403 ["cors_origin_not_allowed"] cors none
  else if liveIngressMethods.contains
      (upperText ((headerValue headers "access-control-request-method").getD "")) then
    .preflight 204 [] cors (headerValue headers "access-control-request-headers")
  else .preflight 405 ["method_not_allowed"] cors none

/-- The answer to a preflight tells what is decided about the origin. -/
theorem preflight_eq (surface : Surface) (headers : List (String × PyValue)) :
    ∃ status reasons allowHeaders, preflight surface headers =
      .preflight status reasons (corsDecision surface headers) allowHeaders := by
  unfold preflight
  dsimp only
  split
  · exact ⟨_, _, _, rfl⟩
  · split
    · exact ⟨_, _, _, rfl⟩
    · exact ⟨_, _, _, rfl⟩

/-- `handle_live_ingress`. -/
def handleLiveIngress (py : Builtins) (policies : Table PolicyRow) (now : Time)
    (request : LiveRequest) (gateway : GatewayState) : IngressReply × GatewayState :=
  match surfaceForPublishedRoute gateway request.routePath with
  | none => (.notFound, gateway)
  | some (surface, gateway) =>
      if upperText request.method = "OPTIONS" then (preflight surface request.headers, gateway)
      else
        let verdict := testRoute py policies surface (recentAllowed gateway surface.id) request
        let id := gateway.process.requestLogSequence + 1
        (.answered verdict (if logged request then some id else none),
          if logged request then
            recordRequestLog gateway (liveLog now surface request verdict id)
          else gateway)

/-- The surface that a request was accepted on. -/
def IngressReply.acceptedOn : IngressReply → Option Int
  | .answered verdict _ =>
      if verdict.httpStatus = 200 then verdict.matchedDeployment.map MatchedDeployment.surfaceId
      else none
  | _ => none

theorem acceptedOn_testRoute (surface : Surface)
    (n : Nat) (request : LiveRequest) (id : Option Nat) :
    (IngressReply.answered (testRoute py policies surface n request) id).acceptedOn =
      if (testRoute py policies surface n request).httpStatus = 200 then some surface.id
      else none := by
  dsimp only [IngressReply.acceptedOn]
  split
  · rename_i hstatus
    obtain ⟨hmethod, hcors, hopen⟩ := (testRoute_httpStatus_eq_iff ..).mp hstatus
    rw [(testRoute_of_open hmethod hcors hopen).2]
    rfl
  · rfl

/-- A request is accepted on the surface that its path is routed to, if this one is open. -/
theorem acceptedOn_handleLiveIngress_eq_some_iff
    (now : Time) (request : LiveRequest) (gateway : GatewayState) (surfaceId : Int) :
    (handleLiveIngress py policies now request gateway).1.acceptedOn = some surfaceId ↔
      ∃ surface gateway', surfaceForPublishedRoute gateway request.routePath =
          some (surface, gateway') ∧ surface.id = surfaceId ∧
        upperText request.method ≠ "OPTIONS" ∧
        liveIngressMethods.contains request.verb = true ∧
        (corsDecision surface request.headers).allowed ≠ some false ∧
        Open py policies surface (recentAllowed gateway' surface.id) := by
  unfold handleLiveIngress
  cases hroute : surfaceForPublishedRoute gateway request.routePath with
  | none => simp [IngressReply.acceptedOn]
  | some found =>
    obtain ⟨surface, gateway'⟩ := found
    by_cases hoptions : upperText request.method = "OPTIONS"
    · obtain ⟨_, _, _, hpreflight⟩ := preflight_eq surface request.headers
      simp [hoptions, hpreflight, IngressReply.acceptedOn]
    · simp only [if_neg hoptions, acceptedOn_testRoute, Option.ite_none_right_eq_some,
        Option.some.injEq, testRoute_httpStatus_eq_iff]
      constructor
      · rintro ⟨hopen, hid⟩
        exact ⟨surface, gateway', rfl, hid, hoptions, hopen⟩
      · rintro ⟨_, _, ⟨rfl, rfl⟩, hid, _, hopen⟩
        exact ⟨hopen, hid⟩

end

/-! ## Calls -/

/-- A call, with the policies and the time it comes at, and the commit that the database refuses
whatever the route paths are. -/
inductive GatewayCall where
  | publish (policies : Table PolicyRow) (now : Time) (requestId : Option String)
      (audit : AuditScope) (payload : PyDict) (refused : Option Commit := none)
  | rollout (now : Time) (requestId : Option String) (audit : AuditScope) (surfaceId : Int)
      (payload : PyDict) (refused : Option Commit := none)
  | ingress (policies : Table PolicyRow) (now : Time) (request : LiveRequest)
  /-- the module variables are lost -/
  | restart

inductive GatewayReply where
  | rollout (reply : RolloutReply)
  | ingress (reply : IngressReply)
  | restarted

/-- One call. -/
def exec (py : Builtins) (gateway : GatewayState) : GatewayCall → GatewayReply × GatewayState
  | .publish policies now requestId audit payload refused =>
      let (reply, gateway) := publishSurface py policies now requestId audit payload refused gateway
      (.rollout reply, gateway)
  | .rollout now requestId audit surfaceId payload refused =>
      let (reply, gateway) :=
        rolloutSurface py now requestId audit surfaceId payload refused gateway
      (.rollout reply, gateway)
  | .ingress policies now request =>
      let (reply, gateway) := handleLiveIngress py policies now request gateway
      (.ingress reply, gateway)
  | .restart => (.restarted, { gateway with process := {} })

/-- The record of a call. -/
abbrev GatewayEntry : Type := Entry GatewayState GatewayCall GatewayReply

/-! ## Published paths -/

/-- The path without its first slash, between any slashes. -/
def Spells (value path : String) : Prop :=
  ∃ before after, path.toList =
    List.replicate before '/' ++ value.toList.tail ++ List.replicate after '/'

theorem dropWhile_slashes {cs : List Char} (hcs : cs.head? ≠ some '/') (hne : cs ≠ []) (n : Nat)
    (rest : List Char) :
    (List.replicate n '/' ++ cs ++ rest).dropWhile (· == '/') = cs ++ rest := by
  induction n with
  | zero =>
    obtain ⟨c, cs, rfl⟩ := List.exists_cons_of_ne_nil hne
    have hc : c ≠ '/' := by simpa using hcs
    simp [hc]
  | succ n ih => simpa [List.replicate_succ] using ih

/-- What follows the first slash neither begins nor ends with one, for no part is empty. -/
theorem validRoutePath_eq_true {value : String} (h : validRoutePath value = true) :
    ∃ cs, value.toList = '/' :: cs ∧ cs ≠ [] ∧ cs.head? ≠ some '/' ∧ cs.getLast? ≠ some '/' := by
  simp only [validRoutePath, startsWith, pathParts, Bool.and_eq_true] at h
  obtain ⟨⟨hstart, _⟩, hparts⟩ := h
  obtain ⟨cs, hcs⟩ := List.isPrefixOf_iff_prefix.mp hstart
  have hvalue : value.toList = '/' :: cs := hcs.symm
  have hsplit : ∀ rest, ('/' :: rest).splitOnP (· == '/') = [] :: rest.splitOnP (· == '/') :=
    fun rest => List.splitOnP_append_cons [] rest rfl
  have hempty : [] ∉ cs.splitOnP (· == '/') := by
    intro hmem
    rw [hvalue, List.splitOn, hsplit] at hparts
    simpa using List.all_eq_true.mp hparts [] hmem
  refine ⟨cs, hvalue, ?_, ?_, ?_⟩
  · rintro rfl
    exact hempty List.mem_cons_self
  · intro hhead
    obtain ⟨rest, rfl⟩ := List.head?_eq_some_iff.mp hhead
    exact hempty (hsplit rest ▸ List.mem_cons_self)
  · intro hlast
    obtain ⟨rest, rfl⟩ := List.getLast?_eq_some_iff.mp hlast
    rw [List.splitOnP_append_cons _ _ (by rfl)] at hempty
    exact hempty (List.mem_append_right _ List.mem_cons_self)

theorem routePath_of_spells {value : String} (h : validRoutePath value = true)
    {request : LiveRequest} (hpath : Spells value request.path) : request.routePath = value := by
  obtain ⟨cs, hvalue, hne, hhead, hlast⟩ := validRoutePath_eq_true h
  obtain ⟨before, after, hpath⟩ := hpath
  rw [hvalue, List.tail_cons] at hpath
  have hleft := dropWhile_slashes hhead hne before (List.replicate after '/')
  have hright := dropWhile_slashes (by rwa [List.head?_reverse]) (List.reverse_ne_nil_iff.mpr hne)
    after []
  rw [List.append_nil] at hright
  rw [← String.toList_inj, hvalue, LiveRequest.routePath, stripSlashes, hpath, hleft,
    List.reverse_append, List.reverse_replicate, hright]
  simp

/-- Every path that can be published is the one that a request with it is routed by, with any
slashes around it, and requests with two such paths are routed differently. -/
theorem published_paths_reachable (value other : String) (hvalue : validRoutePath value = true)
    (hother : validRoutePath other = true) :
    Spells value value ∧
      ∀ request, Spells value request.path → LiveRequest.routePath request = value ∧
        ∀ request', Spells other request'.path → value ≠ other →
          request.routePath ≠ LiveRequest.routePath request' := by
  refine ⟨?_, fun request hpath => ⟨routePath_of_spells hvalue hpath, fun request' hpath' hne => ?_⟩⟩
  · obtain ⟨cs, hcs, _⟩ := validRoutePath_eq_true hvalue
    exact ⟨1, 0, by simp [hcs]⟩
  · rwa [routePath_of_spells hvalue hpath, routePath_of_spells hother hpath']

/-- Two paths, one of them with slashes around it. -/
theorem published_paths_reachable_orders :
    LiveRequest.routePath { path := "orders/new//", method := "GET" } ≠
      LiveRequest.routePath { path := "/orders", method := "GET" } :=
  ((published_paths_reachable "/orders/new" "/orders" (by decide) (by decide)).2 _
    ⟨0, 2, by decide⟩).2 _ ⟨1, 0, by decide⟩ (by decide)

/-! ## What is kept of a live request

Of the headers only the redacted ones are kept, and of the body only the keys. So two
requests that differ in what is left out leave the same, but for the time. -/

/-- `evidence_bundle` of a request log; the fields that are the same for all logs are left
out. -/
structure RequestLogEvidence where
  bundleId : String
  surfaceId : Int
  requestLogId : Nat
  routeId : Nat
  deploymentId : Int
  environment : String
  traceId : String
  status : Nat
  authDecision : AuthDecision
  policyDecision : IngressPolicy
  trafficControl : TrafficControl
  rateLimit : Option RateLimit
  cors : CorsDecision
  createdAt : Time
  requestId : String

section

variable (now : Time) (surface : Surface) (request : LiveRequest)

/-- `_attach_request_log_evidence`, with the request id that `handle_live_ingress` adds. -/
def requestLogEvidence (log : RequestLog) : RequestLogEvidence where
  bundleId := "published-surface-request-log-" ++ toString surface.id ++ "-" ++ toString log.id
  surfaceId := surface.id
  requestLogId := log.id
  routeId := routeId
  deploymentId := surface.deploymentId
  environment := surface.environment
  traceId := "trace_" ++ toString surface.id ++ "_" ++ toString log.id
  status := log.verdict.httpStatus
  authDecision := log.verdict.authDecision
  policyDecision := log.verdict.policyDecision
  trafficControl := trafficControl surface
  rateLimit := log.verdict.rateLimit
  cors := corsDecision surface request.headers
  createdAt := log.createdAt
  requestId := request.requestId

/-- What `_evaluate_surface_policy` is asked about a live request. -/
structure IngressPolicyInput where
  tenantId : Option Int
  projectId : Option Int
  environment : String
  deploymentId : Int
  resourceId : Int
  routeId : Nat
  routePath : String
  path : String
  method : String
  headers : List (String × PyValue)
  bodyKeys : List String

def ingressPolicyInput : IngressPolicyInput where
  tenantId := surface.tenantId
  projectId := surface.projectId
  environment := surface.environment
  deploymentId := surface.deploymentId
  resourceId := surface.id
  routeId := routeId
  routePath := surface.routePath
  path := request.routePath
  method := request.verb
  headers := redactHeaders request.headers
  bodyKeys := bodyKeys request.body

/-- What a live request leaves behind. -/
structure IngressRecord where
  log : RequestLog
  evidence : RequestLogEvidence
  policyInput : IngressPolicyInput

/-- The record of a request to a surface. -/
def recordOf (verdict : Verdict) (id : Nat) : IngressRecord :=
  let log := liveLog now surface request verdict id
  ⟨log, requestLogEvidence surface request log, ingressPolicyInput surface request⟩

end

/-- The record at another time. -/
def IngressRecord.recordedAt (record : IngressRecord) (now : Time) : IngressRecord :=
  { record with
    log := { record.log with createdAt := now }
    evidence := { record.evidence with createdAt := now } }

section

variable (py : Builtins) (policies : Table PolicyRow)

/-- The record of a live request that is logged. -/
def ingressRecord (now : Time) (request : LiveRequest) (gateway : GatewayState) :
    Option IngressRecord := do
  let (surface, gateway) ← surfaceForPublishedRoute gateway request.routePath
  guard (upperText request.method ≠ "OPTIONS" ∧ logged request = true)
  let verdict := testRoute py policies surface (recentAllowed gateway surface.id) request
  return recordOf now surface request verdict (gateway.process.requestLogSequence + 1)

/-- The log of the record is the one that is stored. -/
theorem stored_of_ingressRecord {now : Time} {request : LiveRequest} {gateway : GatewayState}
    {record : IngressRecord} (h : ingressRecord py policies now request gateway = some record) :
    (handleLiveIngress py policies now request gateway).2.db.requestLogs.get?
      (record.log.surfaceId, record.log.id) = some record.log := by
  obtain ⟨⟨surface, gateway'⟩, hroute, h⟩ := Option.bind_eq_some_iff.mp h
  obtain ⟨⟨⟩, hguard, h⟩ := Option.bind_eq_some_iff.mp h
  obtain ⟨hoptions, hlogged⟩ := (Option.guard_eq_some' _).mp hguard
  cases h
  simp only [handleLiveIngress, hroute, if_neg hoptions, hlogged, if_true]
  exact Dict.get?_set_self ..

end

/-- A header without what it says, if it is one for authorization. -/
def maskHeader (header : String × PyValue) : String × PyValue :=
  if lowerText header.1 = "authorization" then (header.1, .none) else header

/-- The requests differ at most in what their authorization headers say and in the values
of the body. -/
structure LiveRequest.SameButSecrets (request request' : LiveRequest) : Prop where
  path : request.path = request'.path
  method : request.method = request'.method
  requestId : request.requestId = request'.requestId
  headers : request.headers.map maskHeader = request'.headers.map maskHeader
  body : request.body.map Prod.fst = request'.body.map Prod.fst

theorem maskHeader_fst (header : String × PyValue) : (maskHeader header).1 = header.1 := by
  unfold maskHeader
  split
  · rfl
  · rfl

theorem maskHeader_of_ne {header : String × PyValue} (h : lowerText header.1 ≠ "authorization") :
    maskHeader header = header := if_neg h

section

variable (headers : List (String × PyValue))

theorem headerValue_map_maskHeader {name : String} (hname : name ≠ "authorization") :
    headerValue (headers.map maskHeader) name = headerValue headers name := by
  unfold headerValue
  rw [List.findSome?_map]
  refine congrArg (List.findSome? · headers) (funext fun header => ?_)
  rw [Function.comp_apply, maskHeader_fst]
  by_cases heq : lowerText header.1 = name
  · rw [maskHeader_of_ne (heq ▸ hname)]
  · rw [if_neg heq, if_neg heq]

theorem redactHeaders_map_maskHeader :
    redactHeaders (headers.map maskHeader) = redactHeaders headers := by
  have hvalue : ∀ header : String × PyValue,
      (if lowerText header.1 = "authorization" then .str "[REDACTED]"
        else (maskHeader header).2) =
      if lowerText header.1 = "authorization" then .str "[REDACTED]" else header.2 := by
    intro header
    split
    · rfl
    · rename_i hne
      rw [maskHeader_of_ne hne]
  unfold redactHeaders
  simp only [List.foldl_map, maskHeader_fst, hvalue]

namespace LiveRequest.SameButSecrets

variable {request request' : LiveRequest} (h : request.SameButSecrets request')

include h

theorem routePath_eq : request.routePath = request'.routePath := by
  rw [routePath, h.path, routePath]

theorem verb_eq : request.verb = request'.verb := by
  rw [verb, h.method, verb]

theorem bodyKeys_eq : bodyKeys request.body = bodyKeys request'.body := by
  rw [bodyKeys, h.body, bodyKeys]

theorem corsDecision_eq (surface : Surface) :
    corsDecision surface request.headers = corsDecision surface request'.headers := by
  have horigin : "origin" ≠ "authorization" := by decide
  rw [corsDecision, ← headerValue_map_maskHeader _ horigin, h.headers,
    headerValue_map_maskHeader _ horigin, corsDecision]

theorem redactHeaders_eq : redactHeaders request.headers = redactHeaders request'.headers := by
  rw [← redactHeaders_map_maskHeader, h.headers, redactHeaders_map_maskHeader]

theorem testRoute_eq (py : Builtins) (policies : Table PolicyRow) (surface : Surface)
    (recentAllowed : Nat) :
    testRoute py policies surface recentAllowed request =
      testRoute py policies surface recentAllowed request' := by
  unfold testRoute
  rw [h.corsDecision_eq, h.verb_eq, h.routePath_eq]

theorem recordOf_eq (now now' : Time) (surface : Surface) (verdict : Verdict) (id : Nat) :
    recordOf now' surface request' verdict id =
      (recordOf now surface request verdict id).recordedAt now' := by
  unfold recordOf IngressRecord.recordedAt liveLog requestLogEvidence ingressPolicyInput
  rw [h.routePath_eq, h.verb_eq, h.redactHeaders_eq, h.bodyKeys_eq, h.corsDecision_eq, h.requestId]

end LiveRequest.SameButSecrets

/-- What is kept of two requests that differ in secrets only is the same but for the time,
and it is what is stored. -/
theorem secrets_stay_out_of_logs (py : Builtins) (policies : Table PolicyRow) (now now' : Time)
    (request request' : LiveRequest) (gateway : GatewayState)
    (h : request.SameButSecrets request') :
    ingressRecord py policies now' request' gateway =
        (ingressRecord py policies now request gateway).map (·.recordedAt now') ∧
      ∀ record, ingressRecord py policies now request gateway = some record →
        (handleLiveIngress py policies now request gateway).2.db.requestLogs.get?
            (record.log.surfaceId, record.log.id) = some record.log ∧
          (handleLiveIngress py policies now' request' gateway).2.db.requestLogs.get?
            (record.log.surfaceId, record.log.id) = some (record.recordedAt now').log := by
  have hsame : ingressRecord py policies now' request' gateway =
      (ingressRecord py policies now request gateway).map (·.recordedAt now') := by
    unfold ingressRecord
    rw [← h.routePath_eq, ← h.method]
    cases surfaceForPublishedRoute gateway request.routePath with
    | none => rfl
    | some found =>
      have hlogged : logged request' = logged request := by
        rw [logged, ← h.verb_eq, logged]
      simp only [Option.bind_eq_bind, Option.bind_some, hlogged, ← h.testRoute_eq,
        h.recordOf_eq now now', guard]
      split
      · rfl
      · rfl
  refine ⟨hsame, fun record hrecord => ⟨stored_of_ingressRecord py policies hrecord, ?_⟩⟩
  rw [hrecord] at hsame
  exact stored_of_ingressRecord py policies hsame

/-- A surface for one request a minute. -/
def onePerMinute : Surface where
  id := 501
  routePath := "/orders"
  requestsPerMinute := some 1
  publishedAt := some 0

/-- A process that has it. -/
def onePerMinuteGateway : GatewayState :=
  { process := { surfaces := Dict.empty.set 501 onePerMinute } }

/-- A request to it with a token and a secret. -/
def secretOrder (token secret : String) : LiveRequest where
  path := "orders"
  method := "POST"
  headers := [("Authorization", .str token)]
  body := [("card", .str secret)]

theorem secrets_stay_out_of_logs_order :
    (ingressRecord .simple ⟨[]⟩ 2 (secretOrder "a" "1") onePerMinuteGateway).isSome = true ∧
      ingressRecord .simple ⟨[]⟩ 3 (secretOrder "b" "2") onePerMinuteGateway =
        (ingressRecord .simple ⟨[]⟩ 2 (secretOrder "a" "1") onePerMinuteGateway).map
          (·.recordedAt 3) :=
  ⟨by decide +kernel, (secrets_stay_out_of_logs .simple ⟨[]⟩ 2 3 (secretOrder "a" "1")
    (secretOrder "b" "2") onePerMinuteGateway ⟨rfl, rfl, rfl, rfl, rfl⟩).1⟩

end

/-! ## What ingress asks of a request

Ingress reads no credential. Whatever counts as one, a request without headers and body
has none, and it is accepted by every surface that is open. -/

section

variable (py : Builtins) (policies : Table PolicyRow) (now : Time)

/-- Every request that is accepted carries a credential for the mode of the surface. -/
def NeedsCredential (credential : AuthMode → LiveRequest → Prop) (gateway : GatewayState) : Prop :=
  ∀ request surface gateway',
    surfaceForPublishedRoute gateway request.routePath = some (surface, gateway') →
    (handleLiveIngress py policies now request gateway).1.acceptedOn = some surface.id →
    credential surface.authMode request

/-- No surface that a path is routed to is open. -/
def NothingOpen (gateway : GatewayState) : Prop :=
  ∀ (request : LiveRequest) surface gateway',
    surfaceForPublishedRoute gateway request.routePath = some (surface, gateway') →
    ¬ Open py policies surface (recentAllowed gateway' surface.id)

/-- The request without headers and body to a path. -/
def bareRequest (path : String) : LiveRequest := { path := path, method := "GET" }

/-- An open surface accepts the bare request. -/
theorem acceptedOn_bareRequest {gateway gateway' : GatewayState} {path : String} {surface : Surface}
    (hroute : surfaceForPublishedRoute gateway (bareRequest path).routePath =
      some (surface, gateway'))
    (hopen : Open py policies surface (recentAllowed gateway' surface.id)) :
    (handleLiveIngress py policies now (bareRequest path) gateway).1.acceptedOn =
      some surface.id := by
  rw [acceptedOn_handleLiveIngress_eq_some_iff]
  have hmethod : upperText "GET" ≠ "OPTIONS" := by decide
  have hverb : liveIngressMethods.contains (bareRequest path).verb = true := by
    show liveIngressMethods.contains (upperText "GET") = true
    decide
  have horigin : (corsDecision surface (bareRequest path).headers).allowed ≠ some false := by
    show (none : Option Bool) ≠ some false
    decide
  exact ⟨surface, gateway', hroute, rfl, hmethod, hverb, horigin, hopen⟩

/-- Ingress needs a credential if and only if it accepts nothing at all. -/
theorem credential_needed_iff (credential : AuthMode → LiveRequest → Prop)
    (hbare : ∀ mode request, request.headers = [] → request.body = [] → ¬ credential mode request)
    (calls : List GatewayCall) :
    NeedsCredential py policies now credential (final (exec py) {} calls) ↔
      NothingOpen py policies (final (exec py) {} calls) := by
  constructor
  · intro hneeds request surface gateway' hroute hopen
    have haccepted : (handleLiveIngress py policies now (bareRequest request.path)
        (final (exec py) {} calls)).1.acceptedOn = some surface.id :=
      acceptedOn_bareRequest py policies now hroute hopen
    exact hbare surface.authMode (bareRequest request.path) rfl rfl
      (hneeds (bareRequest request.path) surface gateway' hroute haccepted)
  · intro hclosed request surface gateway' hroute haccepted
    obtain ⟨surface', gateway'', hroute', _, _, _, _, hopen⟩ :=
      (acceptedOn_handleLiveIngress_eq_some_iff py policies now request _ surface.id).mp haccepted
    exact absurd hopen (hclosed request surface' gateway'' hroute')

end

/-! ### A surface with keys -/

/-- A payload that is published. -/
def keyedPayload (surfaceId : Int) (routePath : String) (origins : List String) : PyDict :=
  [("surface_id", .int surfaceId), ("deployment_id", .int 7), ("environment", .str "production"),
    ("route_path", .str routePath), ("auth_mode", .str "api_key"),
    ("cors_policy", .dict [("allowed_origins", .list (origins.map .str))]),
    ("rate_limit_policy", .dict [("requests_per_minute", .int 60)]),
    ("policy_enforced", .bool true)]

/-- Its publication. -/
def publishKeyed (surfaceId : Int) (routePath : String) (origins : List String) : GatewayCall :=
  .publish ⟨[]⟩ 1 none {} (keyedPayload surfaceId routePath origins)

/-- The theorem for it; a credential is a header. -/
theorem credential_needed_iff_keyed :
    (∀ (_ : AuthMode) (request : LiveRequest), request.headers = [] → request.body = [] →
      ¬ request.headers ≠ []) ∧
    (NeedsCredential .simple ⟨[]⟩ 2 (fun _ request => request.headers ≠ [])
        (final (exec .simple) {} [publishKeyed 501 "/orders" ["https://shop.example"]]) ↔
      NothingOpen .simple ⟨[]⟩
        (final (exec .simple) {} [publishKeyed 501 "/orders" ["https://shop.example"]])) := by
  have hbare : ∀ (_ : AuthMode) (request : LiveRequest), request.headers = [] →
      request.body = [] → ¬ request.headers ≠ [] := fun _ _ hheaders _ h => h hheaders
  exact ⟨hbare, credential_needed_iff .simple ⟨[]⟩ 2 _ hbare _⟩

/-- After the publication with mode `api_key`, a request without any header is accepted. -/
theorem bare_request_accepted :
    (surfaceOf (final (exec .simple) {} [publishKeyed 501 "/orders" ["https://shop.example"]])
        501).authMode = .apiKey ∧
    (handleLiveIngress .simple ⟨[]⟩ 2 (bareRequest "orders")
        (final (exec .simple) {} [publishKeyed 501 "/orders" ["https://shop.example"]])
      ).1.acceptedOn = some 501 := by
  constructor
  · decide +kernel
  · decide +kernel

end DimooRun.Gateway
