/-
  Gateway/Rollouts.lean --- publication and rollout of surfaces.

  Source: gateway/route_tester.py.

  A process keeps surfaces, histories and logs in module variables and writes them to the
  database. It reads a surface from the database only if it has no copy of its own. The
  database refuses to store a route path twice, and it may refuse the binding and the
  evidence of an entry for other reasons: a number that its column cannot hold, a text that
  is too long, a tenant that does not exist. Which commit is refused is a parameter of the
  call. A publication changes the copy before it stores it; a rollout changes the copy and
  records itself before it stores it. Evidence bundles, audit entries and the decision
  snapshots of a rollout are only written, and an entry whose evidence was stored is too.
-/
import DimooRun.Foundation.Numbered
import DimooRun.Policy.Loading
import DimooRun.Scheduler.Lifecycle

set_option autoImplicit false

namespace DimooRun.Gateway

open Foundation Policy
open Scheduler (Time)

/-! ## Values

Payloads are bodies of requests, so their fields are dynamic values. -/

/-- A text of decimal digits that does not start with zero. -/
def plainDigits (s : String) : Bool :=
  s != "" && s.toList.all Char.isDigit && s.toList.head? != some '0'

/-- `_positive_int`. -/
def positiveInt : PyValue → Option Nat
  | .int n => if 0 < n then some n.toNat else none
  | .str s =>
      if plainDigits s then ((parseInt s.toList).map Int.toNat).filter (0 < ·) else none
  | _ => none

theorem positiveInt_pos {value : PyValue} {n : Nat} (h : positiveInt value = some n) : 0 < n := by
  unfold positiveInt at h
  split at h
  · split at h
    · rw [← Option.some.inj h]
      omega
    · cases h
  · split at h
    · simpa using (Option.filter_eq_some_iff.mp h).2
    · cases h
  · cases h

/-- `_non_negative_int`. -/
def nonNegativeInt : PyValue → Option Nat
  | .int n => if 0 ≤ n then some n.toNat else none
  | .str s =>
      if s = "0" then some 0
      else if plainDigits s then (parseInt s.toList).map Int.toNat
      else none
  | _ => none

/-- `_record`. -/
def record (value : PyValue) : PyDict := value.dict?.getD []

/-- `str(payload.get(key) or "")`. -/
def textOf (py : Builtins) (payload : PyDict) (key : String) : String :=
  py.str ((payload.get key).orElse (.str ""))

/-! ## Surfaces

A surface is a dictionary in the source. Every reader takes a missing key for the value
that stands here as the default of the field. A snapshot has no origins. -/

inductive SurfaceStatus where
  | active
  | disabled
  | revoked
  deriving DecidableEq, Repr

/-- The modes that may be published. -/
inductive AuthMode where
  | apiKey
  | oauth
  | jwt
  | mTLS
  | mtls
  deriving DecidableEq, Repr

namespace AuthMode

def text : AuthMode → String
  | apiKey => "api_key"
  | oauth => "oauth"
  | jwt => "jwt"
  | mTLS => "mTLS"
  | mtls => "mtls"

def ofText? (text : String) : Option AuthMode :=
  [apiKey, oauth, jwt, mTLS, mtls].find? fun mode => mode.text == text

end AuthMode

/-- A surface; the defaults are those of a surface that nobody published. -/
structure Surface where
  id : Int
  name : String := "support-public-api"
  deploymentId : Int := 10
  status : SurfaceStatus := .active
  environment : String := "local"
  tenantId : Option Int := none
  projectId : Option Int := none
  routePath : String := "/support/triage"
  authMode : AuthMode := .apiKey
  corsAllowedOrigins : List String := []
  requestsPerMinute : Option Nat := none
  trafficSplit : PyDict := []
  shadowMode : Bool := false
  shadowRouteId : Option Nat := none
  publishedAt : Option Time := none

/-- `_surface_snapshot`. -/
structure SurfaceSnapshot where
  id : Int
  name : String
  deploymentId : Int
  status : SurfaceStatus
  environment : String
  tenantId : Option Int
  projectId : Option Int
  routePath : String
  authMode : AuthMode
  requestsPerMinute : Nat
  trafficSplit : PyDict
  shadowMode : Bool
  shadowRouteId : Option Nat
  publishedAt : Option Time

namespace Surface

variable (path : String) (surface : Surface)

def snapshot : SurfaceSnapshot where
  id := surface.id
  name := surface.name
  deploymentId := surface.deploymentId
  status := surface.status
  environment := surface.environment
  tenantId := surface.tenantId
  projectId := surface.projectId
  routePath := surface.routePath
  authMode := surface.authMode
  requestsPerMinute := surface.requestsPerMinute.getD 120
  trafficSplit := surface.trafficSplit
  shadowMode := surface.shadowMode
  shadowRouteId := surface.shadowRouteId
  publishedAt := surface.publishedAt

/-- `surface.update(snapshot)`. -/
def update (snapshot : SurfaceSnapshot) : Surface :=
  { surface with
    id := snapshot.id
    name := snapshot.name
    deploymentId := snapshot.deploymentId
    status := snapshot.status
    environment := snapshot.environment
    tenantId := snapshot.tenantId
    projectId := snapshot.projectId
    routePath := snapshot.routePath
    authMode := snapshot.authMode
    requestsPerMinute := some snapshot.requestsPerMinute
    trafficSplit := snapshot.trafficSplit
    shadowMode := snapshot.shadowMode
    shadowRouteId := snapshot.shadowRouteId
    publishedAt := snapshot.publishedAt }

/-- The surface can be found by its route. -/
def serves : Bool :=
  surface.routePath == path && surface.publishedAt.isSome

end Surface

/-! ## Validation -/

/-- `value.split("/")`. -/
def pathParts (path : String) : List (List Char) := path.toList.splitOn '/'

/-- `_valid_route_path`. -/
def validRoutePath (path : String) : Bool :=
  startsWith path "/" && path.toList.all (fun c => c != ' ' && c != '?' && c != '#') &&
    (pathParts path).tail.all fun part => part != [] && part != ['.'] && part != ['.', '.']

/-- An origin that may be allowed. -/
def validOrigin : PyValue → Bool
  | .str s => stripText s != "" && s != "*"
  | _ => false

/-- `_valid_cors_origins`. -/
def validCorsOrigins : PyValue → Bool
  | .list items => !items.isEmpty && items.all validOrigin
  | _ => false

/-- `environment in {...}`; a list or a dictionary cannot be looked up in a set. -/
def validEnvironment : PyValue → Except PyError Bool
  | .list _ => .error .typeError
  | .dict _ => .error .typeError
  | .str s => .ok (["local", "dev", "staging", "production"].contains s)
  | _ => .ok false

/-- The reasons of the checks that fail. -/
def failing (checks : List (Bool × String)) : List String :=
  (checks.filter fun check => !check.1).map Prod.snd

/-- `validate_publish`: the reasons that block a publication. -/
def validatePublish (py : Builtins) (payload : PyDict) : Except PyError (List String) :=
  let corsPolicy := record (payload.get "cors_policy")
  let rateLimitPolicy := record (payload.get "rate_limit_policy")
  match validEnvironment (payload.get "environment") with
  | .error e => .error e
  | .ok environmentValid =>
      .ok (failing
        [(validRoutePath (textOf py payload "route_path"), "route_path_invalid"),
          ((AuthMode.ofText? (textOf py payload "auth_mode")).isSome, "auth_mode_unsafe"),
          ((positiveInt (payload.get "deployment_id")).isSome, "deployment_binding_missing"),
          (environmentValid, "environment_scope_invalid"),
          (validCorsOrigins (corsPolicy.get "allowed_origins"), "cors_wildcard_origin"),
          ((positiveInt (rateLimitPolicy.get "requests_per_minute")).isSome, "rate_limit_missing"),
          (match payload.get "policy_enforced" with
            | .bool enforced => enforced
            | _ => false, "policy_engine_not_enforced")])

/-- `_validate_traffic_split`: the reasons that block a split. -/
def validateTrafficSplit (value : PyValue) : List String :=
  let split := record value
  match nonNegativeInt (split.get "stable"), nonNegativeInt (split.get "candidate") with
  | some stable, some candidate =>
      if stable + candidate = 100 then [] else ["traffic_split_total_invalid"]
  | _, _ => ["traffic_split_negative", "traffic_split_total_invalid"]

/-! ## State -/

/-- The headers that an operator's request is audited with. -/
structure AuditScope where
  tenantId : Option Int := none
  projectId : Option Int := none
  environment : Option String := none

/-- An entry of the history of a surface. -/
structure Rollout where
  id : Nat
  operation : String
  version : Option Nat := none
  surfaceSnapshot : Option SurfaceSnapshot := none
  routeId : PyValue := .none
  trafficSplit : PyDict := []
  shadowMode : Bool := false
  rollbackToVersion : PyValue := .none
  restoredVersion : Option Nat := none
  auditReason : String
  createdAt : Time
  requestId : Option String := none
  auditScope : AuditScope := {}

/-- `_traffic_control`. -/
structure TrafficControl where
  trafficSplit : PyDict
  shadowMode : Bool
  shadowRouteId : Option Nat

/-- `_cors_decision`. -/
structure CorsDecision where
  origin : Option String
  allowed : Option Bool
  deriving DecidableEq

structure RateLimit where
  limit : Nat
  remaining : Nat := 0
  retryAfterSeconds : Nat := 60

/-- What was decided about the credentials of a request. -/
inductive AuthDecision where
  | notEvaluated
  | allow (mode : AuthMode)

/-- What the policies said about a request. -/
inductive IngressPolicy where
  | notEvaluated
  /-- a denial by the gateway itself -/
  | denied (policyId : String)
  | engine (decision : PolicyDecision)

structure MatchedDeployment where
  deploymentId : Int
  environment : String
  surfaceId : Int
  routeId : Nat

/-- `expected_runtime_task`. -/
structure RuntimeTask where
  deploymentId : Int
  method : String
  path : String

/-- What is decided about a request, but for the numbers of its log. -/
structure Verdict where
  httpStatus : Nat
  matchedDeployment : Option MatchedDeployment := none
  authDecision : AuthDecision := .notEvaluated
  policyDecision : IngressPolicy := .notEvaluated
  cors : Option CorsDecision := none
  runtimeTask : Option RuntimeTask := none
  blockedReasons : List String := []
  rateLimit : Option RateLimit := none
  trafficControl : Option TrafficControl := none

/-- A request log. -/
structure RequestLog where
  id : Nat
  surfaceId : Int
  path : String
  method : String
  verdict : Verdict
  headers : List (String × PyValue)
  bodyKeys : List String
  createdAt : Time
  ingressSource : Option String := none
  requestId : Option String := none

/-- The module variables of a process. -/
structure GatewayProcess where
  surfaces : Dict Int Surface := Dict.empty
  rolloutHistory : Dict Int (List Rollout) := Dict.empty
  requestLogs : Dict Int (List RequestLog) := Dict.empty
  requestLogSequence : Nat := 900

/-- The tables: bindings by surface, rollouts and request logs by surface and number. -/
structure GatewayDb where
  bindings : Dict Int Surface := Dict.empty
  rollouts : Dict (Int × Nat) Rollout := Dict.empty
  requestLogs : Dict (Int × Nat) RequestLog := Dict.empty

/-- A process and the database. -/
structure GatewayState where
  process : GatewayProcess := {}
  db : GatewayDb := {}

/-- What raises. -/
inductive GatewayError where
  | python (error : PyError)
  /-- the database refuses a commit -/
  | commit
  deriving DecidableEq, Repr

/-- The commits that the database may refuse. -/
inductive Commit where
  | binding
  | evidence
  deriving DecidableEq, Repr

section

variable (py : Builtins) (policies : Table PolicyRow) (now : Time) (requestId : Option String)
  (audit : AuditScope) (payload : PyDict) (refused : Option Commit) (gateway : GatewayState)

/-! ## Surfaces and bindings -/

section

variable (tenantId projectId : Option Int) (environment action : String) (surfaceId : Int)

/-- The surface that `_surface` returns. -/
def surfaceOf : Surface :=
  match gateway.process.surfaces.get? surfaceId with
  | some surface => surface
  | none =>
      match gateway.db.bindings.get? surfaceId with
      | some surface => surface
      | none => { id := surfaceId }

section

variable (db : GatewayDb) (surface : Surface)

/-- The process has the surface now. -/
def putSurface : GatewayState :=
  { gateway with
    process := { gateway.process with
      surfaces := gateway.process.surfaces.set surfaceId surface } }

/-- Another surface is bound to the route path. -/
def taken : Bool :=
  db.bindings.entries.any fun binding =>
    binding.1 != surface.id && binding.2.routePath == surface.routePath

/-- `_persist_surface_binding`. -/
def persistSurfaceBinding : Except GatewayError GatewayDb :=
  if surface.id ≤ 0 ∨ surface.deploymentId ≤ 0 then .ok db
  else if refused = some .binding ∨ taken db surface then .error .commit
  else .ok { db with bindings := db.bindings.set surface.id surface }

/-! ## Histories -/

/-- `_persisted_rollouts`, by number. -/
def persistedRollouts (surfaceId : Int) : List Rollout :=
  (((db.rollouts.entries.filter fun row => row.1.1 == surfaceId).insertionSort
    fun x y => x.1.2 ≤ y.1.2)).map Prod.snd

end

/-- The history that the process has itself. -/
def processRollouts (process : GatewayProcess) (surfaceId : Int) : List Rollout :=
  (process.rolloutHistory.get? surfaceId).getD []

/-- `_surface_rollout_history`. -/
def surfaceRolloutHistory : List Rollout :=
  mergeByNumber Rollout.id (processRollouts gateway.process surfaceId)
    (persistedRollouts gateway.db surfaceId)

/-- `_record_rollout`. -/
def recordRollout (rollout : Rollout) : GatewayState where
  process :=
    { gateway.process with
      rolloutHistory := gateway.process.rolloutHistory.set surfaceId
        (processRollouts gateway.process surfaceId ++ [rollout]) }
  db := { gateway.db with rollouts := gateway.db.rollouts.set (surfaceId, rollout.id) rollout }

/-- The number of the next rollout. -/
def nextRolloutId : Nat :=
  (surfaceRolloutHistory gateway surfaceId).length + 1

/-! ## Publication -/

/-- `value or other`, of a number. -/
def numberOr (value other : Option Int) : Option Int :=
  match value with
  | some 0 => other
  | some n => some n
  | none => other

/-- `_evaluate_surface_policy`. -/
def evaluateSurfacePolicy :
    PolicyDecision :=
  let tenant := (numberOr tenantId none).getD 1
  let project := (numberOr projectId none).getD 1
  let environment := if environment = "" then "local" else environment
  (evaluate py (activePolicyRules py policies tenant project "published_surface" action)
    { tenantId := tenant
      projectId := some project
      actorId := none
      actorType := "external_ingress"
      resourceType := "published_surface"
      resourceId := some surfaceId
      action := action
      environment := some environment }).1

end

/-- The reason of a decision. -/
def policyReason (decision : PolicyDecision) : String :=
  (decision.reason.filter (· != "")).getD "policy_denied"

/-- `_positive_int(surface.get("surface_id")) if "surface_id" in surface else 501`. -/
def publishedId : Option Nat :=
  match payload.get? "surface_id" with
  | some value => positiveInt value
  | none => some 501

/-- The texts of a list of origins. -/
def originTexts : PyValue → List String
  | .list items => items.filterMap PyValue.str?
  | _ => []

/-- `current.update({...})` of a publication that is valid. -/
def publishedSurface (surfaceId : Nat) (current : Surface) : Surface :=
  let rateLimitPolicy := record (payload.get "rate_limit_policy")
  let corsPolicy := record (payload.get "cors_policy")
  { current with
    id := surfaceId
    name := py.str ((payload.get "name").orElse ((PyValue.str current.name).orElse
      (.str "support-public-api")))
    deploymentId := (positiveInt (payload.get "deployment_id")).getD 10
    status := .active
    environment := textOf py payload "environment"
    tenantId := numberOr audit.tenantId (numberOr current.tenantId (some 1))
    projectId := numberOr audit.projectId (numberOr current.projectId (some 1))
    routePath := textOf py payload "route_path"
    authMode := (AuthMode.ofText? (textOf py payload "auth_mode")).getD .apiKey
    corsAllowedOrigins := originTexts (corsPolicy.get "allowed_origins")
    requestsPerMinute := positiveInt (rateLimitPolicy.get "requests_per_minute")
    publishedAt := some now }

/-- What a publication is about to do: refuse, or store a surface. -/
inductive PublishPlan where
  | blocked (reasons : List String)
  | store (surfaceId : Nat) (surface : Surface)

/-- `publish_surface` up to the point where it changes the surface. -/
def planPublish : Except PyError PublishPlan :=
  match validatePublish py payload with
  | .error e => .error e
  | .ok (reason :: reasons) => .ok (.blocked (reason :: reasons))
  | .ok [] =>
      match publishedId payload with
      | none => .ok (.blocked ["surface_id_invalid"])
      | some surfaceId =>
          let decision := evaluateSurfacePolicy py policies audit.tenantId audit.projectId
            (textOf py payload "environment") "publish" surfaceId
          if decision.decision.allows then
            .ok (.store surfaceId (publishedSurface py now audit payload surfaceId
              (surfaceOf gateway surfaceId)))
          else .ok (.blocked [policyReason decision])

/-- A refusal with status 409. -/
structure Refusal where
  errorCode : String
  message : String
  blockedReasons : List String

/-- What a publication or a rollout answers. -/
inductive RolloutReply where
  | blocked (reasons : List String)
  | refused (refusal : Refusal)
  | done (surface : Surface) (rollout : Rollout)
  | raised (error : GatewayError)

/-- The entry of a publication. -/
def publishRollout (version : Nat) (surface : Surface) : Rollout where
  id := version
  operation := "publish"
  version := some version
  surfaceSnapshot := some surface.snapshot
  auditReason := "validated publish"
  createdAt := now
  requestId := requestId
  auditScope := audit

/-- `publish_surface`. -/
def publishSurface : RolloutReply × GatewayState :=
  match planPublish py policies now audit payload gateway with
  | .error e => (.raised (.python e), gateway)
  | .ok (.blocked reasons) => (.blocked reasons, gateway)
  | .ok (.store surfaceId surface) =>
      -- the surface is changed in place before it is stored
      let changed := putSurface gateway surfaceId surface
      match persistSurfaceBinding refused changed.db surface with
      | .error e => (.raised e, changed)
      | .ok db =>
          let stored := { changed with db := db }
          let rollout := publishRollout now requestId audit (nextRolloutId stored surfaceId) surface
          -- the evidence is stored before the entry
          if refused = some .evidence then (.raised .commit, stored)
          else (.done surface rollout, recordRollout stored surfaceId rollout)

end

/-! ## Rollout -/

inductive Operation where
  | revoke
  | disable
  | enable
  | trafficSplit
  | shadowMode
  | rollback
  deriving DecidableEq, Repr

namespace Operation

def text : Operation → String
  | revoke => "revoke"
  | disable => "disable"
  | enable => "enable"
  | trafficSplit => "traffic_split"
  | shadowMode => "shadow_mode"
  | rollback => "rollback"

def ofText? (text : String) : Option Operation :=
  [revoke, disable, enable, trafficSplit, shadowMode, rollback].find? fun operation =>
    operation.text == text

end Operation

/-- What a rollout is about to do: refuse, or go on with a surface. -/
inductive RolloutPlan where
  | refuse (refusal : Refusal)
  | change (surface : Surface) (restoredVersion : Option Nat)

def refuse (errorCode message : String) (reasons : List String) : RolloutPlan :=
  .refuse ⟨errorCode, message, reasons⟩

def auditReasonRequired : RolloutPlan :=
  refuse "rollout_audit_reason_required" "Rollout control actions require an audit reason."
    ["audit_reason_required"]

section

variable (py : Builtins) (surfaceId : Int) (payload : PyDict) (surface : Surface)
  (history : List Rollout)

/-- The traffic controls require an active surface. -/
def requireActive (next : RolloutPlan) : RolloutPlan :=
  match surface.status with
  | .active => next
  | .revoked =>
      refuse "surface_inactive" "Traffic controls require an active published surface."
        ["surface_revoked"]
  | .disabled =>
      refuse "surface_inactive" "Traffic controls require an active published surface."
        ["surface_disabled"]

def planRevoke (auditReason : String) (payload : PyDict) :
    RolloutPlan :=
  if (payload.get "confirmation").str? ≠ some ("REVOKE SURFACE " ++ toString surfaceId) then
    refuse "dangerous_surface_action_confirmation_required"
      "Surface revoke requires the exact confirmation phrase." ["confirmation_required"]
  else if auditReason = "" then auditReasonRequired
  else if surface.status = .revoked then
    refuse "surface_already_revoked" "Surface has already been revoked." ["already_revoked"]
  else .change { surface with status := .revoked } none

/-- A surface that is revoked may be disabled. -/
def planDisable : RolloutPlan :=
  if surface.status = .disabled then
    refuse "surface_already_disabled" "Surface has already been disabled." ["already_disabled"]
  else .change { surface with status := .disabled } none

def planEnable : RolloutPlan :=
  match surface.status with
  | .active =>
      refuse "surface_already_active" "Surface is already active." ["already_active"]
  | .revoked =>
      refuse "surface_revoked" "Revoked surfaces cannot be enabled." ["surface_revoked"]
  | .disabled => .change { surface with status := .active } none

def planTrafficSplit (payload : PyDict) : RolloutPlan :=
  match validateTrafficSplit (payload.get "traffic_split") with
  | [] =>
      .change { surface with trafficSplit := record (payload.get "traffic_split") } none
  | reasons =>
      refuse "invalid_traffic_split"
        "Traffic split must contain non-negative integer percentages totaling 100." reasons

def planShadowMode (payload : PyDict) : RolloutPlan :=
  match positiveInt (payload.get "route_id"), payload.get "shadow_mode" with
  | some routeId, .bool mode =>
      .change { surface with shadowRouteId := some routeId, shadowMode := mode } none
  | routeId, mode =>
      refuse "invalid_shadow_mode"
        "Route shadow mode requires a valid route id and boolean shadow mode."
        ((if routeId.isNone then ["route_id_invalid"] else []) ++
          (match mode with
            | .bool _ => []
            | _ => ["shadow_mode_invalid"]))

/-- `_rollout_surface_snapshot`. -/
def rolloutSurfaceSnapshot (version : Nat) : Option SurfaceSnapshot :=
  history.findSome? fun rollout =>
    if rollout.id = version then rollout.surfaceSnapshot else none

/-- An entry without a snapshot restores nothing, and this is no refusal. -/
def planRollback (payload : PyDict) : RolloutPlan :=
  match positiveInt (payload.get "rollback_to_version") with
  | none =>
      refuse "invalid_rollback_target" "Rollback requires a positive rollback target version."
        ["rollback_target_invalid"]
  | some version =>
      if history.any fun rollout => rollout.id == version then
        match rolloutSurfaceSnapshot history version with
        | some snapshot => .change (surface.update snapshot) (some version)
        | none => .change surface none
      else
        refuse "rollback_target_not_found"
          "Rollback target version was not found for this surface." ["rollback_target_not_found"]

/-- `str(payload.get("audit_reason") or "").strip()`. -/
def auditReasonOf : String :=
  stripText (textOf py payload "audit_reason")

/-- `rollout_surface` up to the point where it changes the surface. -/
def planRollout : RolloutPlan :=
  match Operation.ofText? (textOf py payload "operation") with
  | none =>
      refuse "unsupported_rollout_operation"
        "Rollout operation is not supported for published surfaces."
        ["rollout_operation_unsupported"]
  | some .revoke => planRevoke surfaceId surface (auditReasonOf py payload) payload
  | some operation =>
      if auditReasonOf py payload = "" then auditReasonRequired
      else
        match operation with
        | .disable => planDisable surface
        | .enable => planEnable surface
        | .trafficSplit => requireActive surface (planTrafficSplit surface payload)
        | .shadowMode => requireActive surface (planShadowMode surface payload)
        | _ => planRollback surface history payload

/-- The entry of a rollout. -/
def rolloutEntry (now : Time) (requestId : Option String) (audit : AuditScope)
    (payload : PyDict) (restoredVersion : Option Nat) (id : Nat) : Rollout where
  id := id
  operation := textOf py payload "operation"
  routeId := payload.get "route_id"
  trafficSplit := record (payload.get "traffic_split")
  shadowMode :=
    match payload.get "shadow_mode" with
    | .bool mode => mode
    | _ => false
  rollbackToVersion := payload.get "rollback_to_version"
  restoredVersion := restoredVersion
  auditReason := auditReasonOf py payload
  createdAt := now
  requestId := requestId
  auditScope := audit

end

/-- `rollout_surface`. -/
def rolloutSurface (py : Builtins) (now : Time) (requestId : Option String) (audit : AuditScope)
    (surfaceId : Int) (payload : PyDict) (refused : Option Commit) (gateway : GatewayState) :
    RolloutReply × GatewayState :=
  let surface := surfaceOf gateway surfaceId
  let loaded := putSurface gateway surfaceId surface
  match planRollout py surfaceId payload surface (surfaceRolloutHistory loaded surfaceId) with
  | .refuse refusal => (.refused refusal, loaded)
  | .change changed restoredVersion =>
      let rollout := rolloutEntry py now requestId audit payload restoredVersion
        (nextRolloutId loaded surfaceId)
      let copied := putSurface loaded surfaceId changed
      let recorded := recordRollout copied surfaceId rollout
      if refused = some .evidence then (.raised .commit, copied)
      else
        -- the binding is stored after the entry was committed
        match persistSurfaceBinding refused recorded.db changed with
        | .error e => (.raised e, recorded)
        | .ok db => (.done changed rollout, { recorded with db := db })

end DimooRun.Gateway
