/-
  Api/Dependencies.lean --- who a request acts for.

  Source: api/dependencies.py, from `authenticate_api_key` on, with
  `can_access_scope` of identity/console.py.

  A bearer token is a console session, the development key or an API key. What the
  session store, the environment variables and the key store say at the time of a
  request is a parameter, `Services`.
-/
import DimooRun.Security.ApiKeys
import Mathlib.Data.Fintype.EquivFin

set_option autoImplicit false

namespace DimooRun.Api

open Foundation Identity Security
open Scheduler (Time)

/-- `ErrorResponse`, with the status code it is sent with. -/
structure ErrorResponse where
  statusCode : Nat
  errorCode : String
  message : String
  requestId : Option String
  details : PyDict

/-- An allowed scope of an operator; `none` is the selector for all. -/
structure AllowedScope where
  tenantId : Option Int
  projectId : Option Int
  environment : String

/-- `ConsoleOperator`, as a session is resolved to it. -/
structure ConsoleOperator where
  id : Nat
  permissions : Finset String
  allowedScopes : List AllowedScope

/-- `ConsoleIdentityUnavailableError`. -/
structure ConsoleIdentityUnavailableError where

/-- What a request is answered with. -/
structure Services where
  /-- `get_console_operator_by_session` -/
  operatorBySession : String → Except ConsoleIdentityUnavailableError (Option ConsoleOperator)
  /-- `_operator_scope_records` -/
  scopeRecords : Nat → List AllowedScope
  /-- `DIMOORUN_DEV_API_KEY` -/
  devApiKey : Option String
  /-- `DIMOORUN_RUNTIME_MODE` -/
  runtimeMode : Option String
  /-- the digest of keys -/
  hash : String → String
  identity : IdentityStore
  now : Time

/-- The arguments of `authenticate_api_key`. -/
structure AuthRequest where
  authorization : Option String
  consoleSession : Option String := none
  tenantId : Int
  projectId : Option Int
  environment : Option String := none
  requiredScope : String
  requestId : Option String

/-- `_scope_value_matches`, of ids. -/
def idMatches (scopeValue : Option Int) (requested : Int) : Bool :=
  match scopeValue with
  | none => true
  | some value => value == requested

/-- `_scope_value_matches`, of environments. -/
def environmentMatches (scopeValue requested : String) : Bool :=
  scopeValue == "*" || scopeValue == requested

section

variable (services : Services) (request : AuthRequest)

/-- `can_access_scope`. -/
def canAccessScope (operator : ConsoleOperator) (tenantId : Int)
    (projectId : Option Int) (environment : Option String) : Bool :=
  let scopes :=
    if operator.allowedScopes.isEmpty then services.scopeRecords operator.id
    else operator.allowedScopes
  scopes.any fun scope =>
    idMatches scope.tenantId tenantId &&
      (projectId.all fun project => idMatches scope.projectId project) &&
      (environment.all fun environment => environmentMatches scope.environment environment)

/-- The authorization header, or the session cookie in its place. -/
def authorizationOf (authorization consoleSession : Option String) : Option String :=
  match authorization, consoleSession with
  | none, some session => if session = "" then none else some ("Bearer " ++ stripText session)
  | authorization, _ => authorization

/-- The bearer token of a request. -/
def plainKeyOf (authorization consoleSession : Option String) : Option String :=
  match authorizationOf authorization consoleSession with
  | none => none
  | some authorization =>
      if startsWith authorization "Bearer " then
        some (stripText (removeStart authorization "Bearer "))
      else none

/-- The branch of `authenticate_api_key` for the development key and for API keys. -/
def authenticateKey (plainKey : String) : Except ErrorResponse AuthenticatedActor :=
  let isDevKey := services.devApiKey = some plainKey ∧ plainKey ≠ ""
  let isDevMode := services.runtimeMode.getD "dev" = "dev"
  if isDevKey ∧ isDevMode then
    .ok
      { tenantId := request.tenantId
        projectId := request.projectId
        actorType := "service_account"
        actorId := "dev_console"
        scopes := {"*"}
        apiKeyId := none }
  else if isDevKey ∧ ¬ isDevMode then
    .error
      { statusCode := 401
        errorCode := "api_key_invalid"
        message := "Development API keys are only accepted in dev mode."
        requestId := request.requestId
        details := [] }
  else
    match services.identity.authenticate services.hash plainKey request.tenantId request.projectId
        request.requiredScope services.now with
    | .ok actor => .ok actor
    | .error e =>
        .error
          { statusCode := match e with | .scope _ => 403 | _ => 401
            errorCode := e.errorCode
            message := e.text
            requestId := request.requestId
            details := match e with
              | .scope _ => [("required_scope", .str request.requiredScope)]
              | _ => [] }

/-- `authenticate_api_key`. -/
def authenticateApiKey : Except ErrorResponse AuthenticatedActor :=
  match plainKeyOf request.authorization request.consoleSession with
  | none =>
      .error
        { statusCode := 401
          errorCode := "api_key_invalid"
          message := "A bearer API key is required."
          requestId := request.requestId
          details := [("required_header", .str "Authorization")] }
  | some plainKey =>
      if startsWith plainKey "sess_" then
        match services.operatorBySession plainKey with
        | .error _ =>
            .error
              { statusCode := 503
                errorCode := "redis_unavailable"
                message := "Console session store is unavailable."
                requestId := request.requestId
                details := [] }
        | .ok none => authenticateKey services request plainKey
        | .ok (some operator) =>
            if canAccessScope services operator request.tenantId request.projectId
                request.environment then
              .ok
                { tenantId := request.tenantId
                  projectId := request.projectId
                  actorType := "operator"
                  actorId := toString operator.id
                  scopes := operator.permissions
                  apiKeyId := none }
            else
              .error
                { statusCode := 403
                  errorCode := "scope_not_allowed"
                  message :=
                    "The selected tenant, project, or environment is not allowed " ++
                      "for this operator."
                  requestId := request.requestId
                  details :=
                    [("tenant_id", .int request.tenantId),
                      ("project_id", request.projectId.elim .none .int),
                      ("environment", request.environment.elim .none .str)] }
      else authenticateKey services request plainKey

/-- The headers of a request. -/
structure Headers where
  authorization : Option String
  consoleSession : Option String := none
  tenantId : Option Int
  projectId : Option Int
  environment : Option String := none
  requestId : Option String

/-- The scopes cover a permission. -/
def Covers (scopes : Finset String) (permission : String) : Prop :=
  "*" ∈ scopes ∨ permission ∈ scopes

instance (scopes : Finset String) (permission : String) : Decidable (Covers scopes permission) :=
  inferInstanceAs (Decidable (_ ∨ _))

variable (headers : Headers) (method path : String)

/-- `require_console_actor`. -/
def requireConsoleActor : Except ErrorResponse AuthenticatedActor :=
  match headers.tenantId with
  | none =>
      .error
        { statusCode := 400
          errorCode := "request_scope_required"
          message := "X-Tenant-Id header is required."
          requestId := headers.requestId
          details := [("required_headers", .list [.str "X-Tenant-Id"])] }
  | some tenantId => do
      let actor ← authenticateApiKey services
        { authorization := headers.authorization
          consoleSession := headers.consoleSession
          tenantId := tenantId
          projectId := headers.projectId
          environment := headers.environment
          requiredScope := "admin:read"
          requestId := headers.requestId }
      if Covers actor.scopes "admin:read" then
        return actor
      throw
        { statusCode := 403
          errorCode := "permission_denied"
          message := "Console admin access is required."
          requestId := headers.requestId
          details := [("required_scope", .str "admin:read")] }

/-- `_required_console_permission`. -/
def requiredConsolePermission : Option String :=
  if upperText method ∈ ["GET", "HEAD", "OPTIONS"] then none
  else if hasPart path "/v1/identity/operators" then some "identity:operator:write"
  else if hasPart path "/v1/identity/roles" then some "identity:role:write"
  else if hasPart path "/v1/identity/permissions" then some "identity:permission:write"
  else if hasPart path "/v1/identity/tenants" || hasPart path "/v1/identity/projects" ||
      hasPart path "/v1/identity/environments" then
    some "identity:scope:write"
  else if hasPart path "/v1/identity/service-accounts" then
    if hasPart path "/api-keys" then some "identity:api-key:write"
    else some "identity:service-account:write"
  else some "admin:write"

/-- `enforce_console_actor`. -/
def enforceConsoleActor : Except ErrorResponse AuthenticatedActor := do
  let actor ← requireConsoleActor services headers
  match requiredConsolePermission method path with
  | none => return actor
  | some required =>
      if Covers actor.scopes required then
        return actor
      throw
        { statusCode := 403
          errorCode := "permission_denied"
          message := "Console write permission is required."
          requestId := headers.requestId
          details := [("required_scope", .str required)] }

/-- The check at the head of a native endpoint: `_auth` of api/native/runs.py and its
copies in the other native modules. -/
def nativeAuth (requiredScope : String) : Except ErrorResponse AuthenticatedActor :=
  match headers.tenantId, headers.projectId with
  | some tenantId, some projectId =>
      authenticateApiKey services
        { authorization := headers.authorization
          tenantId := tenantId
          projectId := some projectId
          requiredScope := requiredScope
          requestId := headers.requestId }
  | _, _ =>
      .error
        { statusCode := 400
          errorCode := "request_scope_required"
          message := "X-Tenant-Id and X-Project-Id headers are required."
          requestId := headers.requestId
          details := [("required_headers", .list [.str "X-Tenant-Id", .str "X-Project-Id"])] }

/-! ## Which actors have the scope -/

/-- The request comes with the session of an operator who may use its tenant, project and
environment. -/
def OnSession (operator : ConsoleOperator) : Prop :=
  ∃ plainKey, plainKeyOf request.authorization request.consoleSession = some plainKey ∧
    startsWith plainKey "sess_" = true ∧
    services.operatorBySession plainKey = .ok (some operator) ∧
    canAccessScope services operator request.tenantId request.projectId request.environment = true

end

variable {services : Services} {request : AuthRequest} {actor : AuthenticatedActor}

/-- The development key has every scope, and an API key is checked for the required one. -/
theorem covers_of_authenticateKey {plainKey : String}
    (h : authenticateKey services request plainKey = .ok actor) :
    Covers actor.scopes request.requiredScope := by
  unfold authenticateKey at h
  simp only at h
  split at h
  · cases h
    exact .inl (Finset.mem_singleton_self _)
  split at h
  · cases h
  split at h
  · rename_i actor' hactor
    cases h
    obtain ⟨_, key, _, _, _, _, _, hscope, hscopes, _⟩ :=
      IdentityStore.authenticate_eq_ok hactor
    exact .inr (hscopes ▸ hscope)
  · cases h

/-- An operator's session is taken with the operator's permissions, whatever they are. -/
theorem authenticateApiKey_of_onSession {operator : ConsoleOperator}
    (h : OnSession services request operator) :
    authenticateApiKey services request = .ok
        { tenantId := request.tenantId
          projectId := request.projectId
          actorType := "operator"
          actorId := toString operator.id
          scopes := operator.permissions
          apiKeyId := none } := by
  obtain ⟨plainKey, hkey, hsession, hoperator, hscope⟩ := h
  unfold authenticateApiKey
  simp only [hkey, hsession, hoperator, hscope, if_true]

/-- Every actor either has the required scope or is an operator on a session. -/
theorem covers_or_onSession (h : authenticateApiKey services request = .ok actor) :
    Covers actor.scopes request.requiredScope ∨
      ∃ operator, OnSession services request operator ∧ actor.scopes = operator.permissions := by
  unfold authenticateApiKey at h
  split at h
  · cases h
  rename_i plainKey hkey
  split at h
  · rename_i hsession
    split at h
    · cases h
    · exact .inl (covers_of_authenticateKey h)
    · rename_i operator hoperator
      split at h
      · rename_i hscope
        cases h
        exact .inr ⟨operator, ⟨plainKey, hkey, hsession, hoperator, hscope⟩, rfl⟩
      · cases h
  · exact .inl (covers_of_authenticateKey h)

/-- The request a native endpoint makes of its headers. -/
def nativeRequest (headers : Headers) (requiredScope : String) (tenantId projectId : Int) :
    AuthRequest where
  authorization := headers.authorization
  tenantId := tenantId
  projectId := some projectId
  requiredScope := requiredScope
  requestId := headers.requestId

theorem nativeAuth_eq_ok {headers : Headers} {requiredScope : String} :
    nativeAuth services headers requiredScope = .ok actor ↔
      ∃ tenantId projectId, headers.tenantId = some tenantId ∧ headers.projectId = some projectId ∧
        authenticateApiKey services (nativeRequest headers requiredScope tenantId projectId)
          = .ok actor := by
  unfold nativeAuth
  cases htenant : headers.tenantId with
  | none => simp
  | some tenantId =>
    cases hproject : headers.projectId with
    | none => simp
    | some projectId => simp [nativeRequest]

/-- The actor of a request has the required scope exactly if the operator does whose
session the request comes with. -/
theorem covers_iff_of_onSession (services : Services) (request : AuthRequest) :
    (∀ actor, authenticateApiKey services request = .ok actor →
        Covers actor.scopes request.requiredScope) ↔
      ∀ operator, OnSession services request operator →
        Covers operator.permissions request.requiredScope := by
  constructor
  · intro h operator hsession
    exact h _ (authenticateApiKey_of_onSession hsession)
  · intro h actor hactor
    rcases covers_or_onSession hactor with hcovers | ⟨operator, hsession, hscopes⟩
    · exact hcovers
    · rw [hscopes]
      exact h operator hsession

/-- `authenticate_api_key` enforces the required scope, and with it the native endpoints
do, exactly on the requests that do not come with the session of an operator who lacks
it. -/
theorem scope_enforced_iff (services : Services) : (∀ request : AuthRequest,
      (∀ actor, authenticateApiKey services request = .ok actor →
          Covers actor.scopes request.requiredScope) ↔
        ∀ operator, OnSession services request operator →
          Covers operator.permissions request.requiredScope) ∧
    (∀ (headers : Headers) (requiredScope : String),
      (∀ actor, nativeAuth services headers requiredScope = .ok actor →
          Covers actor.scopes requiredScope) ↔
        ∀ tenantId projectId operator, headers.tenantId = some tenantId →
          headers.projectId = some projectId →
          OnSession services (nativeRequest headers requiredScope tenantId projectId) operator →
            Covers operator.permissions requiredScope) := by
  refine ⟨covers_iff_of_onSession services, ?_⟩
  intro headers requiredScope
  constructor
  · intro h tenantId projectId operator htenant hproject hsession
    exact h _ (nativeAuth_eq_ok.mpr
      ⟨tenantId, projectId, htenant, hproject, authenticateApiKey_of_onSession hsession⟩)
  · intro h actor hactor
    obtain ⟨tenantId, projectId, htenant, hproject, hauth⟩ := nativeAuth_eq_ok.mp hactor
    have hrequest := (covers_iff_of_onSession services
      (nativeRequest headers requiredScope tenantId projectId)).mpr
    exact hrequest (fun operator => h tenantId projectId operator htenant hproject) actor hauth

/-- An operator with `agent:read` only, on the session `sess_a`. -/
def readerSession : Services where
  operatorBySession token :=
    .ok (if token = "sess_a" then
      some
        { id := 7
          permissions := {"agent:read"}
          allowedScopes := [{ tenantId := some 1, projectId := none, environment := "*" }] }
      else none)
  scopeRecords _ := []
  devApiKey := none
  runtimeMode := some "prod"
  hash := id
  identity := {}
  now := 0

/-- The headers of that operator's request. -/
def readerHeaders : Headers where
  authorization := some "Bearer sess_a"
  tenantId := some 1
  projectId := some 2
  requestId := none

/-- The operator deploys, which needs `agent:deploy`. -/
theorem reader_may_deploy :
    ∃ actor, nativeAuth readerSession readerHeaders "agent:deploy" = .ok actor ∧
      ¬ Covers actor.scopes "agent:deploy" := by
  refine ⟨⟨1, some 2, "operator", "7", {"agent:read"}, none⟩, ?_, by decide⟩
  rfl

/-! ## Scopes that a request leaves out -/

/-- The scopes that `can_access_scope` goes through. -/
def scopesOf (services : Services) (operator : ConsoleOperator) : List AllowedScope :=
  if operator.allowedScopes.isEmpty then services.scopeRecords operator.id
  else operator.allowedScopes

/-- One scope lets the request through. -/
def AllowedScope.Admits (scope : AllowedScope) (tenantId : Int) (projectId : Option Int)
    (environment : Option String) : Prop :=
  idMatches scope.tenantId tenantId = true ∧
    (∀ project ∈ projectId, idMatches scope.projectId project = true) ∧
    ∀ name ∈ environment, environmentMatches scope.environment name = true

section

variable {services : Services} {operator : ConsoleOperator} {tenantId : Int}
  {projectId : Option Int} {environment : Option String}

theorem canAccessScope_iff :
    canAccessScope services operator tenantId projectId environment = true ↔
      ∃ scope ∈ scopesOf services operator, scope.Admits tenantId projectId environment := by
  simp [canAccessScope, scopesOf, AllowedScope.Admits, Option.all_eq_true, and_assoc]

theorem AllowedScope.Admits.of_project_all {scope : AllowedScope}
    (h : scope.Admits tenantId none environment) (hall : scope.projectId = none) :
    scope.Admits tenantId projectId environment :=
  ⟨h.1, fun _ _ => by rw [hall]; rfl, h.2.2⟩

theorem AllowedScope.Admits.of_environment_all {scope : AllowedScope}
    (h : scope.Admits tenantId projectId none) (hall : scope.environment = "*") :
    scope.Admits tenantId projectId environment :=
  ⟨h.1, h.2.1, fun _ _ => by rw [hall]; rfl⟩

/-- A list of scopes that lets every project through has one for all projects: there are
more projects than the list can name. -/
theorem exists_projectId_none (scopes : List AllowedScope)
    (h : ∀ project, ∃ scope ∈ scopes, scope.Admits tenantId (some project) environment) :
    ∃ scope ∈ scopes, scope.Admits tenantId none environment ∧ scope.projectId = none := by
  obtain ⟨project, hfresh⟩ :=
    Infinite.exists_notMem_finset (scopes.filterMap AllowedScope.projectId).toFinset
  obtain ⟨scope, hmem, htenant, hproject, henvironment⟩ := h project
  refine ⟨scope, hmem, ⟨htenant, nofun, henvironment⟩, ?_⟩
  cases hid : scope.projectId with
  | none => rfl
  | some other =>
    have hother := hproject project rfl
    rw [hid] at hother
    have heq : other = project := beq_iff_eq.mp hother
    refine absurd ?_ hfresh
    rw [List.mem_toFinset, List.mem_filterMap]
    exact ⟨scope, hmem, hid.trans (congrArg some heq)⟩

/-- The environment named `*` is let through by a scope for all environments only. -/
theorem exists_environment_all (scopes : List AllowedScope)
    (h : ∀ name, ∃ scope ∈ scopes, scope.Admits tenantId projectId (some name)) :
    ∃ scope ∈ scopes, scope.Admits tenantId projectId none ∧ scope.environment = "*" := by
  obtain ⟨scope, hmem, htenant, hproject, henvironment⟩ := h "*"
  exact ⟨scope, hmem, ⟨htenant, hproject, nofun⟩,
    by simpa [environmentMatches] using henvironment "*" rfl⟩

end

/-- A request that leaves out the project, or the environment, gets no more than the one
that names it, exactly if the scopes that let it through have one among them for all
projects, or for all environments. -/
theorem omission_never_widens_iff (services : Services) (operator : ConsoleOperator)
    (tenantId : Int) (projectId : Option Int) (environment : Option String) :
    ((canAccessScope services operator tenantId none environment = true →
        ∀ project, canAccessScope services operator tenantId (some project) environment = true) ∧
      (canAccessScope services operator tenantId projectId none = true →
        ∀ name, canAccessScope services operator tenantId projectId (some name) = true)) ↔
      (∀ scope ∈ scopesOf services operator, scope.Admits tenantId none environment →
        ∃ other ∈ scopesOf services operator,
          other.Admits tenantId none environment ∧ other.projectId = none) ∧
      (∀ scope ∈ scopesOf services operator, scope.Admits tenantId projectId none →
        ∃ other ∈ scopesOf services operator,
          other.Admits tenantId projectId none ∧ other.environment = "*") := by
  simp only [canAccessScope_iff]
  refine and_congr ⟨fun h scope hmem hscope => ?_, fun h => ?_⟩
    ⟨fun h scope hmem hscope => ?_, fun h => ?_⟩
  · exact exists_projectId_none _ (h ⟨scope, hmem, hscope⟩)
  · rintro ⟨scope, hmem, hscope⟩ project
    obtain ⟨other, hother, hadmits, hall⟩ := h scope hmem hscope
    exact ⟨other, hother, hadmits.of_project_all hall⟩
  · exact exists_environment_all _ (h ⟨scope, hmem, hscope⟩)
  · rintro ⟨scope, hmem, hscope⟩ name
    obtain ⟨other, hother, hadmits, hall⟩ := h scope hmem hscope
    exact ⟨other, hother, hadmits.of_environment_all hall⟩

/-- An operator of one project and one environment. -/
def projectOperator : ConsoleOperator where
  id := 1
  permissions := ∅
  allowedScopes := [{ tenantId := some 1, projectId := some 1, environment := "dev" }]

/-- The operator gets through with neither named, not with another project and not with
another environment. -/
theorem omission_let_through : canAccessScope readerSession projectOperator 1 none none = true ∧
      canAccessScope readerSession projectOperator 1 (some 2) none = false ∧
      canAccessScope readerSession projectOperator 1 none (some "prod") = false := by
  decide

end DimooRun.Api
