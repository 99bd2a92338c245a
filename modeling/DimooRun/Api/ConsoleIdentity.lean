/-
  Api/ConsoleIdentity.lean --- console requests that reach operators, roles and keys.

  Sources: api/auth.py, the operator endpoints;
  api/admin/router.py, the endpoints for roles, permissions, service
  accounts and keys; api/admin/identity_workflows.py.

  The permission a request needs is read off its path. The sessions and the scopes an
  operator may use are given with each request.
-/
import DimooRun.Api.MachineIdentity
import DimooRun.Identity.Console

set_option autoImplicit false

namespace DimooRun.Api

open Foundation Identity Security
open Scheduler (Time)

/-- The console tables, and the service accounts with their keys. -/
structure ConsoleState where
  console : ConsoleStore
  identity : IdentityStore

/-- The environment variables, and the digest of keys. -/
structure Deployment where
  bootstrap : ConsoleStore.Bootstrap := {}
  devApiKey : Option String := none
  runtimeMode : Option String := none
  hash : String → String

/-- What stands before a method of the identity service that changes nothing here but
runs `ensure_bootstrap_operator`. -/
inductive Guard where
  /-- login and the bootstrap status -/
  | none
  /-- `console_read_actor` -/
  | reader
  /-- `require_console_actor` -/
  | console
  /-- `require_console_actor`, then `identity:operator:write` -/
  | operatorWrite
  deriving DecidableEq

/-- An item of the payload of a role update. -/
inductive RoleField where
  | name (name : String)
  | status (status : String)
  | isDeleted (isDeleted : Bool)
  | permissions (codes : List String)
  | other

/-- An item of the payload of a permission update. -/
inductive PermissionField where
  | code (code : String)
  | status (status : String)
  | isDeleted (isDeleted : Bool)
  | other

/-- A console request. -/
inductive ConsoleCall where
  | useOperators (guard : Guard)
  | createOperator (data : ConsoleStore.NewOperator)
  | updateOperator (id : Nat) (data : ConsoleStore.OperatorUpdate)
  | deleteOperator (id : Nat)
  | createRole (name status : Option String)
  | updateRole (id : Nat) (fields : List RoleField)
  | deleteRole (id : Nat)
  | createPermission (code status : Option String)
  | updatePermission (id : Nat) (fields : List PermissionField)
  | deletePermission (id : Nat)
  | previewRoleMatrix (roleId : Nat) (codes : List String)
  | applyRoleMatrix (roleId : Nat) (codes : List String) (auditReason : Option String)
  | machine (call : AdminCall)
  /-- any other request: it reaches none of these tables -/
  | other (method path : String)

/-- A request with its headers, and what the session store says when it comes. -/
structure ConsoleRequest where
  headers : Headers
  sessions : String → Except ConsoleIdentityUnavailableError (Option Nat)
  scopes : Nat → List AllowedScope
  now : Time
  call : ConsoleCall

/-- The path of a service account. -/
def accountPath (start : String) (id : Nat) : String := start ++ toString id

/-- The path of a key of a service account, with what follows. -/
def keyPath (start : String) (id keyId : Nat) (rest : String) : String :=
  accountPath start id ++ "/api-keys/" ++ toString keyId ++ rest

/-- Method and path of the endpoints for service accounts and keys. -/
def machineRoute : AdminCall → String × String
  | .createAccount _ _ => ("POST", "/v1/identity/service-accounts")
  | .updateAccount id _ => ("PATCH", accountPath "/v1/identity/service-accounts/" id)
  | .deleteAccount id => ("DELETE", accountPath "/v1/identity/service-accounts/" id)
  | .createKey id _ _ =>
      ("POST", accountPath "/v1/identity/service-accounts/" id ++ "/api-keys")
  | .disableKey id keyId =>
      ("POST", keyPath "/v1/identity/service-accounts/" id keyId "/disable")
  | .enableKey id keyId => ("POST", keyPath "/v1/identity/service-accounts/" id keyId "/enable")
  | .deleteKey id keyId => ("DELETE", keyPath "/v1/identity/service-accounts/" id keyId "")
  | .rotateKey id keyId _ _ _ =>
      ("POST", keyPath "/v1/identity/workflows/service-accounts/" id keyId "/rotate")
  | .forceExpireKey id keyId _ _ =>
      ("POST", keyPath "/v1/identity/workflows/service-accounts/" id keyId "/force-expire")

/-- Method and path of a request to the routers that use `enforce_console_actor`. -/
def route : ConsoleCall → String × String
  | .createRole _ _ => ("POST", "/v1/identity/roles")
  | .updateRole id _ => ("PATCH", "/v1/identity/roles/" ++ toString id)
  | .deleteRole id => ("DELETE", "/v1/identity/roles/" ++ toString id)
  | .createPermission _ _ => ("POST", "/v1/identity/permissions")
  | .updatePermission id _ => ("PATCH", "/v1/identity/permissions/" ++ toString id)
  | .deletePermission id => ("DELETE", "/v1/identity/permissions/" ++ toString id)
  | .previewRoleMatrix roleId _ =>
      ("POST", "/v1/identity/workflows/roles/" ++ toString roleId ++ "/preview")
  | .applyRoleMatrix roleId _ _ =>
      ("POST", "/v1/identity/workflows/roles/" ++ toString roleId ++ "/apply")
  | .machine call => machineRoute call
  | .other method path => (method, path)
  | .useOperators _ => ("GET", "/v1/identity/operators")
  | .createOperator _ => ("POST", "/v1/identity/operators")
  | .updateOperator id _ => ("PATCH", "/v1/identity/operators/" ++ toString id)
  | .deleteOperator id => ("DELETE", "/v1/identity/operators/" ++ toString id)

/-- The operator of a live session: `get_operator_by_session` after the session was found. -/
def hydrate (store : ConsoleStore) (scopes : Nat → List AllowedScope) (id : Nat) :
    Option ConsoleOperator :=
  match store.operators.get? id with
  | none => none
  | some operator =>
      if operator.status ≠ "active" ∨ operator.isDeleted = true then none
      else
        some
          { id := id
            permissions := store.operatorPermissionCodes id
            allowedScopes := scopes id }

section

variable (deployment : Deployment) (caller : Caller) (headers : Headers) (call : ConsoleCall)
  (state : ConsoleState)

/-- What a request finds. -/
def servicesFor (request : ConsoleRequest) : Services where
  operatorBySession token :=
    match request.sessions token with
    | .error e => .error e
    | .ok none => .ok none
    | .ok (some id) => .ok (hydrate state.console request.scopes id)
  scopeRecords := request.scopes
  devApiKey := deployment.devApiKey
  runtimeMode := deployment.runtimeMode
  hash := deployment.hash
  identity := state.identity
  now := request.now

/-- What a request is answered with. -/
inductive ConsoleReply where
  | refused (response : ErrorResponse)
  /-- an exception that no endpoint catches -/
  | raised
  | done
  | created (id : Nat)
  | preview (preview : ConsoleStore.RoleMatrixPreview)
  | applied (roleId : Nat) (preview : ConsoleStore.RoleMatrixPreview)
  | admin (result : Except IdentityError AdminReply)

/-- `_require_console_permission` of api/auth.py. -/
def requireConsolePermission (actor : AuthenticatedActor)
    (permission : String) : Except ErrorResponse AuthenticatedActor :=
  if Covers actor.scopes permission then .ok actor
  else
    .error
      { statusCode := 403
        errorCode := "permission_denied"
        message := "Console write permission is required."
        requestId := headers.requestId
        details := [("required_scope", .str permission)] }

/-- The check of the operator endpoints. -/
def passes (services : Services) (headers : Headers) : Guard → Except ErrorResponse Unit
  | .none => .ok ()
  | .reader => (nativeAuth services headers "agent:read").map fun _ => ()
  | .console => (requireConsoleActor services headers).map fun _ => ()
  | .operatorWrite => do
      let actor ← requireConsoleActor services headers
      (requireConsolePermission headers actor "identity:operator:write").map fun _ => ()

/-- `_scope_not_found` of the admin router. -/
def resourceNotFound (collection : String) (id : Nat) : ErrorResponse where
  statusCode := 404
  errorCode := "resource_not_found"
  message := "Resource was not found."
  requestId := headers.requestId
  details := [("collection", .str collection), ("id", .int id)]

/-- `_scope_conflict`. -/
def scopeConflict (collection : String) : ErrorResponse where
  statusCode := 409
  errorCode := "resource_conflict"
  message := "Resource violates a unique scope constraint."
  requestId := headers.requestId
  details := [("collection", .str collection)]

/-- `operator_not_found`. -/
def operatorNotFound (id : Nat) : ErrorResponse where
  statusCode := 404
  errorCode := "operator_not_found"
  message := "Operator was not found."
  requestId := headers.requestId
  details := [("operator_id", .int id)]

/-! ## Operators -/

/-- A method of the identity service. -/
def withBootstrap (store : ConsoleStore)
    (method : ConsoleStore → ConsoleReply × ConsoleStore) : ConsoleReply × ConsoleStore :=
  match ConsoleStore.ensureBootstrapOperator deployment.bootstrap store with
  | .error _ => (.raised, store)
  | .ok store => method store

/-- `_scope_validation_error`. -/
def scopeValidationError (errorCode : String) : ErrorResponse where
  statusCode := 400
  errorCode := errorCode
  message := "Operator scope must reference an existing tenant and project."
  requestId := headers.requestId
  details := []

/-- `create_operator`. -/
def createOperator (data : ConsoleStore.NewOperator) (store : ConsoleStore) :
    ConsoleReply × ConsoleStore :=
  match store.createOperator data with
  | .ok (id, store') => (.created id, store')
  | .error (.valueError text) =>
      if startsWith text "scope_" then (.refused (scopeValidationError headers text), store)
      else
        (.refused
          { statusCode := 409
            errorCode := "operator_email_exists"
            message := "Operator email already exists."
            requestId := headers.requestId
            details := [("email", .str data.email)] }, store)
  | .error _ => (.raised, store)

section

variable (id : Nat) (data : ConsoleStore.OperatorUpdate) (store : ConsoleStore)

/-- `update_operator`. -/
def updateOperator : ConsoleReply × ConsoleStore :=
  match store.updateOperator id data with
  | .ok none => (.refused (operatorNotFound headers id), store)
  | .ok (some store') => (.done, store')
  | .error (.valueError text) =>
      if startsWith text "scope_" then (.refused (scopeValidationError headers text), store)
      else (.raised, store)
  | .error _ => (.raised, store)

/-- `delete_operator`. -/
def deleteOperator : ConsoleReply × ConsoleStore :=
  match store.deleteOperator id with
  | none => (.refused (operatorNotFound headers id), store)
  | some store' => (.done, store')

/-! ## Roles and permissions -/

/-- `_create_console_identity_resource`, of a role. -/
def createRole (name status : Option String) (store : ConsoleStore) : ConsoleReply × ConsoleStore :=
  let role : ConsoleRole := { name := textOr name "role", status := textOr status "active" }
  if (store.roles.find? fun row => row.name == role.name).isSome then
    (.refused (scopeConflict headers "roles"), store)
  else (.created store.roles.nextId, { store with roles := store.roles.insert role })

/-- A role gets a permission if there is one with the code. -/
def grantKnown (roleId : Nat) (code : String) : ConsoleStore :=
  match h : store.findCode code with
  | none => store
  | some found =>
      store.grant roleId found.1 (by
        obtain ⟨hget, _⟩ := Table.find?_eq_some h
        rw [hget]
        rfl)

/-- One item of the payload of a role update. -/
def assignRole : RoleField → ConsoleStore
  | .name name =>
      { store with roles := store.roles.modify id fun role => { role with name := name } }
  | .status status =>
      { store with roles := store.roles.modify id fun role => { role with status := status } }
  | .isDeleted isDeleted =>
      { store with
        roles := store.roles.modify id fun role => { role with isDeleted := isDeleted } }
  | .permissions codes =>
      codes.foldl (fun store code => grantKnown store id code) (store.clearRole id)
  | .other => store

/-- `_update_console_identity_resource`, of a role; the commit checks the unique
constraints. -/
def updateRole (fields : List RoleField) (store : ConsoleStore) : ConsoleReply × ConsoleStore :=
  match store.roles.get? id with
  | none => (.refused (resourceNotFound headers "roles" id), store)
  | some role =>
      if role.isDeleted then (.refused (resourceNotFound headers "roles" id), store)
      else
        let store' := fields.foldl (assignRole id) store
        if (store'.roles.rows.map ConsoleRole.name).Nodup ∧ store'.rolePermissions.Nodup then
          (.done, store')
        else (.refused (scopeConflict headers "roles"), store)

/-- `_delete_console_identity_resource`, of a role. -/
def deleteRole : ConsoleReply × ConsoleStore :=
  match store.roles.get? id with
  | none => (.refused (resourceNotFound headers "roles" id), store)
  | some role =>
      if role.isDeleted then (.refused (resourceNotFound headers "roles" id), store)
      else
        (.done,
          { store with
            roles := store.roles.modify id fun role =>
              { role with status := "deleted", isDeleted := true } })

/-- `_create_console_identity_resource`, of a permission. -/
def createPermission (code status : Option String) (store : ConsoleStore) :
    ConsoleReply × ConsoleStore :=
  let permission : ConsolePermission :=
    { code := textOr code "permission:use", status := textOr status "active" }
  if (store.findCode permission.code).isSome then
    (.refused (scopeConflict headers "permissions"), store)
  else (.created store.permissions.nextId, store.insertPermission permission)

/-- One item of the payload of a permission update. -/
def assignPermission (permission : ConsolePermission) : PermissionField → ConsolePermission
  | .code code => { permission with code := code }
  | .status status => { permission with status := status }
  | .isDeleted isDeleted => { permission with isDeleted := isDeleted }
  | .other => permission

/-- Assignments to a permission that is not deleted. -/
def changePermission (f : ConsolePermission → ConsolePermission)
    (store : ConsoleStore) : ConsoleReply × ConsoleStore :=
  match store.permissions.get? id with
  | none => (.refused (resourceNotFound headers "permissions" id), store)
  | some permission =>
      if permission.isDeleted then (.refused (resourceNotFound headers "permissions" id), store)
      else
        let store' := store.modifyPermission id f
        if (store'.permissions.rows.map ConsolePermission.code).Nodup then (.done, store')
        else (.refused (scopeConflict headers "permissions"), store)

/-- `_update_console_identity_resource`, of a permission. -/
def updatePermission (fields : List PermissionField)
    (store : ConsoleStore) : ConsoleReply × ConsoleStore :=
  changePermission headers id (fun permission => fields.foldl assignPermission permission) store

/-- `_delete_console_identity_resource`, of a permission. -/
def deletePermission : ConsoleReply × ConsoleStore :=
  changePermission headers id
    (fun permission => { permission with status := "deleted", isDeleted := true }) store

end

/-! ## The role matrix -/

/-- `int(actor.actor_id) if actor.actor_type == "operator" else None`. -/
def currentOperatorId (actor : AuthenticatedActor) : Option Nat :=
  if actor.actorType = "operator" then (parseInt actor.actorId.toList).map Int.toNat else none

section

variable (roleId : Nat) (codes : List String) (auditReason : Option String) (store : ConsoleStore)

/-- `role_not_found`. -/
def roleNotFound : ErrorResponse :=
  notFound caller "role_not_found" "Role was not found." roleId

/-- `preview_role_matrix`. -/
def previewRoleMatrix : ConsoleReply :=
  match store.roleMatrixPreview roleId codes (currentOperatorId caller.actor) with
  | .error _ => .refused (roleNotFound caller roleId)
  | .ok preview => .preview preview

/-- `apply_role_matrix`. -/
def applyRoleMatrix : ConsoleReply × ConsoleStore :=
  if reasonMissing auditReason then
    (.refused (auditReasonRequired caller "Audit reason is required for role permission changes."),
      store)
  else
    match store.roleMatrixPreview roleId codes (currentOperatorId caller.actor) with
    | .error _ => (.refused (roleNotFound caller roleId), store)
    | .ok preview =>
        if preview.warnings.any fun warning =>
            (PyDict.get warning "code").str? == some "self_lockout_risk" then
          (.refused
            { statusCode := 409
              errorCode := "self_lockout_blocked"
              message := "Current operator cannot remove permissions required " ++
                "for identity governance."
              requestId := caller.requestId
              details := [("warnings", .list (preview.warnings.map .dict))] }, store)
        else
          (.applied roleId preview, store.replaceRolePermissions roleId preview.previewPermissions)

end

/-! ## Requests -/

/-- A request that passed `enforce_console_actor`. -/
def handle : ConsoleReply × ConsoleState :=
  let onConsole (result : ConsoleReply × ConsoleStore) : ConsoleReply × ConsoleState :=
    (result.1, { state with console := result.2 })
  match call with
  | .createRole name status => onConsole (createRole headers name status state.console)
  | .updateRole id fields => onConsole (updateRole headers id fields state.console)
  | .deleteRole id => onConsole (deleteRole headers id state.console)
  | .createPermission code status =>
      onConsole (createPermission headers code status state.console)
  | .updatePermission id fields => onConsole (updatePermission headers id fields state.console)
  | .deletePermission id => onConsole (deletePermission headers id state.console)
  | .previewRoleMatrix roleId codes =>
      (previewRoleMatrix caller roleId codes state.console, state)
  | .applyRoleMatrix roleId codes auditReason =>
      onConsole (applyRoleMatrix caller roleId codes auditReason state.console)
  | .machine call =>
      let result := execAdmin deployment.hash state.identity (caller, call)
      (.admin result.1, { state with identity := result.2 })
  | _ => (.done, state)

/-- The operator endpoints, behind their own checks. -/
def execOperators (request : ConsoleRequest)
    (guard : Guard) (method : ConsoleStore → ConsoleReply × ConsoleStore) :
    ConsoleReply × ConsoleState :=
  match passes (servicesFor deployment state request) request.headers guard with
  | .error response => (.refused response, state)
  | .ok _ =>
      let result := withBootstrap deployment state.console method
      (result.1, { state with console := result.2 })

/-- The requests behind `enforce_console_actor`. -/
def execRouted (request : ConsoleRequest) (call : ConsoleCall) : ConsoleReply × ConsoleState :=
  match enforceConsoleActor (servicesFor deployment state request) request.headers
      (route call).1 (route call).2 with
  | .error response => (.refused response, state)
  | .ok actor => handle deployment ⟨actor, request.headers.requestId⟩ request.headers call state

end

/-- One request. -/
def execConsole (deployment : Deployment) (state : ConsoleState) (request : ConsoleRequest) :
    ConsoleReply × ConsoleState :=
  match request.call with
  | .useOperators guard =>
      execOperators deployment state request guard fun store => (.done, store)
  | .createOperator data =>
      execOperators deployment state request .operatorWrite (createOperator request.headers data)
  | .updateOperator id data =>
      execOperators deployment state request .operatorWrite (updateOperator request.headers id data)
  | .deleteOperator id =>
      execOperators deployment state request .operatorWrite (deleteOperator request.headers id)
  | call => execRouted deployment state request call

end DimooRun.Api
