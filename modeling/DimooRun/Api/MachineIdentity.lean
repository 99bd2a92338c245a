/-
  Api/MachineIdentity.lean --- the admin endpoints for service accounts and their keys.

  Sources: api/admin/router.py, the endpoints under
  `/identity/service-accounts`, and api/admin/identity_workflows.py,
  rotation and forced expiry.

  An endpoint answers, possibly with an error response, or raises. Whatever order the
  endpoints are called in, a key that is accepted has no more rights than its owner.
-/
import DimooRun.Api.Dependencies

set_option autoImplicit false

namespace DimooRun.Api

open Foundation Identity Security
open Scheduler (Time)
open IdentityStore

/-- The actor of a request, and its id. -/
structure Caller where
  actor : AuthenticatedActor
  requestId : Option String

/-- The payload of the service account endpoints. -/
structure AccountPayload where
  tenantId : Option Int := none
  projectId : Option Int := none
  name : Option String := none
  permissions : Option (List String) := none
  status : Option String := none

/-- The payload of key creation and rotation. -/
structure KeyPayload where
  name : Option String := none
  scopes : Option (List String) := none
  expiresAt : Option Time := none

/-- What the endpoints answer. -/
inductive AdminReply where
  | account (id : Nat) (account : ServiceAccount)
  | key (id : Nat)
  | newKey (plainKey : String) (id : Nat) (key : APIKey)
  | rotated (plainKey : String) (id : Nat) (key : APIKey) (rotatedFrom : Nat × APIKey)
  | refused (response : ErrorResponse)

/-- `data.get(field) or default` of a text. -/
def textOr (text : Option String) (default : String) : String :=
  match text with
  | none => default
  | some text => if text = "" then default else text

/-- `data.get(field) or default` of an id. -/
def idOr (id : Option Int) (default : Option Int) : Option Int :=
  match id with
  | none => default
  | some id => if id = 0 then default else some id

/-- `data.get(field) or default` of a list. -/
def listOr (list : Option (List String)) (default : Finset String) : Finset String :=
  match list with
  | none => default
  | some [] => default
  | some list => list.toFinset

/-- `_actor_can_access_target`. -/
def actorCanAccessTarget (actor : AuthenticatedActor) (tenantId : Int) (projectId : Option Int) :
    Bool :=
  if "*" ∈ actor.scopes then true
  else if actor.tenantId ≠ tenantId then false
  else
    match actor.projectId, projectId with
    | some ofActor, some target => ofActor == target
    | _, _ => true

section

variable (hash : String → String) (caller : Caller)

/-- `_scope_denied`. -/
def scopeDenied (tenantId : Int) (projectId : Option Int) : ErrorResponse where
  statusCode := 403
  errorCode := "scope_not_allowed"
  message := "The target tenant or project is not allowed for this operator."
  requestId := caller.requestId
  details := [("tenant_id", .int tenantId), ("project_id", projectId.elim .none .int)]

/-- `_machine_identity_not_found`. -/
def machineIdentityNotFound (collection : String) (id : Nat) : ErrorResponse where
  statusCode := 404
  errorCode := "resource_not_found"
  message := "Resource was not found."
  requestId := caller.requestId
  details := [("collection", .str collection), ("id", .int id)]

/-- `_not_found` of the workflows. -/
def notFound (errorCode message : String) (id : Nat) : ErrorResponse where
  statusCode := 404
  errorCode := errorCode
  message := message
  requestId := caller.requestId
  details := [("id", .int id)]

/-- The answer to a missing audit reason. -/
def auditReasonRequired (message : String) : ErrorResponse where
  statusCode := 400
  errorCode := "audit_reason_required"
  message := message
  requestId := caller.requestId
  details := [("field", .str "audit_reason")]

/-- `not (x_audit_reason or "").strip()`. -/
def reasonMissing (auditReason : Option String) : Bool := stripText (auditReason.getD "") == ""

/-- Endpoints over the accounts and keys. -/
abbrev Endpoint : Type := EStateM IdentityError IdentityStore AdminReply

/-! ## Service accounts -/

/-- `create_identity_service_account`. -/
def createServiceAccount (scopes : ScopeTables) (data : AccountPayload) :
    Endpoint := do
  let tenantId := (idOr data.tenantId none).getD caller.actor.tenantId
  match idOr data.projectId caller.actor.projectId with
  | none =>
      return .refused
        { statusCode := 400
          errorCode := "project_scope_required"
          message := "A project scope is required to create a service account."
          requestId := caller.requestId
          details := [] }
  | some projectId =>
      if !actorCanAccessTarget caller.actor tenantId (some projectId) then
        return .refused (scopeDenied caller tenantId (some projectId))
      let store ← get
      let permissions := listOr data.permissions {"agent:read"}
      match ServiceAccountRegistry.create store.accounts scopes tenantId (some projectId)
          (textOr data.name "Service Account") permissions caller.actor.actorId with
      | .error e => throw (.keyError e.id)
      | .ok (id, accounts) =>
          set { store with accounts := accounts }
          match accounts.get? id with
          | none => throw (.keyError id)
          | some account => return .account id account

/-- The account of an endpoint, or the refusal. -/
def findAccount (store : IdentityStore) (id : Nat) (missing : ErrorResponse) :
    Except ErrorResponse ServiceAccount :=
  match ServiceAccountRegistry.get store.accounts id with
  | .error _ => .error missing
  | .ok account =>
      if actorCanAccessTarget caller.actor account.tenantId account.projectId then .ok account
      else .error (scopeDenied caller account.tenantId account.projectId)

section

variable (id : Nat)

/-- An update of the registry, which raises `KeyError` if the account is gone. -/
def updateAccount (name : Option String) (permissions : Option (List String))
    (status : Option String) : EStateM IdentityError IdentityStore ServiceAccount := do
  let store ← get
  match ServiceAccountRegistry.update store.accounts id name (permissions.map List.toFinset)
      status with
  | .error e => throw (.keyError e.id)
  | .ok (account, accounts) =>
      set { store with accounts := accounts }
      return account

/-- A loop over the keys of an account as they are now. -/
def disableKeysOf (p : APIKey → Bool) : EStateM IdentityError IdentityStore Unit := do
  let store ← get
  disableEach p (store.listKeys "service_account" id)

/-- `_disable_api_keys_outside_service_account_permissions`. -/
def disableApiKeysOutsidePermissions (record : ServiceAccount) :
    EStateM IdentityError IdentityStore Unit :=
  disableKeysOf id fun key => !(key.scopes ⊆ record.permissions : Bool)

/-- `update_identity_service_account`. -/
def updateServiceAccount (data : AccountPayload) : Endpoint := do
  let store ← get
  match findAccount caller store id (machineIdentityNotFound caller "service_accounts" id) with
  | .error response => return .refused response
  | .ok record =>
      match data.status with
      | some status =>
          let record ← updateAccount id data.name data.permissions (some status)
          if record.status ≠ "active" then
            disableKeysOf id fun _ => true
          else if data.permissions.isSome then
            disableApiKeysOutsidePermissions id record
          return .account id record
      | none =>
          if data.name.isSome || data.permissions.isSome then
            let record ← updateAccount id data.name data.permissions none
            if data.permissions.isSome then
              disableApiKeysOutsidePermissions id record
            return .account id record
          return .account id record

/-- `delete_identity_service_account`. -/
def deleteServiceAccount : Endpoint := do
  let store ← get
  match findAccount caller store id (machineIdentityNotFound caller "service_accounts" id) with
  | .error response => return .refused response
  | .ok _ =>
      match ServiceAccountRegistry.delete store.accounts id with
      | .error e => throw (.keyError e.id)
      | .ok (record, accounts) =>
          set { store with accounts := accounts }
          disableKeysOf id fun _ => true
          return .account id record

/-! ## Keys -/

/-- `create_identity_service_account_api_key`. -/
def createServiceAccountApiKey (data : KeyPayload) (token : String) : Endpoint := do
  let store ← get
  match findAccount caller store id (machineIdentityNotFound caller "service_accounts" id) with
  | .error response => return .refused response
  | .ok owner =>
      let result ← attempt (createKey hash
        { tenantId := owner.tenantId
          projectId := owner.projectId
          name := textOr data.name "API Key"
          ownerType := "service_account"
          ownerId := id
          scopes := listOr data.scopes ∅
          createdBy := caller.actor.actorId
          expiresAt := data.expiresAt
          token := token })
      match result with
      | .ok (plainKey, keyId, key) => return .newKey plainKey keyId key
      | .error (.apiKey (.scope text)) =>
          return .refused
            { statusCode := 403
              errorCode := text
              message := "API key scopes must be a subset of the service account permissions."
              requestId := caller.requestId
              details := [("service_account_id", .int id)] }
      | .error e => throw e

end

/-- `_get_service_account_api_key`. -/
def getServiceAccountApiKey (store : IdentityStore) (id keyId : Nat) : Option APIKey :=
  ((store.listKeys "service_account" id).find? fun e => e.1 == keyId).map Prod.snd

/-- The key of an endpoint, or the refusal. -/
def findKey (store : IdentityStore) (id keyId : Nat) : Except ErrorResponse APIKey :=
  match getServiceAccountApiKey store id keyId with
  | none => .error (machineIdentityNotFound caller "api_keys" keyId)
  | some record =>
      if actorCanAccessTarget caller.actor record.tenantId record.projectId then .ok record
      else .error (scopeDenied caller record.tenantId record.projectId)

variable (id keyId : Nat) (data : KeyPayload) (auditReason : Option String)

/-- `disable_identity_service_account_api_key`. -/
def disableServiceAccountApiKey : Endpoint := do
  let store ← get
  match findKey caller store id keyId with
  | .error response => return .refused response
  | .ok _ =>
      disableKey keyId
      return .key keyId

/-- `enable_identity_service_account_api_key`. -/
def enableServiceAccountApiKey : Endpoint := do
  let store ← get
  match findKey caller store id keyId with
  | .error response => return .refused response
  | .ok _ =>
      let refusal (statusCode : Nat) (errorCode : String) : ErrorResponse :=
        { statusCode := statusCode
          errorCode := errorCode
          message := "API key cannot be enabled for the current service account permissions."
          requestId := caller.requestId
          details := [("service_account_id", .int id), ("api_key_id", .int keyId)] }
      match ← attempt (enableKey keyId) with
      | .ok _ => return .key keyId
      | .error (.apiKey e) => return .refused (refusal 403 e.text)
      | .error (.keyError _) => return .refused (refusal 404 "api_key_not_found")
      | .error .integrity => throw .integrity

/-- `delete_identity_service_account_api_key`. -/
def deleteServiceAccountApiKey : Endpoint := do
  let store ← get
  match findKey caller store id keyId with
  | .error response => return .refused response
  | .ok _ =>
      deleteKey keyId
      return .key keyId

/-- `rotate_service_account_api_key`. -/
def rotateServiceAccountApiKey (token : String) : Endpoint := do
  if reasonMissing auditReason then
    return .refused (auditReasonRequired caller "Audit reason is required for API key rotation.")
  let store ← get
  match findAccount caller store id
      (notFound caller "service_account_not_found" "Service account was not found." id) with
  | .error response => return .refused response
  | .ok _ =>
      match getServiceAccountApiKey store id keyId with
      | none =>
          return .refused (notFound caller "api_key_not_found" "API key was not found." keyId)
      | some current =>
          let (plainKey, newId, rotated) ← createKey hash
            { tenantId := current.tenantId
              projectId := current.projectId
              name := textOr data.name (current.name ++ "-rotated")
              ownerType := current.ownerType
              ownerId := current.ownerId
              scopes := listOr data.scopes current.scopes
              createdBy := caller.actor.actorId
              expiresAt := data.expiresAt.or current.expiresAt
              token := token }
          disableKey keyId
          return .rotated plainKey newId rotated (keyId, current)

/-- `force_expire_service_account_api_key`. The key need not be one of the account's. -/
def forceExpireServiceAccountApiKey (now : Time) : Endpoint := do
  if reasonMissing auditReason then
    return .refused (auditReasonRequired caller "Audit reason is required for API key expiry.")
  let store ← get
  match findAccount caller store id
      (notFound caller "service_account_not_found" "Service account was not found." id) with
  | .error response => return .refused response
  | .ok _ =>
      match ← attempt (expireKey keyId now) with
      | .ok _ => return .key keyId
      | .error (.keyError _) =>
          return .refused (notFound caller "api_key_not_found" "API key was not found." keyId)
      | .error e => throw e

end

/-! ## The endpoints keep the store sound -/

section

open IdentityStore (KeepsSound)

variable {caller : Caller} {store : IdentityStore} {id keyId : Nat} {account : ServiceAccount}
  {key : APIKey}

theorem findAccount_eq_ok {missing : ErrorResponse}
    (h : findAccount caller store id missing = .ok account) :
    ServiceAccountRegistry.get store.accounts id = .ok account ∧
      actorCanAccessTarget caller.actor account.tenantId account.projectId = true := by
  unfold findAccount at h
  split at h
  · cases h
  · rename_i account' haccount
    split at h
    · rename_i haccess
      cases h
      exact ⟨haccount, haccess⟩
    · cases h

theorem getServiceAccountApiKey_eq_some (h : getServiceAccountApiKey store id keyId = some key) :
    store.keys.get? keyId = some key ∧ key.ownerType = "service_account" ∧ key.ownerId = id := by
  obtain ⟨⟨foundId, key'⟩, hfind, rfl⟩ := Option.map_eq_some_iff.mp h
  have hid := List.find?_some hfind
  simp only [beq_iff_eq] at hid
  subst hid
  have hmem := mem_listKeys.mp (List.mem_of_find?_eq_some hfind)
  exact ⟨hmem.1, hmem.2.2⟩

theorem findKey_eq_ok (h : findKey caller store id keyId = .ok key) :
    store.keys.get? keyId = some key ∧ key.ownerType = "service_account" ∧ key.ownerId = id := by
  unfold findKey at h
  split at h
  · cases h
  · rename_i key' hkey
    split at h
    · cases h
      exact getServiceAccountApiKey_eq_some hkey
    · cases h

section

variable {R : IdentityStore → IdentityStore → Prop} [Std.Refl R] [IsTrans IdentityStore R]

/-- An endpoint that first looks for an account moves the store as what follows does. -/
theorem moves_findAccount {missing : ErrorResponse} {rest : ServiceAccount → Endpoint}
    (h : ∀ account, Moves R (rest account)) :
    Moves R (do
      let store ← get
      match findAccount caller store id missing with
      | .error response => return .refused response
      | .ok account => rest account : Endpoint) := by
  refine Moves.get.bind fun store => ?_
  split
  · exact Moves.pure _
  · exact h _

theorem moves_findKey {rest : Endpoint} (h : Moves R rest) : Moves R (do
      let store ← get
      match findKey caller store id keyId with
      | .error response => return .refused response
      | .ok _ => rest : Endpoint) := by
  refine Moves.get.bind fun store => ?_
  split
  · exact Moves.pure _
  · exact h

end

variable (caller : Caller)

theorem keepsSound_createServiceAccount (scopes : ScopeTables)
    (data : AccountPayload) : Moves KeepsSound (createServiceAccount caller scopes data) := by
  intro store hsound
  unfold createServiceAccount
  cases idOr data.projectId caller.actor.projectId with
  | none => exact hsound
  | some projectId =>
    simp only
    split
    · exact hsound
    · simp only [EStateM.run_bind, EStateM.run_get]
      split
      · exact hsound
      · rename_i id accounts hcreate
        obtain ⟨account, rfl⟩ := ServiceAccountRegistry.create_eq_ok hcreate
        have hnext := sound_insert_account hsound account
        split <;> exact hnext

/-- A change to an account, followed by the loop over its keys. -/
theorem sound_disableKeysOf (hsound : store.Sound)
    (haccount : store.accounts.get? id = some account) (f : ServiceAccount → ServiceAccount)
    (p : APIKey → Bool)
    (hp : ∀ key : APIKey, p key = false → account.Live → key.scopes ⊆ account.permissions →
      (f account).Live ∧ key.scopes ⊆ (f account).permissions) :
    IdentityStore.Sound (endState ((disableKeysOf id p).run
      { store with accounts := store.accounts.modify id f })) := by
  unfold disableKeysOf
  refine sound_disableEach p _ _ (fun e hmem => ?_) fun keyId key hget hlive => ?_
  · rw [(mem_listKeys.mp hmem).1]
    rfl
  · by_cases hpick : key.ownerId = id ∧ p key = true
    · have howner := (hsound keyId key hget hlive).1
      exact .inr ⟨mem_listKeys.mpr ⟨hget, hlive.1, howner, hpick.1⟩, hpick.2⟩
    · left
      refine backed_modify_account hsound haccount f hget hlive ?_
      intro howned
      exact hp key (by simpa [howned] using hpick)

theorem run_updateAccount (haccount : ServiceAccountRegistry.get store.accounts id = .ok account)
    (name : Option String) (permissions : Option (List String)) (status : Option String) :
    (updateAccount id name permissions status).run store =
      .ok (ServiceAccountRegistry.assign name (permissions.map List.toFinset) status account)
        { store with
          accounts := store.accounts.modify id
            (ServiceAccountRegistry.assign name (permissions.map List.toFinset) status) } := by
  unfold updateAccount ServiceAccountRegistry.update
  simp only [EStateM.run_bind, EStateM.run_get, haccount]
  rfl

/-- An update that leaves a live account active, followed by the loop over the keys that the
permissions, if they are given, no longer contain. -/
theorem sound_update (hsound : store.Sound) (hget : store.accounts.get? id = some account)
    (name : Option String) (permissions : Option (List String)) (status : Option String)
    (hstatus : account.Live → status.getD account.status = "active") (reply : AdminReply) :
    let f := ServiceAccountRegistry.assign name (permissions.map List.toFinset) status
    IdentityStore.Sound (endState (EStateM.run (do
      if permissions.isSome then
        disableApiKeysOutsidePermissions id (f account)
      return reply : Endpoint) { store with accounts := store.accounts.modify id f })) := by
  intro f
  have hactive (hlive : account.Live) : (f account).Live := ⟨hlive.1, hstatus hlive⟩
  split
  · rw [endState_run_bind_pure]
    refine sound_disableKeysOf hsound hget _ _ ?_
    intro key hpass hlive _
    exact ⟨hactive hlive, by simpa using hpass⟩
  · rename_i hnone
    rw [Option.not_isSome_iff_eq_none] at hnone
    refine sound_modify_account hsound hget _ ?_
    intro hlive
    refine ⟨hactive hlive, ?_⟩
    simp [f, ServiceAccountRegistry.assign, hnone]

theorem keepsSound_updateServiceAccount (id : Nat) (data : AccountPayload) :
    Moves KeepsSound (updateServiceAccount caller id data) := by
  intro store hsound
  unfold updateServiceAccount
  simp only [EStateM.run_bind, EStateM.run_get]
  cases hfind : findAccount caller store id
      (machineIdentityNotFound caller "service_accounts" id) with
  | error response => exact hsound
  | ok record =>
    have hrecord := (findAccount_eq_ok hfind).1
    obtain ⟨hget, _⟩ := ServiceAccountRegistry.get_eq_ok.mp hrecord
    have hupdate := run_updateAccount hrecord data.name data.permissions
    cases hstatus : data.status with
    | some status =>
      simp only [EStateM.run_bind, hupdate]
      split
      · rw [endState_run_bind_pure]
        -- every key of the account is disabled
        exact sound_disableKeysOf hsound hget _ _ (fun key hpass => absurd hpass (by simp))
      · rename_i hactive
        exact sound_update hsound hget _ _ (some status) (fun _ => not_not.mp hactive) _
    | none =>
      simp only
      split
      · simp only [EStateM.run_bind, hupdate]
        exact sound_update hsound hget _ _ none (fun hlive => hlive.2) _
      · exact hsound

theorem keepsSound_deleteServiceAccount (id : Nat) :
    Moves KeepsSound (deleteServiceAccount caller id) := by
  intro store hsound
  unfold deleteServiceAccount
  simp only [EStateM.run_bind, EStateM.run_get]
  cases hfind : findAccount caller store id
      (machineIdentityNotFound caller "service_accounts" id) with
  | error response => exact hsound
  | ok record =>
    have hrecord := (findAccount_eq_ok hfind).1
    obtain ⟨hget, _⟩ := ServiceAccountRegistry.get_eq_ok.mp hrecord
    simp only [ServiceAccountRegistry.delete_of_get hrecord, EStateM.run_bind, EStateM.run_set]
    rw [← EStateM.run_bind, endState_run_bind_pure]
    exact sound_disableKeysOf hsound hget _ _ (fun key hpass => absurd hpass (by simp))

theorem keepsSound_createServiceAccountApiKey (hash : String → String) (caller : Caller)
    (id : Nat) (data : KeyPayload) (token : String) :
    Moves KeepsSound (createServiceAccountApiKey hash caller id data token) := by
  refine moves_findAccount fun _ => (Moves.attempt (keepsSound_createKey hash _ rfl)).bind ?_
  intro result
  split
  · exact Moves.pure _
  · exact Moves.pure _
  · exact Moves.throw _

theorem keepsSound_enableServiceAccountApiKey (id keyId : Nat) :
    Moves KeepsSound (enableServiceAccountApiKey caller id keyId) := by
  intro store hsound
  unfold enableServiceAccountApiKey
  simp only [EStateM.run_bind, EStateM.run_get]
  cases hfind : findKey caller store id keyId with
  | error response => exact hsound
  | ok key =>
    obtain ⟨hget, howner, _⟩ := findKey_eq_ok hfind
    have henabled := sound_enableKey hsound hget howner
    simp only [EStateM.run_bind, run_attempt]
    split <;> exact henabled

theorem keepsSound_rotateServiceAccountApiKey (hash : String → String) (caller : Caller)
    (id keyId : Nat) (data : KeyPayload) (auditReason : Option String) (token : String) :
    Moves KeepsSound (rotateServiceAccountApiKey hash caller id keyId data auditReason token) := by
  intro store
  unfold rotateServiceAccountApiKey
  split
  · exact fun hsound => hsound
  simp only [EStateM.run_bind, EStateM.run_get]
  split
  · exact fun hsound => hsound
  split
  · exact fun hsound => hsound
  · rename_i current hcurrent
    obtain ⟨_, howner, _⟩ := getServiceAccountApiKey_eq_some hcurrent
    refine ((keepsSound_createKey hash _ howner).bind ?_) store
    intro result
    exact (keepsSound_disableKey keyId).bind fun _ => Moves.pure _

theorem keepsSound_forceExpireServiceAccountApiKey (id keyId : Nat)
    (auditReason : Option String) (now : Time) :
    Moves KeepsSound (forceExpireServiceAccountApiKey caller id keyId auditReason now) := by
  unfold forceExpireServiceAccountApiKey
  split
  · exact Moves.pure _
  refine moves_findAccount fun _ => (Moves.attempt (keepsSound_expireKey keyId now)).bind ?_
  intro result
  split
  · exact Moves.pure _
  · exact Moves.pure _
  · exact Moves.throw _

end

/-! ## Sequences of requests -/

/-- A request to one of the endpoints, with the readings of the clock and the random part
of a key that its handling takes. -/
inductive AdminCall where
  | createAccount (scopes : ScopeTables) (data : AccountPayload)
  | updateAccount (id : Nat) (data : AccountPayload)
  | deleteAccount (id : Nat)
  | createKey (id : Nat) (data : KeyPayload) (token : String)
  | disableKey (id keyId : Nat)
  | enableKey (id keyId : Nat)
  | deleteKey (id keyId : Nat)
  | rotateKey (id keyId : Nat) (data : KeyPayload) (auditReason : Option String) (token : String)
  | forceExpireKey (id keyId : Nat) (auditReason : Option String) (now : Time)

/-- The endpoint of a call. -/
def endpoint (hash : String → String) (caller : Caller) : AdminCall → Endpoint
  | .createAccount scopes data => createServiceAccount caller scopes data
  | .updateAccount id data => updateServiceAccount caller id data
  | .deleteAccount id => deleteServiceAccount caller id
  | .createKey id data token => createServiceAccountApiKey hash caller id data token
  | .disableKey id keyId => disableServiceAccountApiKey caller id keyId
  | .enableKey id keyId => enableServiceAccountApiKey caller id keyId
  | .deleteKey id keyId => deleteServiceAccountApiKey caller id keyId
  | .rotateKey id keyId data auditReason token =>
      rotateServiceAccountApiKey hash caller id keyId data auditReason token
  | .forceExpireKey id keyId auditReason now =>
      forceExpireServiceAccountApiKey caller id keyId auditReason now

/-- One request: the answer or the exception, and the store it leaves. -/
def execAdmin (hash : String → String) (store : IdentityStore) (request : Caller × AdminCall) :
    Except IdentityError AdminReply × IdentityStore :=
  let result := (endpoint hash request.1 request.2).run store
  (report result, endState result)

variable (hash : String → String) (caller : Caller)

theorem keepsSound_endpoint (call : AdminCall) :
    Moves IdentityStore.KeepsSound (endpoint hash caller call) := by
  cases call with
  | createAccount scopes data => exact keepsSound_createServiceAccount caller scopes data
  | updateAccount id data => exact keepsSound_updateServiceAccount caller id data
  | deleteAccount id => exact keepsSound_deleteServiceAccount caller id
  | createKey id data token => exact keepsSound_createServiceAccountApiKey hash caller id data token
  | disableKey id keyId =>
    exact moves_findKey ((keepsSound_disableKey keyId).bind fun _ => Moves.pure _)
  | enableKey id keyId => exact keepsSound_enableServiceAccountApiKey caller id keyId
  | deleteKey id keyId =>
    exact moves_findKey ((keepsSound_deleteKey keyId).bind fun _ => Moves.pure _)
  | rotateKey id keyId data auditReason token =>
    exact keepsSound_rotateServiceAccountApiKey hash caller id keyId data auditReason token
  | forceExpireKey id keyId auditReason now =>
    exact keepsSound_forceExpireServiceAccountApiKey caller id keyId auditReason now

/-- Every store that requests lead to is sound. -/
theorem sound_final (requests : List (Caller × AdminCall)) :
    IdentityStore.Sound (final (execAdmin hash) {} requests) :=
  invariant_final (execAdmin hash)
    (fun store request _ hsound => keepsSound_endpoint hash request.1 request.2 store hsound)
    requests _ sound_empty (admitted_true _ requests _)

/-- Whatever requests were made, a key that is accepted is neither deleted, disabled nor
expired, and belongs to a service account that is there and has all its scopes. -/
theorem accepted_key_within_owner_rights (hash : String → String)
    (requests : List (Caller × AdminCall)) (plainKey : String) (tenantId : Int)
    (projectId : Option Int) (requiredScope : String) (now : Time) (actor : AuthenticatedActor)
    (h : (final (execAdmin hash) {} requests).authenticate hash plainKey tenantId projectId
      requiredScope now = .ok actor) :
    ∃ id key owner, (final (execAdmin hash) {} requests).keys.get? id = some key ∧
      actor.apiKeyId = some id ∧ key.keyHash = hash plainKey ∧ actor.scopes = key.scopes ∧
      key.isDeleted = false ∧ key.status = "active" ∧
      ¬ IdentityStore.Expired key.expiresAt now ∧
      key.ownerType = "service_account" ∧
      (final (execAdmin hash) {} requests).accounts.get? key.ownerId = some owner ∧
      owner.isDeleted = false ∧ owner.status = "active" ∧ key.scopes ⊆ owner.permissions := by
  obtain ⟨id, key, hget, hhash, hdeleted, hstatus, hexpired, _, hscopes, hid⟩ :=
    authenticate_eq_ok h
  obtain ⟨howner, owner, hfound, hlive, hsubset⟩ :=
    sound_final hash requests id key hget ⟨hdeleted, hstatus⟩
  exact ⟨id, key, owner, hget, hid, hhash, hscopes, hdeleted, hstatus, hexpired, howner, hfound,
    hlive.1, hlive.2, hsubset⟩

/-! ## Which keys a request may change -/

/-- The account is there, in a tenant and project of the caller. -/
def Within (caller : Caller) (store : IdentityStore) (id : Nat) : Prop :=
  ∃ account, ServiceAccountRegistry.get store.accounts id = .ok account ∧
    actorCanAccessTarget caller.actor account.tenantId account.projectId = true

/-- What a request on a key of an account may do to the keys: nothing, or, if the key is the
account's and the account is within the caller's reach, a change that leaves all others. -/
def KeysInside (caller : Caller) (id keyId : Nat) (before after : IdentityStore) : Prop :=
  (∀ other, after.keys.get? other = before.keys.get? other) ∨
    (∃ key, before.keys.get? keyId = some key ∧ key.ownerType = "service_account" ∧
      key.ownerId = id) ∧
    Within caller before id ∧
    ∀ other key, other ≠ keyId → before.keys.get? other = some key →
      after.keys.get? other = some key

theorem keeps_createKey (new : IdentityStore.NewKey) :
    Moves (fun store next : IdentityStore => ∀ id key, store.keys.get? id = some key →
      next.keys.get? id = some key) (createKey hash new) := by
  intro store id key hget
  unfold createKey
  simp only [EStateM.run_bind, EStateM.run_get]
  cases store.assertOwnerScopeSubset new.tenantId new.projectId new.ownerType new.ownerId
      new.scopes with
  | error e => exact hget
  | ok u =>
    simp only [run_orRaise_ok]
    split
    · exact hget
    · exact Table.get?_insert_of_some hget _

theorem keysInside_rotate (id keyId : Nat)
    (data : KeyPayload) (auditReason : Option String) (token : String) :
    Moves (KeysInside caller id keyId)
      (rotateServiceAccountApiKey hash caller id keyId data auditReason token) := by
  intro store
  unfold rotateServiceAccountApiKey
  split
  · exact .inl fun _ => rfl
  simp only [EStateM.run_bind, EStateM.run_get]
  split
  · exact .inl fun _ => rfl
  rename_i account haccount
  split
  · exact .inl fun _ => rfl
  rename_i current hcurrent
  have howned := getServiceAccountApiKey_eq_some hcurrent
  refine .inr ⟨⟨current, howned⟩, ⟨account, findAccount_eq_ok haccount⟩, ?_⟩
  intro other key hne hget
  -- the new key is a new row, and only the named row is disabled
  rw [EStateM.run_bind]
  split
  · rename_i result next hrun
    have hkept := (keeps_createKey hash _).of_ok hrun
    simp only [disableKey, EStateM.run_bind, EStateM.run_get, hkept keyId current howned.1]
    show (next.keys.modify keyId _).get? other = some key
    rw [Table.get?_modify, if_neg hne]
    exact hkept other key hget
  · rename_i hrun
    exact (keeps_createKey hash _).of_error hrun other key hget

/-- Expiring a key changes it unless it is disabled and expires at this instant already. -/
theorem keysInside_expire {caller : Caller} {store : IdentityStore} {id keyId : Nat} {now : Time}
    {key : APIKey} (hwithin : Within caller store id) (hget : store.keys.get? keyId = some key) :
    KeysInside caller id keyId store { store with
          keys := store.keys.modify keyId fun key =>
            { key with status := "disabled", expiresAt := some now } } ↔
      (key.ownerType = "service_account" ∧ key.ownerId = id) ∨
        (key.status = "disabled" ∧ key.expiresAt = some now) := by
  unfold KeysInside
  simp only [Table.get?_modify]
  constructor
  · rintro (hsame | ⟨⟨_, howned, howner⟩, _⟩)
    · right
      have hkey := hsame keyId
      simp only [if_true, hget, Option.map_some, Option.some.injEq] at hkey
      rw [← hkey]
      exact ⟨rfl, rfl⟩
    · rw [hget] at howned
      cases howned
      exact .inl howner
  · rintro (howner | ⟨hstatus, hexpires⟩)
    · refine .inr ⟨⟨key, hget, howner⟩, hwithin, ?_⟩
      intro other key' hne hother
      rwa [if_neg hne]
    · left
      intro other
      split
      · rename_i heq
        rw [heq, hget, Option.map_some, ← hstatus, ← hexpires]
      · rfl

/-- A rotation stays inside the account it names. A forced expiry looks at the account only,
so it does so exactly if the key, where it gets as far as expiring one, is the account's or
is disabled and expires at this instant already. -/
theorem key_changes_stay_inside (hash : String → String) (caller : Caller) (store : IdentityStore)
    (id keyId : Nat) (auditReason : Option String) :
    (∀ data token, KeysInside caller id keyId store
      (execAdmin hash store (caller, .rotateKey id keyId data auditReason token)).2) ∧
    ∀ now, KeysInside caller id keyId store
        (execAdmin hash store (caller, .forceExpireKey id keyId auditReason now)).2 ↔
      ∀ key, reasonMissing auditReason = false → Within caller store id →
        store.keyRow keyId = .ok key →
        (key.ownerType = "service_account" ∧ key.ownerId = id) ∨
          (key.status = "disabled" ∧ key.expiresAt = some now) := by
  refine ⟨fun data token => keysInside_rotate hash caller id keyId data auditReason token store,
    fun now => ?_⟩
  show KeysInside caller id keyId store (endState
    ((forceExpireServiceAccountApiKey caller id keyId auditReason now).run store)) ↔ _
  have hnothing : KeysInside caller id keyId store store := .inl fun _ => rfl
  unfold forceExpireServiceAccountApiKey
  split
  · rename_i hreason
    exact iff_of_true hnothing fun key h => by simp [hreason] at h
  rename_i hreason
  simp only [EStateM.run_bind, EStateM.run_get]
  split
  · rename_i response hfind
    refine iff_of_true hnothing fun key _ hwithin => ?_
    obtain ⟨account, haccount, haccess⟩ := hwithin
    simp [findAccount, haccount, haccess] at hfind
  · rename_i account hfind
    have hwithin : Within caller store id := ⟨account, findAccount_eq_ok hfind⟩
    rw [endState_attempt fun r t => by split <;> rfl]
    unfold expireKey
    simp only [EStateM.run_bind, EStateM.run_get]
    cases hrow : store.keyRow keyId with
    | error e => exact iff_of_true hnothing fun key _ _ h => by cases h
    | ok key =>
      refine (keysInside_expire hwithin (keyRow_eq_ok hrow).1).trans ?_
      simp [hreason, hwithin]

/-- An administrator. -/
def administrator : Caller where
  actor :=
    { tenantId := 1
      projectId := some 1
      actorType := "operator"
      actorId := "1"
      scopes := {"*"}
      apiKeyId := none }
  requestId := none

/-- An account with two permissions and a key for one of them, the other permission then
taken back. -/
def narrowedAccount : List (Caller × AdminCall) :=
  [(administrator, .createAccount ⟨fun _ => true, fun _ => true⟩
      { permissions := some ["agent:read", "run:read"] }),
    (administrator, .createKey 1 { scopes := some ["agent:read"], expiresAt := some 10 } "k"),
    (administrator, .updateAccount 1 { permissions := some ["agent:read"] })]

/-- The key of that account is accepted before it expires. -/
theorem accepted_key_within_owner_rights_narrowed :
    ∃ id key owner, (final (execAdmin fun text => text) {} narrowedAccount).keys.get? id = some key ∧
      (final (execAdmin fun text => text) {} narrowedAccount).accounts.get? key.ownerId = some owner ∧
      key.scopes ⊆ owner.permissions := by
  obtain ⟨id, key, owner, hget, _, _, _, _, _, _, _, hfound, _, _, hsubset⟩ :=
    accepted_key_within_owner_rights (fun text => text) narrowedAccount "dr_k" 1 (some 1)
      "agent:read" 9 ⟨1, some 1, "service_account", "1", {"agent:read"}, some 1⟩ rfl
  exact ⟨id, key, owner, hget, hfound, hsubset⟩

/-- An account of tenant 1, and one of tenant 2 with a key. -/
def twoTenants : List (Caller × AdminCall) :=
  [(administrator, .createAccount ⟨fun _ => true, fun _ => true⟩ {}),
    (administrator, .createAccount ⟨fun _ => true, fun _ => true⟩ { tenantId := some 2 }),
    (administrator, .createKey 2 { expiresAt := some 10 } "k")]

/-- Through its own account an operator of tenant 1 expires the key of tenant 2. -/
theorem force_expire_reaches_foreign_key :
    let operator := { administrator with actor := { administrator.actor with scopes := {} } }
    let store := final (execAdmin fun text => text) {} twoTenants
    let next := (execAdmin (fun text => text) store
      (operator, .forceExpireKey 1 1 (some "leaked") 5)).2
    ¬ Within operator store 2 ∧
      (store.keys.get? 1).map (fun key => (key.tenantId, key.ownerId, key.status)) =
        some (2, 2, "active") ∧
      (next.keys.get? 1).map (·.status) = some "disabled" ∧
      ¬ KeysInside operator 1 1 store next := by
  refine ⟨?_, rfl, rfl, ?_⟩
  · rintro ⟨account, haccount, haccess⟩
    cases haccount
    exact absurd haccess (by decide)
  · rintro (hsame | ⟨⟨key, hkey, _, howner⟩, _⟩)
    · exact absurd (congrArg (Option.map (·.status)) (hsame 1)) (by decide)
    · cases hkey
      cases howner

end DimooRun.Api
