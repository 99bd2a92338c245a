/-
  Api/Governance.lean --- who may change roles and keys through the console.

  `_required_console_permission` finds the permission for a request by the parts of its
  path. The paths of the identity workflows begin with `/v1/identity/workflows`, which no
  part of the table matches, so they need `admin:write` only, whatever they do.
-/
import DimooRun.Api.ConsoleIdentity
import DimooRun.Identity.ConsoleRoles

set_option autoImplicit false

namespace DimooRun.Api

open Foundation Identity Security
open Scheduler (Time)

/-! ## Permissions by path -/

section

variable {part start path rest : String} {c : Char}

theorem hasPart_eq_false {text : String} (word : List Char) (hword : word <:+: part.toList)
    (h : ¬ word <:+: text.toList) : hasPart text part = false := by
  unfold hasPart
  rw [decide_eq_false_iff_not]
  intro hpart
  exact h (hword.trans hpart)

theorem hasPart_append_eq_true (h : part.toList <:+: start.toList) (rest : String) :
    hasPart (start ++ rest) part = true := by
  unfold hasPart
  rw [decide_eq_true_iff, String.toList_append]
  exact h.trans (List.prefix_append _ _).isInfix

theorem toList_toString (n : Nat) : (toString n).toList = Nat.toDigits 10 n := by
  show n.repr.toList = _
  rw [Nat.repr_eq_ofList_toDigits, String.toList_ofList]

/-- A word without digits does not run into a number. -/
theorem not_infix_number {word before rest : List Char} (n : Nat)
    (hword : ∀ c ∈ word, c.isDigit = false) (hbefore : ¬ word <:+: before)
    (hrest : ¬ word <:+: rest) : ¬ word <:+: before ++ (Nat.toDigits 10 n ++ rest) := by
  intro h
  have hdigits : ∀ d ∈ Nat.toDigits 10 n, d ∉ word := by
    intro d hd hmem
    have hdigit := isDigit_of_mem_toDigits hd
    rw [hword d hmem] at hdigit
    cases hdigit
  rcases infix_append_append Nat.toDigits_ne_nil hdigits h with hleft | hright
  · exact hbefore hleft
  · exact hrest hright

/-- The end of `/v1/identity`, and the beginning of what follows. -/
def afterIdentity (c : Char) : List Char := ['y', '/', c]

theorem isDigit_afterIdentity (hc : c.isDigit = false) :
    ∀ x ∈ afterIdentity c, x.isDigit = false := by
  intro x hx
  simp only [afterIdentity, List.mem_cons, List.not_mem_nil, or_false] at hx
  rcases hx with rfl | rfl | rfl
  · rfl
  · rfl
  · exact hc

/-- The path is of none of the kinds the table has before service accounts. -/
def Unlisted (path : String) : Prop :=
  ∀ c ∈ ['o', 'r', 'p', 't', 'e'], ¬ afterIdentity c <:+: path.toList

theorem Unlisted.hasPart_eq_false (h : Unlisted path) (c : Char) (part : String)
    (hc : c ∈ ['o', 'r', 'p', 't', 'e']) (hpart : afterIdentity c <:+: part.toList) :
    hasPart path part = false :=
  Api.hasPart_eq_false (afterIdentity c) hpart (h c hc)

theorem requiredConsolePermission_of_unlisted (h : Unlisted path) :
    requiredConsolePermission "POST" path =
      if hasPart path "/v1/identity/service-accounts" then
        if hasPart path "/api-keys" then some "identity:api-key:write"
        else some "identity:service-account:write"
      else some "admin:write" := by
  unfold requiredConsolePermission
  rw [h.hasPart_eq_false 'o' "/v1/identity/operators" (by decide) (by decide),
    h.hasPart_eq_false 'r' "/v1/identity/roles" (by decide) (by decide),
    h.hasPart_eq_false 'p' "/v1/identity/permissions" (by decide) (by decide),
    h.hasPart_eq_false 't' "/v1/identity/tenants" (by decide) (by decide),
    h.hasPart_eq_false 'p' "/v1/identity/projects" (by decide) (by decide),
    h.hasPart_eq_false 'e' "/v1/identity/environments" (by decide) (by decide)]
  rfl

/-- A path that is not one of a service account either. -/
theorem requiredConsolePermission_of_workflow (h : Unlisted path)
    (hs : ¬ afterIdentity 's' <:+: path.toList) :
    requiredConsolePermission "POST" path = some "admin:write" := by
  have haccounts : hasPart path "/v1/identity/service-accounts" = false :=
    hasPart_eq_false (afterIdentity 's') (by decide) hs
  rw [requiredConsolePermission_of_unlisted h, haccounts]
  rfl

theorem forall_mem_of_all {p : Char → Prop} [DecidablePred p] {cs : List Char}
    (h : (cs.all fun c => decide (p c)) = true) : ∀ c ∈ cs, p c :=
  fun c hc => of_decide_eq_true (List.all_eq_true.mp h c hc)

theorem not_infix_append_number (hc : c.isDigit = false)
    (hstart : ¬ afterIdentity c <:+: start.toList) (n : Nat)
    (hrest : ¬ afterIdentity c <:+: rest.toList) :
    ¬ afterIdentity c <:+: (start ++ toString n ++ rest).toList := by
  rw [String.append_assoc, String.toList_append, String.toList_append, toList_toString]
  exact not_infix_number n (isDigit_afterIdentity hc) hstart hrest

/-- The paths of roles and permissions, which end in a number. -/
theorem hasPart_number_end (c : Char) (start part : String) (n : Nat)
    (hpart : afterIdentity c <:+: part.toList) (hc : c.isDigit = false)
    (hstart : ¬ afterIdentity c <:+: start.toList) : hasPart (start ++ toString n) part = false := by
  refine hasPart_eq_false (afterIdentity c) hpart ?_
  rw [String.toList_append, toList_toString, ← List.append_nil (Nat.toDigits 10 n)]
  exact not_infix_number n (isDigit_afterIdentity hc) hstart (by simp [afterIdentity])

/-- An update of a role needs `identity:role:write`. -/
theorem requiredConsolePermission_role (id : Nat) :
    requiredConsolePermission "PATCH" ("/v1/identity/roles/" ++ toString id) =
      some "identity:role:write" := by
  unfold requiredConsolePermission
  rw [hasPart_number_end 'o' _ _ id (by decide) (by decide) (by decide),
    hasPart_append_eq_true (by decide)]
  rfl

/-- A change to a permission needs `identity:permission:write`. -/
theorem requiredConsolePermission_permission {method : String}
    (hmethod : upperText method ∉ ["GET", "HEAD", "OPTIONS"]) (id : Nat) :
    requiredConsolePermission method ("/v1/identity/permissions/" ++ toString id) =
      some "identity:permission:write" := by
  unfold requiredConsolePermission
  rw [if_neg hmethod, hasPart_number_end 'o' _ _ id (by decide) (by decide) (by decide),
    hasPart_number_end 'r' _ _ id (by decide) (by decide) (by decide),
    hasPart_append_eq_true (by decide)]
  rfl

/-- A new key needs `identity:api-key:write`. -/
theorem requiredConsolePermission_newKey (id : Nat) : requiredConsolePermission "POST"
        (accountPath "/v1/identity/service-accounts/" id ++ "/api-keys") =
      some "identity:api-key:write" := by
  have hunlisted : Unlisted (accountPath "/v1/identity/service-accounts/" id ++ "/api-keys") := by
    intro c hc
    refine not_infix_append_number ?_ ?_ id ?_ <;>
      · revert c
        exact forall_mem_of_all (by decide)
  have haccounts : hasPart (accountPath "/v1/identity/service-accounts/" id ++ "/api-keys")
      "/v1/identity/service-accounts" = true := by
    rw [accountPath, String.append_assoc]
    exact hasPart_append_eq_true (by decide) _
  have hkeys : hasPart (accountPath "/v1/identity/service-accounts/" id ++ "/api-keys")
      "/api-keys" = true := by
    unfold hasPart
    rw [decide_eq_true_iff, String.toList_append]
    exact (List.suffix_append _ _).isInfix
  rw [requiredConsolePermission_of_unlisted hunlisted, haccounts, hkeys]
  rfl

/-- Applying a role matrix needs `admin:write`. -/
theorem requiredConsolePermission_apply (roleId : Nat) : requiredConsolePermission "POST"
        ("/v1/identity/workflows/roles/" ++ toString roleId ++ "/apply") =
      some "admin:write" := by
  refine requiredConsolePermission_of_workflow ?_ ?_
  · intro c hc
    refine not_infix_append_number ?_ ?_ roleId ?_ <;>
      · revert c
        exact forall_mem_of_all (by decide)
  · exact not_infix_append_number (by decide) (by decide) roleId (by decide)

/-- So do rotating and expiring a key. -/
theorem requiredConsolePermission_keyWorkflow (id keyId : Nat)
    (hrest : ∀ c ∈ ['o', 'r', 'p', 't', 'e', 's'], ¬ afterIdentity c <:+: rest.toList) :
    requiredConsolePermission "POST"
        (keyPath "/v1/identity/workflows/service-accounts/" id keyId rest) =
      some "admin:write" := by
  have hall : ∀ c ∈ ['o', 'r', 'p', 't', 'e', 's'], ¬ afterIdentity c <:+:
      (keyPath "/v1/identity/workflows/service-accounts/" id keyId rest).toList := by
    intro c hc
    have hdigit : c.isDigit = false := by
      revert c
      exact forall_mem_of_all (by decide)
    refine not_infix_append_number hdigit ?_ keyId (hrest c hc)
    refine not_infix_append_number hdigit ?_ id ?_ <;>
      · revert c
        exact forall_mem_of_all (by decide)
  refine requiredConsolePermission_of_workflow ?_ (hall 's' (by decide))
  intro c hc
  exact hall c (by simp only [List.mem_cons, List.not_mem_nil, or_false] at hc ⊢; tauto)

end

/-! ## The actor of an operator's request -/

/-- The request comes with a live session of the operator. -/
def ByOperator (operatorId : Nat) (state : ConsoleState) (request : ConsoleRequest) : Prop :=
  ∃ token, plainKeyOf request.headers.authorization request.headers.consoleSession = some token ∧
    startsWith token "sess_" = true ∧ request.sessions token = .ok (some operatorId) ∧
    (hydrate state.console request.scopes operatorId).isSome = true

section

variable {deployment : Deployment} {state : ConsoleState} {request : ConsoleRequest}
  {operatorId : Nat}

theorem hydrate_permissions {store : ConsoleStore} {scopes : Nat → List AllowedScope}
    {operator : ConsoleOperator} (h : hydrate store scopes operatorId = some operator) :
    operator.permissions = store.operatorPermissionCodes operatorId := by
  unfold hydrate at h
  split at h
  · cases h
  split at h
  · cases h
  · cases h
    rfl

section

variable (hby : ByOperator operatorId state request)
include hby

/-- The actor of an operator's request has the operator's permissions. -/
theorem scopes_of_byOperator {actor : AuthenticatedActor}
    (h : requireConsoleActor (servicesFor deployment state request) request.headers = .ok actor) :
    actor.scopes = state.console.operatorPermissionCodes operatorId := by
  obtain ⟨token, htoken, hsession, hoperator, hlive⟩ := hby
  obtain ⟨operator, hhydrate⟩ := Option.isSome_iff_exists.mp hlive
  have hfound : (servicesFor deployment state request).operatorBySession token =
      .ok (some operator) := by
    simp only [servicesFor, hoperator, hhydrate]
  unfold requireConsoleActor at h
  split at h
  · cases h
  · simp only [authenticateApiKey, htoken, hsession, if_true, hfound] at h
    split at h
    · simp only [bind, Except.bind] at h
      split at h
      · cases h
        exact hydrate_permissions hhydrate
      · cases h
    · cases h

/-- A request that passes the gate has the permission its path needs. -/
theorem covers_of_enforceConsoleActor {method path required : String}
    (hrequired : requiredConsolePermission method path = some required) {actor : AuthenticatedActor}
    (h : enforceConsoleActor (servicesFor deployment state request) request.headers method path
      = .ok actor) : Covers (state.console.operatorPermissionCodes operatorId) required := by
  unfold enforceConsoleActor at h
  cases hactor : requireConsoleActor (servicesFor deployment state request) request.headers with
  | error response =>
    rw [hactor] at h
    cases h
  | ok actor' =>
    rw [hactor, hrequired] at h
    simp only [bind, Except.bind] at h
    split at h
    · rename_i hcovers
      rwa [scopes_of_byOperator hby hactor] at hcovers
    · cases h

/-- Without the permission its path needs, a request changes nothing. -/
theorem execRouted_of_not_covers (call : ConsoleCall) {required : String}
    (hrequired : requiredConsolePermission (route call).1 (route call).2 = some required)
    (hnot : ¬ Covers (state.console.operatorPermissionCodes operatorId) required) :
    (execRouted deployment state request call).2 = state := by
  unfold execRouted
  cases h : enforceConsoleActor (servicesFor deployment state request) request.headers
      (route call).1 (route call).2 with
  | error response => rfl
  | ok actor => exact absurd (covers_of_enforceConsoleActor hby hrequired h) hnot

end

end

/-! ## Roles -/

section

open ConsoleStore (Keeps Gives)

variable {deployment : Deployment} {state : ConsoleState} {request : ConsoleRequest}
  {call : ConsoleCall} {guard : Guard} {method : ConsoleStore → ConsoleReply × ConsoleStore}

/-- A property of every handled request is one of every routed request. -/
theorem execRouted_induction (P : ConsoleState → Prop) (hsame : P state)
    (hhandle : ∀ caller, P (handle deployment caller request.headers call state).2) :
    P (execRouted deployment state request call).2 := by
  unfold execRouted
  split
  · exact hsame
  · exact hhandle _

theorem keeps_execRouted (hhandle : ∀ caller,
      Keeps state.console (handle deployment caller request.headers call state).2.console) :
    Keeps state.console (execRouted deployment state request call).2.console :=
  execRouted_induction (fun state' => Keeps state.console state'.console) (Keeps.refl _) hhandle

theorem execOperators_induction (P : ConsoleStore → Prop) (hsame : P state.console)
    (hmethod : ∀ store, ConsoleStore.ensureBootstrapOperator deployment.bootstrap state.console =
      .ok store → P (method store).2) :
    P (execOperators deployment state request guard method).2.console := by
  unfold execOperators
  split
  · exact hsame
  · unfold withBootstrap
    split
    · exact hsame
    · rename_i store hbootstrap
      exact hmethod store hbootstrap

theorem keeps_execOperators (hseeded : state.console.AsSeeded) {names : List String}
    (hmethod : ∀ store, Gives names store (method store).2) :
    Keeps state.console (execOperators deployment state request guard method).2.console :=
  execOperators_induction (Keeps state.console) (Keeps.refl _) fun store hbootstrap =>
    (ConsoleStore.keeps_ensureBootstrapOperator hseeded hbootstrap).trans (hmethod store).keeps

/-! ### What the methods do to the tables -/

section

variable (headers : Headers) (id : Nat)

theorem gives_createOperator (data : ConsoleStore.NewOperator) (store : ConsoleStore) :
    Gives data.givenRoles store (createOperator headers data store).2 := by
  unfold createOperator
  split
  · rename_i id store' hcreate
    exact (ConsoleStore.added_createOperator hcreate).toGives
  · split <;> exact .refl _ _
  · exact .refl _ _

theorem gives_updateOperator (data : ConsoleStore.OperatorUpdate) (store : ConsoleStore) :
    Gives (data.roles.getD []) store (updateOperator headers id data store).2 := by
  unfold updateOperator
  split
  · exact .refl _ _
  · rename_i store' hupdate
    exact (ConsoleStore.leavesOthers_updateOperator hupdate).toGives.of_operators
  · split <;> exact .refl _ _
  · exact .refl _ _

theorem gives_deleteOperator (store : ConsoleStore) :
    Gives [] store (deleteOperator headers id store).2 := by
  unfold deleteOperator
  split
  · exact .refl _ _
  · rename_i store' hdelete
    cases ConsoleStore.deleteOperator_eq_some hdelete
    exact .of_operators (.refl _ _)

variable {headers id} {store : ConsoleStore} {P : ConsoleStore → Prop} (hsame : P store)
include hsame

theorem createRole_induction {name status : Option String}
    (hnew : ∀ role, P { store with roles := store.roles.insert role }) :
    P (createRole headers name status store).2 := by
  unfold createRole
  dsimp only
  split
  · exact hsame
  · exact hnew _

theorem deleteRole_induction (hnew : ∀ f, P { store with roles := store.roles.modify id f }) :
    P (deleteRole headers id store).2 := by
  unfold deleteRole
  split
  · exact hsame
  split
  · exact hsame
  · exact hnew _

theorem createPermission_induction {code status : Option String}
    (hnew : ∀ permission, P (store.insertPermission permission)) :
    P (createPermission headers code status store).2 := by
  unfold createPermission
  dsimp only
  split
  · exact hsame
  · exact hnew _

theorem changePermission_induction {f : ConsolePermission → ConsolePermission}
    (hnew : P (store.modifyPermission id f)) : P (changePermission headers id f store).2 := by
  unfold changePermission
  split
  · exact hsame
  split
  · exact hsame
  dsimp only
  split
  · exact hnew
  · exact hsame

end

/-- A request of the operator: on its session, or one that needs no session. -/
def Own (operatorId : Nat) (state : ConsoleState) (request : ConsoleRequest) : Prop :=
  ByOperator operatorId state request ∨ request.call = .useOperators .none

/-- The requests that could change the permissions of a role without
`identity:role:write` are made where they do not: a role matrix is applied only without
`admin:write`, a permission is changed or deleted only without `identity:permission:write`
or while no role holds it, and the operator endpoints are used only while the built-in
roles are as seeded. -/
def RolesCondition (operatorId : Nat) (state : ConsoleState) (request : ConsoleRequest) : Prop :=
  match request.call with
  | .applyRoleMatrix _ _ _ =>
      ¬ Covers (state.console.operatorPermissionCodes operatorId) "admin:write"
  | .updatePermission id _ =>
      ¬ Covers (state.console.operatorPermissionCodes operatorId) "identity:permission:write" ∨
        ∀ e ∈ state.console.rolePermissions, e.2 ≠ id
  | .deletePermission id =>
      ¬ Covers (state.console.operatorPermissionCodes operatorId) "identity:permission:write" ∨
        ∀ e ∈ state.console.rolePermissions, e.2 ≠ id
  | .useOperators _ => state.console.AsSeeded
  | .createOperator _ => state.console.AsSeeded
  | .updateOperator _ _ => state.console.AsSeeded
  | .deleteOperator _ => state.console.AsSeeded
  | _ => True

theorem keeps_of_not_covers {operatorId : Nat} {required : String}
    (hby : ByOperator operatorId state request)
    (hrequired : requiredConsolePermission (route call).1 (route call).2 = some required)
    (hnot : ¬ Covers (state.console.operatorPermissionCodes operatorId) required) :
    Keeps state.console (execRouted deployment state request call).2.console := by
  rw [execRouted_of_not_covers hby call hrequired hnot]
  exact Keeps.refl _

/-- A change to a permission, by an operator who may not make it or of one that no role
holds. -/
theorem keeps_permission {operatorId id : Nat} (call : ConsoleCall)
    (hby : ByOperator operatorId state request)
    (hrequired : requiredConsolePermission (route call).1 (route call).2 =
      some "identity:permission:write")
    {f : ConsolePermission → ConsolePermission}
    (hcall : ∀ caller, (handle deployment caller request.headers call state).2.console =
      (changePermission request.headers id f state.console).2)
    (hcond : ¬ Covers (state.console.operatorPermissionCodes operatorId)
        "identity:permission:write" ∨ ∀ e ∈ state.console.rolePermissions, e.2 ≠ id) :
    Keeps state.console (execRouted deployment state request call).2.console := by
  rcases hcond with hnot | hheld
  · exact keeps_of_not_covers hby hrequired hnot
  · refine keeps_execRouted ?_
    intro caller
    rw [hcall caller]
    exact changePermission_induction (Keeps.refl _) (ConsoleStore.keeps_modifyPermission hheld f)

/-- One request of an operator without `identity:role:write` keeps the roles, under the
condition. -/
theorem keeps_execConsole {operatorId : Nat} (hown : Own operatorId state request)
    (hlacks : ¬ Covers (state.console.operatorPermissionCodes operatorId) "identity:role:write")
    (hcond : RolesCondition operatorId state request) :
    Keeps state.console (execConsole deployment state request).2.console := by
  have hby : (∀ guard, request.call ≠ .useOperators guard) →
      ByOperator operatorId state request := by
    intro hne
    rcases hown with hby | hcall
    · exact hby
    · exact absurd hcall (hne _)
  obtain ⟨headers, sessions, scopes, now, call⟩ := request
  cases call with
  | useOperators guard => exact keeps_execOperators hcond (Gives.refl [])
  | createOperator data => exact keeps_execOperators hcond (gives_createOperator headers data)
  | updateOperator id data => exact keeps_execOperators hcond (gives_updateOperator headers id data)
  | deleteOperator id => exact keeps_execOperators hcond (gives_deleteOperator headers id)
  | createRole name status =>
    exact keeps_execRouted fun _ => createRole_induction (Keeps.refl _) fun _ =>
      ConsoleStore.keeps_of_extends (.insert _ _) (.refl _) rfl
  | updateRole id fields =>
    exact keeps_of_not_covers (hby nofun) (requiredConsolePermission_role id) hlacks
  | deleteRole id =>
    exact keeps_execRouted fun _ => deleteRole_induction (Keeps.refl _)
      (ConsoleStore.keeps_modifyRole state.console id)
  | createPermission code status =>
    exact keeps_execRouted fun _ => createPermission_induction (Keeps.refl _) fun _ =>
      ConsoleStore.keeps_of_extends (.refl _) (.insert _ _) rfl
  | updatePermission id fields =>
    have hmethod : upperText "PATCH" ∉ ["GET", "HEAD", "OPTIONS"] := by decide
    exact keeps_permission (.updatePermission id fields) (hby nofun)
      (requiredConsolePermission_permission hmethod id) (fun _ => rfl) hcond
  | deletePermission id =>
    have hmethod : upperText "DELETE" ∉ ["GET", "HEAD", "OPTIONS"] := by decide
    exact keeps_permission (.deletePermission id) (hby nofun)
      (requiredConsolePermission_permission hmethod id) (fun _ => rfl) hcond
  | applyRoleMatrix roleId codes auditReason =>
    exact keeps_of_not_covers (hby nofun) (requiredConsolePermission_apply roleId) hcond
  | _ => exact keeps_execRouted (fun _ => Keeps.refl _)

end

/-! ## Keys -/

section

/-- The stores have the same keys, with the same times of expiry. -/
def SameKeys (store store' : IdentityStore) : Prop :=
  ∀ id, (store'.keys.get? id).map APIKey.expiresAt = (store.keys.get? id).map APIKey.expiresAt

instance : Std.Refl SameKeys := ⟨fun _ _ => rfl⟩

instance : IsTrans IdentityStore SameKeys := ⟨fun _ _ _ h h' id => (h' id).trans (h id)⟩

/-- Assignments that leave the time of expiry. -/
theorem sameKeys_modify (store : IdentityStore) (id : Nat) (f : APIKey → APIKey)
    (hf : ∀ key, (f key).expiresAt = key.expiresAt) :
    SameKeys store { store with keys := store.keys.modify id f } := by
  intro id'
  rw [Table.get?_modify]
  split
  · rw [Option.map_map]
    refine congrArg (fun g => Option.map g (store.keys.get? id')) ?_
    funext key
    exact hf key
  · rfl

variable (caller : Caller) (id : Nat)

theorem sameKeys_disableKey : Moves SameKeys (IdentityStore.disableKey id) := by
  intro store
  unfold IdentityStore.disableKey
  simp only [EStateM.run_bind, EStateM.run_get]
  cases store.keys.get? id with
  | none => exact refl store
  | some key => exact sameKeys_modify store id _ (fun _ => rfl)

theorem sameKeys_enableKey : Moves SameKeys (IdentityStore.enableKey id) := by
  intro store
  unfold IdentityStore.enableKey
  simp only [EStateM.run_bind, EStateM.run_get]
  cases store.keyRow id with
  | error e => exact refl store
  | ok record =>
    simp only [run_orRaise_ok]
    cases store.assertOwnerScopeSubset record.tenantId record.projectId record.ownerType
        record.ownerId record.scopes with
    | error e => exact refl store
    | ok u => exact sameKeys_modify store id _ (fun _ => rfl)

theorem sameKeys_deleteKey : Moves SameKeys (IdentityStore.deleteKey id) := by
  intro store
  unfold IdentityStore.deleteKey
  simp only [EStateM.run_bind, EStateM.run_get]
  cases store.keyRow id with
  | error e => exact refl store
  | ok record => exact sameKeys_modify store id _ (fun _ => rfl)

theorem sameKeys_disableEach (p : APIKey → Bool) (list : List (Nat × APIKey)) :
    Moves SameKeys (IdentityStore.disableEach p list) := by
  induction list with
  | nil => exact Moves.pure _
  | cons e list ih =>
    obtain ⟨id, key⟩ := e
    unfold IdentityStore.disableEach
    split
    · exact (sameKeys_disableKey id).bind fun _ => ih
    · exact ih

theorem sameKeys_disableKeysOf (p : APIKey → Bool) : Moves SameKeys (disableKeysOf id p) :=
  Moves.get.bind fun _ => sameKeys_disableEach p _

/-- An assignment to the accounts leaves the keys. -/
theorem sameKeys_setAccounts (store : IdentityStore) (accounts : ServiceAccountRegistry) :
    SameKeys store { store with accounts := accounts } := fun _ => rfl

theorem sameKeys_updateAccount (name : Option String) (permissions : Option (List String))
    (status : Option String) : Moves SameKeys (updateAccount id name permissions status) := by
  intro store
  unfold updateAccount
  simp only [EStateM.run_bind, EStateM.run_get]
  split
  · exact refl store
  · exact sameKeys_setAccounts store _

theorem sameKeys_createServiceAccount (scopes : ScopeTables) (data : AccountPayload) :
    Moves SameKeys (createServiceAccount caller scopes data) := by
  intro store
  unfold createServiceAccount
  cases idOr data.projectId caller.actor.projectId with
  | none => exact refl store
  | some projectId =>
    simp only
    split
    · exact refl store
    · simp only [EStateM.run_bind, EStateM.run_get]
      split
      · exact refl store
      · split <;> exact sameKeys_setAccounts store _

theorem sameKeys_updateServiceAccount (data : AccountPayload) :
    Moves SameKeys (updateServiceAccount caller id data) := by
  refine moves_findAccount fun _ => ?_
  split
  · refine (sameKeys_updateAccount id _ _ _).bind ?_
    intro record
    split
    · exact (sameKeys_disableKeysOf id _).bind fun _ => Moves.pure _
    · split
      · exact (sameKeys_disableKeysOf id _).bind fun _ => Moves.pure _
      · exact Moves.pure _
  · split
    · refine (sameKeys_updateAccount id _ _ _).bind ?_
      intro record
      split
      · exact (sameKeys_disableKeysOf id _).bind fun _ => Moves.pure _
      · exact Moves.pure _
    · exact Moves.pure _

theorem sameKeys_deleteServiceAccount : Moves SameKeys (deleteServiceAccount caller id) := by
  intro store
  unfold deleteServiceAccount
  simp only [EStateM.run_bind, EStateM.run_get]
  split
  · exact refl store
  split
  · exact refl store
  · rename_i record accounts _
    have hloop := (sameKeys_disableKeysOf id fun _ => true) { store with accounts := accounts }
    simp only [EStateM.run_bind, EStateM.run_set]
    rw [← EStateM.run_bind, endState_run_bind_pure]
    exact IsTrans.trans _ _ _ (sameKeys_setAccounts store accounts) hloop

/-- The endpoints that neither create nor expire a key. -/
def LeavesKeys : AdminCall → Prop
  | .createKey _ _ _ => False
  | .rotateKey _ _ _ _ _ => False
  | .forceExpireKey _ _ _ _ => False
  | _ => True

theorem sameKeys_endpoint (hash : String → String) (caller : Caller) {call : AdminCall}
    (h : LeavesKeys call) : Moves SameKeys (endpoint hash caller call) := by
  cases call with
  | createAccount scopes data => exact sameKeys_createServiceAccount caller scopes data
  | updateAccount id data => exact sameKeys_updateServiceAccount caller id data
  | deleteAccount id => exact sameKeys_deleteServiceAccount caller id
  | disableKey id keyId =>
    exact moves_findKey ((sameKeys_disableKey keyId).bind fun _ => Moves.pure _)
  | enableKey id keyId =>
    refine moves_findKey ((Moves.attempt (sameKeys_enableKey keyId)).bind fun result => ?_)
    split
    · exact Moves.pure _
    · exact Moves.pure _
    · exact Moves.pure _
    · exact Moves.throw _
  | deleteKey id keyId =>
    exact moves_findKey ((sameKeys_deleteKey keyId).bind fun _ => Moves.pure _)
  | _ => exact h.elim

/-- Keys are rotated and expired only without `admin:write`. -/
def KeysCondition (operatorId : Nat) (state : ConsoleState) (request : ConsoleRequest) : Prop :=
  match request.call with
  | .machine (.rotateKey _ _ _ _ _) =>
      ¬ Covers (state.console.operatorPermissionCodes operatorId) "admin:write"
  | .machine (.forceExpireKey _ _ _ _) =>
      ¬ Covers (state.console.operatorPermissionCodes operatorId) "admin:write"
  | _ => True

variable {deployment : Deployment} {state : ConsoleState} {request : ConsoleRequest}

theorem sameKeys_execRouted {call : ConsoleCall} (hhandle : ∀ caller,
      SameKeys state.identity (handle deployment caller request.headers call state).2.identity) :
    SameKeys state.identity (execRouted deployment state request call).2.identity :=
  execRouted_induction (fun state' => SameKeys state.identity state'.identity)
    (refl state.identity) hhandle

theorem sameKeys_of_leavesKeys {call : AdminCall} (h : LeavesKeys call) :
    SameKeys state.identity (execRouted deployment state request (.machine call)).2.identity :=
  sameKeys_execRouted fun caller => sameKeys_endpoint deployment.hash caller h state.identity

theorem identity_execOperators (guard : Guard)
    (method : ConsoleStore → ConsoleReply × ConsoleStore) :
    (execOperators deployment state request guard method).2.identity = state.identity := by
  unfold execOperators
  split <;> rfl

/-- An operator without `identity:api-key:write` makes and expires no key at the endpoints
for service accounts, under the condition. -/
theorem sameKeys_machine {operatorId : Nat} (hby : ByOperator operatorId state request)
    (hlacks : ¬ Covers (state.console.operatorPermissionCodes operatorId) "identity:api-key:write")
    (hcond : KeysCondition operatorId state request) {call : AdminCall}
    (hcall : request.call = .machine call) :
    SameKeys state.identity (execRouted deployment state request (.machine call)).2.identity := by
  have hsame : SameKeys state.identity state.identity := refl state.identity
  cases call with
  | createKey id data token =>
    rw [execRouted_of_not_covers hby (.machine (.createKey id data token))
      (requiredConsolePermission_newKey id) hlacks]
    exact hsame
  | rotateKey id keyId data auditReason token =>
    simp only [KeysCondition, hcall] at hcond
    rw [execRouted_of_not_covers hby (.machine (.rotateKey id keyId data auditReason token))
      (requiredConsolePermission_keyWorkflow id keyId (forall_mem_of_all (by decide))) hcond]
    exact hsame
  | forceExpireKey id keyId auditReason now =>
    simp only [KeysCondition, hcall] at hcond
    rw [execRouted_of_not_covers hby (.machine (.forceExpireKey id keyId auditReason now))
      (requiredConsolePermission_keyWorkflow id keyId (forall_mem_of_all (by decide))) hcond]
    exact hsame
  | createAccount scopes data | updateAccount id data | deleteAccount id | disableKey id keyId
  | enableKey id keyId | deleteKey id keyId =>
    exact sameKeys_of_leavesKeys trivial

/-- One request of an operator without `identity:api-key:write` makes and expires no key,
under the condition. -/
theorem sameKeys_execConsole {operatorId : Nat} (hown : Own operatorId state request)
    (hlacks : ¬ Covers (state.console.operatorPermissionCodes operatorId) "identity:api-key:write")
    (hcond : KeysCondition operatorId state request) :
    SameKeys state.identity (execConsole deployment state request).2.identity := by
  have hsame : SameKeys state.identity state.identity := refl state.identity
  unfold execConsole
  cases hcall : request.call with
  | useOperators guard | createOperator data | updateOperator id data | deleteOperator id =>
    simp only [identity_execOperators]
    exact hsame
  | machine call =>
    rcases hown with hby | hnone
    · exact sameKeys_machine hby hlacks hcond hcall
    · rw [hcall] at hnone
      cases hnone
  | createRole name status | updateRole id fields | deleteRole id | createPermission code status
  | updatePermission id fields | deletePermission id | previewRoleMatrix roleId codes
  | applyRoleMatrix roleId codes auditReason | other method path =>
    exact sameKeys_execRouted fun _ => hsame

end

/-! ## Sequences of requests -/

/-- The requests of one operator leave the permissions of every role as they are, if the
operator never has `identity:role:write` or `*` when it makes one and the conditions on
roles hold; and they neither create, rotate nor expire a key, if the operator never has
`identity:api-key:write` or `*` and the conditions on keys hold. -/
theorem no_escalation_under_conditions (deployment : Deployment) (operatorId : Nat)
    (state : ConsoleState) (requests : List ConsoleRequest) :
    (Admitted (execConsole deployment) (fun state request => Own operatorId state request ∧
          ¬ Covers (state.console.operatorPermissionCodes operatorId) "identity:role:write" ∧
          RolesCondition operatorId state request) state requests →
      ∀ roleId, (state.console.roles.get? roleId).isSome = true →
        (final (execConsole deployment) state requests).console.rolePermissionCodes roleId =
          state.console.rolePermissionCodes roleId) ∧
    (Admitted (execConsole deployment) (fun state request => Own operatorId state request ∧
          ¬ Covers (state.console.operatorPermissionCodes operatorId) "identity:api-key:write" ∧
          KeysCondition operatorId state request) state requests →
      SameKeys state.identity (final (execConsole deployment) state requests).identity) := by
  constructor
  · intro hadmitted roleId hrole
    have hkeeps := invariant_final (execConsole deployment)
      (I := fun state' => ConsoleStore.Keeps state.console state'.console)
      (fun state' request hadm hkept =>
        hkept.trans (keeps_execConsole hadm.1 hadm.2.1 hadm.2.2))
      requests state (ConsoleStore.Keeps.refl _) hadmitted
    exact (hkeeps roleId hrole).2
  · intro hadmitted
    exact invariant_final (execConsole deployment)
      (I := fun state' => SameKeys state.identity state'.identity)
      (fun state' request hadm hkept =>
        IsTrans.trans _ _ _ hkept (sameKeys_execConsole hadm.1 hadm.2.1 hadm.2.2))
      requests state (refl state.identity) hadmitted

/-- An operator with `admin:read` and `admin:write`, a role with `agent:read` that the
operator does not have, and a service account with a key. -/
def deskState : ConsoleState where
  console :=
    { permissions := ⟨[{ code := "admin:read" }, { code := "admin:write" },
        { code := "agent:read" }]⟩
      roles := ⟨[{ name := "viewer" }]⟩
      operators := ⟨[{ email := "desk@local", name := "Desk" }]⟩
      rolePermissions := [(1, 3)]
      operatorRoles := []
      operatorPermissions := [(1, 1), (1, 2)]
      granted := by decide }
  identity :=
    { accounts := ⟨[
        { tenantId := 1
          projectId := some 1
          name := "Service Account"
          permissions := {"agent:read"}
          createdBy := "1" }]⟩
      keys := ⟨[
        { tenantId := 1
          projectId := some 1
          name := "API Key"
          ownerType := "service_account"
          ownerId := 1
          keyHash := "dr_a"
          keyPrefix := "dr_a"
          scopes := {"agent:read"}
          status := "active"
          createdBy := "1" }]⟩ }

/-- A request on the operator's session. -/
def deskRequest (call : ConsoleCall) : ConsoleRequest where
  headers :=
    { authorization := some "Bearer sess_a"
      tenantId := some 1
      projectId := some 1
      requestId := none }
  sessions token := .ok (if token = "sess_a" then some 1 else none)
  scopes _ := [{ tenantId := none, projectId := none, environment := "*" }]
  now := 0
  call := call

/-- The deployment of the example. -/
def plainDeployment : Deployment where
  hash := fun text => text

/-- The operator has `admin:read` only. -/
def readingDesk : ConsoleState :=
  { deskState with
    console := { deskState.console with operatorPermissions := [(1, 1)], granted := by decide } }

/-- The operator tries to give the role every permission and to rotate the key. -/
theorem no_escalation_under_conditions_desk :
    let requests := [deskRequest (.applyRoleMatrix 1 ["*"] (some "why")),
      deskRequest (.machine (.rotateKey 1 1 {} (some "why") "b"))]
    let after := final (execConsole plainDeployment) readingDesk requests
    after.console.rolePermissionCodes 1 = {"agent:read"} ∧
      SameKeys readingDesk.identity after.identity := by
  intro requests after
  have hown : ∀ call, Own 1 readingDesk (deskRequest call) :=
    fun _ => Or.inl ⟨"sess_a", rfl, rfl, rfl, rfl⟩
  have hwrite : ¬ Covers (readingDesk.console.operatorPermissionCodes 1) "admin:write" := by decide
  obtain ⟨hroles, hkeys⟩ := no_escalation_under_conditions plainDeployment 1 readingDesk requests
  refine ⟨(hroles ?_ 1 (by decide)).trans (by decide), hkeys ?_⟩
  · exact ⟨⟨hown _, by decide, hwrite⟩, ⟨hown _, by decide, trivial⟩, trivial⟩
  · exact ⟨⟨hown _, by decide, trivial⟩, ⟨hown _, by decide, hwrite⟩, trivial⟩

/-- The operator gives the role every permission, and rotates the key. -/
theorem workflows_escalate :
    ByOperator 1 deskState (deskRequest (.applyRoleMatrix 1 ["*"] (some "why"))) ∧
    deskState.console.operatorPermissionCodes 1 = {"admin:read", "admin:write"} ∧
    deskState.console.rolePermissionCodes 1 = {"agent:read"} ∧
    (execConsole plainDeployment deskState
      (deskRequest (.applyRoleMatrix 1 ["*"] (some "why")))).2.console.rolePermissionCodes 1
        = {"*"} ∧
    ¬ SameKeys deskState.identity (execConsole plainDeployment deskState
      (deskRequest (.machine (.rotateKey 1 1 {} (some "why") "b")))).2.identity := by
  refine ⟨⟨"sess_a", by decide, by decide, rfl, by decide⟩, by decide, by decide, by decide, ?_⟩
  intro h
  have hnew := h 2
  revert hnew
  decide

end DimooRun.Api
