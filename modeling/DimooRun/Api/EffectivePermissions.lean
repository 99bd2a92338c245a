/-
  Api/EffectivePermissions.lean --- the permissions of operators over whole runs.

  As long as no role is disabled or deleted while an operator has it, and no operator is
  given a role that is disabled or deleted, every operator has its own permissions and
  those of its active roles. Otherwise the permissions of such a role stay.
-/
import DimooRun.Api.Governance

set_option autoImplicit false

namespace DimooRun.Api

open Foundation Identity
open Identity.ConsoleStore (KeepsLive LivesOn)
open Security ConsoleStore

/-- The assignment does not take the role out of use. -/
def RoleField.KeepsInUse : RoleField → Prop
  | .status value => value = "active"
  | .isDeleted value => value = false
  | _ => True

/-- No role is disabled or deleted while an operator has it, and no operator is given a role
that is disabled or deleted. -/
def RolesInUse (deployment : Deployment) (state : ConsoleState) (request : ConsoleRequest) : Prop :=
  match request.call with
  | .useOperators _ => state.console.BootstrapLive deployment.bootstrap
  | .createOperator data =>
      state.console.BootstrapLive deployment.bootstrap ∧ state.console.NamesLive data.givenRoles
  | .updateOperator _ data =>
      state.console.BootstrapLive deployment.bootstrap ∧
        ∀ names, data.roles = some names → state.console.NamesLive names
  | .deleteOperator _ => state.console.BootstrapLive deployment.bootstrap
  | .updateRole id fields =>
      (∀ field ∈ fields, field.KeepsInUse) ∨ ∀ e ∈ state.console.operatorRoles, e.2 ≠ id
  | .deleteRole id => ∀ e ∈ state.console.operatorRoles, e.2 ≠ id
  | _ => True

section

variable {deployment : Deployment} {state : ConsoleState} {request : ConsoleRequest}
  {store : ConsoleStore}

/-! ## Roles -/

theorem liveRole_modify (store : ConsoleStore) (id : Nat) (f : ConsoleRole → ConsoleRole)
    {roleId : Nat} (h : store.liveRole roleId = true)
    (hf : roleId = id → ∀ role : ConsoleRole, role.Live → (f role).Live) :
    liveRole { store with roles := store.roles.modify id f } roleId = true := by
  simp only [liveRole, Table.get?_modify] at h ⊢
  cases hget : store.roles.get? roleId with
  | none =>
    rw [hget] at h
    cases h
  | some role =>
    rw [hget] at h
    have hlive : role.Live := of_decide_eq_true h
    by_cases hid : roleId = id
    · rw [if_pos hid]
      exact decide_eq_true (hf hid role hlive)
    · rw [if_neg hid]
      exact h

/-- Assignments to a role that nobody has, or that do not take it out of use. -/
theorem heldLive_modifyRole (h : store.HeldLive) (id : Nat) (f : ConsoleRole → ConsoleRole)
    (hf : (∀ role : ConsoleRole, role.Live → (f role).Live) ∨ ∀ e ∈ store.operatorRoles, e.2 ≠ id) :
    ConsoleStore.HeldLive { store with roles := store.roles.modify id f } := by
  intro e he
  refine liveRole_modify store id f (h e he) fun hid role hlive => ?_
  rcases hf with hf | hnot
  · exact hf role hlive
  · exact absurd hid (hnot e he)

theorem roles_grantKnown (store : ConsoleStore) (id : Nat) (code : String) :
    (grantKnown store id code).roles = store.roles ∧
      (grantKnown store id code).operatorRoles = store.operatorRoles := by
  unfold grantKnown
  split <;> exact ⟨rfl, rfl⟩

variable (headers : Headers) (id : Nat)

theorem roles_assignPermissions (codes : List String) : ∀ store : ConsoleStore,
      (codes.foldl (fun store code => grantKnown store id code) store).roles = store.roles ∧
        (codes.foldl (fun store code => grantKnown store id code) store).operatorRoles =
          store.operatorRoles := by
  induction codes with
  | nil => intro store; exact ⟨rfl, rfl⟩
  | cons code codes ih =>
    intro store
    obtain ⟨hroles, hheld⟩ := roles_grantKnown store id code
    obtain ⟨hroles', hheld'⟩ := ih (grantKnown store id code)
    exact ⟨hroles'.trans hroles, hheld'.trans hheld⟩

theorem operatorRoles_assignRole (store : ConsoleStore) (field : RoleField) :
    (assignRole id store field).operatorRoles = store.operatorRoles := by
  cases field with
  | permissions codes => exact (roles_assignPermissions id codes (store.clearRole id)).2
  | _ => rfl

theorem heldLive_assignRole (h : store.HeldLive) {id : Nat} {field : RoleField}
    (hf : field.KeepsInUse ∨ ∀ e ∈ store.operatorRoles, e.2 ≠ id) :
    (assignRole id store field).HeldLive := by
  cases field with
  | name name => exact heldLive_modifyRole h id _ (.inl fun _ hlive => hlive)
  | status status =>
    exact heldLive_modifyRole h id _ (hf.imp_left fun hstatus _ hlive => ⟨hstatus, hlive.2⟩)
  | isDeleted isDeleted =>
    exact heldLive_modifyRole h id _ (hf.imp_left fun hdeleted _ hlive => ⟨hlive.1, hdeleted⟩)
  | permissions codes =>
    obtain ⟨hroles, hheld⟩ := roles_assignPermissions id codes (store.clearRole id)
    exact h.of_livesOn (livesOn_of_roles hroles) fun e he => hheld ▸ he
  | other => exact h

theorem heldLive_assignEach (fields : List RoleField) : ∀ store : ConsoleStore, store.HeldLive →
      ((∀ field ∈ fields, field.KeepsInUse) ∨ ∀ e ∈ store.operatorRoles, e.2 ≠ id) →
        (fields.foldl (assignRole id) store).HeldLive := by
  induction fields with
  | nil => intro store h _; exact h
  | cons field fields ih =>
    intro store h hf
    refine ih (assignRole id store field) (heldLive_assignRole h (hf.imp_left fun hall =>
      hall field List.mem_cons_self)) ?_
    rw [operatorRoles_assignRole]
    exact hf.imp_left fun hall next hnext => hall next (List.mem_cons_of_mem field hnext)

theorem heldLive_updateRole (h : store.HeldLive) {id : Nat} {fields : List RoleField}
    (hf : (∀ field ∈ fields, field.KeepsInUse) ∨ ∀ e ∈ store.operatorRoles, e.2 ≠ id) :
    (updateRole headers id fields store).2.HeldLive := by
  unfold updateRole
  split
  · exact h
  split
  · exact h
  dsimp only
  split
  · exact heldLive_assignEach id fields store h hf
  · exact h

theorem heldLive_applyRoleMatrix (caller : Caller) (roleId : Nat) (codes : List String)
    (auditReason : Option String) (h : store.HeldLive) :
    (applyRoleMatrix caller roleId codes auditReason store).2.HeldLive := by
  unfold applyRoleMatrix
  split
  · exact h
  split
  · exact h
  split
  · exact h
  · exact h.of_livesOn
      (livesOn_of_roles (roles_replaceRolePermissions _ _ _))
      fun e he => (rows_replaceRolePermissions rfl).1.operatorRoles ▸ he

/-! ## Operators -/

theorem heldLive_execOperators (h : state.console.HeldLive)
    (hbootstrap : state.console.BootstrapLive deployment.bootstrap) {guard : Guard}
    {names : List String} (hnames : state.console.NamesLive names)
    {method : ConsoleStore → ConsoleReply × ConsoleStore}
    (hmethod : ∀ store, Gives names store (method store).2) :
    (execOperators deployment state request guard method).2.console.HeldLive := by
  refine execOperators_induction ConsoleStore.HeldLive h fun store hensured => ?_
  have hkeeps := keepsLive_ensureBootstrapOperator hbootstrap hensured
  exact (hmethod store).heldLive (hnames.of_livesOn hkeeps.livesOn) (hkeeps.held h)

theorem namesLive_nil (store : ConsoleStore) : store.NamesLive [] :=
  fun _ hname => absurd hname List.not_mem_nil

/-! ## Requests -/

theorem heldLive_execRouted (h : state.console.HeldLive) {call : ConsoleCall}
    (hhandle : ∀ caller, (handle deployment caller request.headers call state).2.console.HeldLive) :
    (execRouted deployment state request call).2.console.HeldLive :=
  execRouted_induction (fun state' => state'.console.HeldLive) h hhandle

/-- One request that meets the condition. -/
theorem heldLive_execConsole (h : state.console.HeldLive)
    (hcond : RolesInUse deployment state request) :
    (execConsole deployment state request).2.console.HeldLive := by
  obtain ⟨headers, sessions, scopes, now, call⟩ := request
  cases call with
  | useOperators guard => exact heldLive_execOperators h hcond (namesLive_nil _) (Gives.refl [])
  | createOperator data =>
    exact heldLive_execOperators h hcond.1 hcond.2 (gives_createOperator headers data)
  | updateOperator id data =>
    refine heldLive_execOperators h hcond.1 ?_ (gives_updateOperator headers id data)
    cases hroles : data.roles with
    | none => exact namesLive_nil _
    | some names => exact hcond.2 names hroles
  | deleteOperator id =>
    exact heldLive_execOperators h hcond (namesLive_nil _) (gives_deleteOperator headers id)
  | createRole name status =>
    exact heldLive_execRouted h fun _ => createRole_induction h fun _ e he =>
      liveRole_of_extends (.insert _ _) (h e he)
  | updateRole id fields => exact heldLive_execRouted h fun _ => heldLive_updateRole headers h hcond
  | deleteRole id =>
    exact heldLive_execRouted h fun _ => deleteRole_induction h fun f =>
      heldLive_modifyRole h id f (.inr hcond)
  | createPermission code status =>
    exact heldLive_execRouted h fun _ => createPermission_induction h fun _ => h
  | updatePermission id fields | deletePermission id =>
    exact heldLive_execRouted h fun _ => changePermission_induction h h
  | applyRoleMatrix roleId codes auditReason =>
    exact heldLive_execRouted h fun caller =>
      heldLive_applyRoleMatrix caller roleId codes auditReason h
  | _ => exact heldLive_execRouted h fun _ => h

end

/-! ## Runs -/

theorem granted_nil :
    ∀ e ∈ ([] : List (Nat × Nat)), ((⟨[]⟩ : Table ConsolePermission).get? e.2).isSome = true :=
  fun _ h => absurd h List.not_mem_nil

/-- No tables are filled yet. -/
def freshConsole (identity : IdentityStore) : ConsoleState where
  console := ⟨⟨[]⟩, ⟨[]⟩, ⟨[]⟩, [], [], [], granted_nil⟩
  identity := identity

/-- In every run whose requests meet the condition, every operator ends with its own
permissions and those of its active roles. -/
theorem permissions_follow_roles_in_use (deployment : Deployment) (identity : IdentityStore)
    (requests : List ConsoleRequest)
    (h : Admitted (execConsole deployment) (RolesInUse deployment) (freshConsole identity) requests) :
    ∀ operatorId,
      (final (execConsole deployment) (freshConsole identity)
        requests).console.operatorPermissionCodes operatorId =
      (final (execConsole deployment) (freshConsole identity)
        requests).console.intendedPermissions operatorId := by
  have hheld := invariant_final (execConsole deployment)
    (I := fun state => state.console.HeldLive)
    (fun state request hcond held => heldLive_execConsole held hcond) requests
    (freshConsole identity) (fun e he => by cases he) h
  exact fun operatorId => operatorPermissionCodes_of_heldLive hheld operatorId

/-- The administrator sets up a role with a permission, and an operator who has the role. -/
def setupRole : List ConsoleRequest :=
  [deskRequest (.useOperators .none), deskRequest (.createRole (some "auditor") none),
    deskRequest (.createPermission (some "audit:read") none),
    deskRequest (.updateRole 4 [.permissions ["audit:read"]]),
    deskRequest (.createOperator
      { email := "a@local", name := "A", roles := ["auditor"], permissions := ["run:read"] })]

/-- The console after some requests. -/
def consoleAfter (requests : List ConsoleRequest) : ConsoleStore :=
  (final (execConsole plainDeployment) (freshConsole ⟨⟨[]⟩, ⟨[]⟩⟩) requests).console

/-- The role is in use in the whole run. -/
theorem permissions_follow_roles_in_use_auditor :
    (consoleAfter setupRole).operatorPermissionCodes 2 =
        (consoleAfter setupRole).intendedPermissions 2 ∧
      (consoleAfter setupRole).operatorPermissionCodes 2 = {"run:read", "audit:read"} := by
  refine ⟨permissions_follow_roles_in_use plainDeployment ⟨⟨[]⟩, ⟨[]⟩⟩ setupRole
    ⟨.inr ?_, trivial, trivial, .inl ?_, ⟨.inl ?_, ?_⟩, trivial⟩ 2, by decide +kernel⟩
  · intro name _ found hfound
    cases hfound
  · intro field hfield
    cases List.mem_singleton.mp hfield
    trivial
  · decide
  · intro name hname found hfound
    cases List.mem_singleton.mp hname
    cases (show some (4, _) = some found from hfound)
    decide

/-- The role is deleted or disabled: the operator keeps what only the role has given. -/
theorem deleted_role_still_grants :
    (consoleAfter (setupRole ++ [deskRequest (.deleteRole 4)])).operatorPermissionCodes 2 =
      {"run:read", "audit:read"} ∧
    (consoleAfter (setupRole ++ [deskRequest (.deleteRole 4)])).intendedPermissions 2 =
      {"run:read"} ∧
    (consoleAfter (setupRole ++
        [deskRequest (.updateRole 4 [.status "disabled"])])).operatorPermissionCodes 2 =
      {"run:read", "audit:read"} ∧
    (consoleAfter (setupRole ++
        [deskRequest (.updateRole 4 [.status "disabled"])])).intendedPermissions 2 =
      {"run:read"} := by
  refine ⟨?_, ?_, ?_, ?_⟩ <;> decide +kernel

end DimooRun.Api
