/-
  Identity/Console.lean --- operators, roles and permissions of the console.

  Sources: identity/console.py and
  identity/permission_matrix.py.

  A role holds rows of the permission table, and a permission is known by its code; the
  permissions of an operator are its own and those of its roles. Every service method
  first runs `ensure_bootstrap_operator`, which gives the built-in roles their permissions
  back. A method is one transaction: if it raises, the tables are as before.
-/
import Mathlib.Data.Finset.Union
import Mathlib.Data.List.Sort
import DimooRun.Foundation.Json
import DimooRun.Foundation.Table

set_option autoImplicit false

namespace DimooRun.Identity

open Foundation

/-- `ConsoleRole`. -/
structure ConsoleRole where
  name : String
  status : String := "active"
  isDeleted : Bool := false

/-- `ConsolePermission`. -/
structure ConsolePermission where
  code : String
  status : String := "active"
  isDeleted : Bool := false

/-- `ConsoleOperator`, the row. -/
structure ConsoleOperatorRow where
  email : String
  name : String
  status : String := "active"
  isDeleted : Bool := false

/-- The tables of the console. A row of `rolePermissions` is a role and a permission. -/
@[ext]
structure ConsoleStore where
  permissions : Table ConsolePermission
  roles : Table ConsoleRole
  operators : Table ConsoleOperatorRow
  rolePermissions : List (Nat × Nat)
  operatorRoles : List (Nat × Nat)
  operatorPermissions : List (Nat × Nat)
  /-- the foreign key of `console_role_permissions` -/
  granted : ∀ e ∈ rolePermissions, (permissions.get? e.2).isSome = true

/-- What the service raises. -/
inductive ConsoleError where
  /-- `ValueError` -/
  | valueError (text : String)
  /-- `KeyError` -/
  | keyError (id : Nat)
  | integrity

namespace ConsoleStore

/-! ## Queries -/

variable (store : ConsoleStore) (permissionId : Nat)

/-- The code of a permission that is not deleted. -/
def codeOf : Option String :=
  match store.permissions.get? permissionId with
  | none => none
  | some permission => if permission.isDeleted then none else some permission.code

/-- The code of a permission that is not deleted and is active. -/
def activeCodeOf : Option String :=
  match store.permissions.get? permissionId with
  | none => none
  | some permission =>
      if permission.isDeleted || permission.status != "active" then none
      else some permission.code

/-- The second components of the rows with a first one. -/
def related (rows : List (Nat × Nat)) (id : Nat) : List Nat :=
  (rows.filter fun e => e.1 == id).map Prod.snd

/-- `_role_permission_codes`. -/
def rolePermissionCodes (roleId : Nat) : Finset String :=
  ((related store.rolePermissions roleId).filterMap store.codeOf).toFinset

/-- The direct permissions of an operator. -/
def directPermissions (operatorId : Nat) : Finset String :=
  ((related store.operatorPermissions operatorId).filterMap store.activeCodeOf).toFinset

/-- `_operator_permissions`. -/
def operatorPermissionCodes (operatorId : Nat) : Finset String :=
  store.directPermissions operatorId ∪
    ((related store.operatorRoles operatorId).flatMap fun roleId =>
      (related store.rolePermissions roleId).filterMap store.activeCodeOf).toFinset

/-- `_operator_effective_permissions`, with the permissions of one role replaced. -/
def effectivePermissions (operatorId roleId : Nat) (replaced : Finset String) : Finset String :=
  store.directPermissions operatorId ∪
    (related store.operatorRoles operatorId).toFinset.biUnion fun id =>
      if id = roleId then replaced else store.rolePermissionCodes id

/-- `PermissionChange`. -/
structure PermissionChange where
  added : Finset String
  removed : Finset String
  unchanged : Finset String

/-- `RoleMatrixPreview`. -/
structure RoleMatrixPreview where
  roleName : String
  previewPermissions : List String
  change : PermissionChange
  warnings : List PyDict

/-- The operator would not have these of the permissions that role governance requires. -/
def selfLockoutRisk (missing : List String) : PyDict :=
  [("code", .str "self_lockout_risk"),
    ("message", .str ("Preview removes permissions required to continue role governance " ++
      "for the current operator.")),
    ("required_permissions", .list [.str "admin:read", .str "identity:role:write"]),
    ("missing_permissions", .list (missing.map .str))]

def wildcardRemoved : PyDict :=
  [("code", .str "wildcard_removed"),
    ("message", .str "Preview removes wildcard access from the selected role."),
    ("required_review", .bool true)]

section

variable (roleId : Nat) (code : String)

/-- `role_matrix_preview`. -/
def roleMatrixPreview (permissionCodes : List String)
    (currentOperatorId : Option Nat) : Except ConsoleError RoleMatrixPreview :=
  match store.roles.get? roleId with
  | none => .error (.keyError roleId)
  | some role =>
      if role.isDeleted then .error (.keyError roleId)
      else
        let current := store.rolePermissionCodes roleId
        let preview := permissionCodes.toFinset
        let affected (operatorId : Nat) : Bool :=
          (related store.operatorRoles operatorId).contains roleId &&
            match store.operators.get? operatorId with
            | none => false
            | some operator => !operator.isDeleted
        let missing (operatorId : Nat) : List String :=
          ["admin:read", "identity:role:write"].filter fun code =>
            code ∉ store.effectivePermissions operatorId roleId preview
        .ok
          { roleName := role.name
            previewPermissions := permissionCodes.dedup.insertionSort (· ≤ ·)
            change :=
              { added := preview \ current
                removed := current \ preview
                unchanged := current ∩ preview }
            warnings :=
              (match currentOperatorId with
                | none => []
                | some operatorId =>
                    if affected operatorId && !(missing operatorId).isEmpty then
                      [selfLockoutRisk (missing operatorId)]
                    else []) ++
              if "*" ∈ current ∧ "*" ∉ preview then [wildcardRemoved] else [] }

/-! ## Rows of the tables -/

/-- A new permission. -/
def insertPermission (permission : ConsolePermission) : ConsoleStore :=
  { store with
    permissions := store.permissions.insert permission
    granted := by
      intro e hmem
      obtain ⟨row, hrow⟩ := Option.isSome_iff_exists.mp (store.granted e hmem)
      rw [Table.get?_insert_of_some hrow]
      rfl }

/-- Assignments to a permission. -/
def modifyPermission (id : Nat) (f : ConsolePermission → ConsolePermission) : ConsoleStore :=
  { store with
    permissions := store.permissions.modify id f
    granted := by
      intro e hmem
      rw [Table.get?_modify]
      split
      · rw [Option.isSome_map]
        exact store.granted e hmem
      · exact store.granted e hmem }

/-- `delete(ConsoleRolePermission)` of a role. -/
def clearRole : ConsoleStore :=
  { store with
    rolePermissions := store.rolePermissions.filter fun e => e.1 != roleId
    granted := fun e hmem => store.granted e (List.mem_of_mem_filter hmem) }

/-- A new row for a role and a permission that is there. -/
def grant (roleId permissionId : Nat)
    (h : (store.permissions.get? permissionId).isSome = true) : ConsoleStore :=
  { store with
    rolePermissions := store.rolePermissions ++ [(roleId, permissionId)]
    granted := by
      intro e hmem
      rcases List.mem_append.mp hmem with hold | hnew
      · exact store.granted e hold
      · rw [List.mem_singleton.mp hnew]
        exact h }

/-- The row of a code, deleted or not. -/
def findCode : Option (Nat × ConsolePermission) :=
  store.permissions.find? fun permission => permission.code == code

/-- `_ensure_permission`. -/
def ensurePermission : Nat × ConsoleStore :=
  match store.findCode code with
  | some found => (found.1, store)
  | none => (store.permissions.nextId, store.insertPermission { code := code })

/-- The permission that `_ensure_permission` returns is there. -/
theorem isSome_ensurePermission :
    ((store.ensurePermission code).2.permissions.get? (store.ensurePermission code).1).isSome
      = true := by
  unfold ensurePermission
  split
  · rename_i found hfound
    obtain ⟨hget, _⟩ := Table.find?_eq_some hfound
    rw [hget]
    rfl
  · simp [insertPermission, Table.get?_insert]

/-- A role gets the permission with a code. -/
def grantCode : ConsoleStore :=
  (store.ensurePermission code).2.grant roleId (store.ensurePermission code).1
    (store.isSome_ensurePermission code)

end

/-- The permissions of a role are replaced. -/
def replaceRolePermissions (roleId : Nat) (codes : List String) :
    ConsoleStore :=
  codes.foldl (fun store code => store.grantCode roleId code) (store.clearRole roleId)

/-- The role with a name, deleted or not. -/
def findRole (name : String) : Option (Nat × ConsoleRole) :=
  store.roles.find? fun role => role.name == name

/-- `_ensure_role`. -/
def ensureRole (name : String) : Nat × ConsoleStore :=
  match store.findRole name with
  | some found => (found.1, store)
  | none => (store.roles.nextId, { store with roles := store.roles.insert { name := name } })

/-- The table of `_seed_builtin_permissions`. -/
def builtinRoles : List (String × List String) :=
  [("platform_admin", ["*"]),
    ("runtime_operator", ["agent:read", "run:read"]),
    ("identity_admin",
      ["admin:read", "identity:operator:write", "identity:role:write",
        "identity:permission:write", "identity:scope:write", "identity:service-account:write",
        "identity:api-key:write"])]

/-- One turn of the loop of `_seed_builtin_permissions`. -/
def seedRole (builtin : String × List String) : ConsoleStore :=
  (store.ensureRole builtin.1).2.replaceRolePermissions (store.ensureRole builtin.1).1 builtin.2

/-- `_seed_builtin_permissions`. -/
def seedBuiltinPermissions : ConsoleStore :=
  builtinRoles.foldl seedRole store

/-- `_replace_operator_roles`; the unique constraint forbids a role twice. -/
def replaceOperatorRoles (operatorId : Nat) (names : List String) :
    Except ConsoleError ConsoleStore :=
  if ¬ names.Nodup then .error .integrity
  else
    .ok (names.foldl
      (fun store name =>
        { (store.ensureRole name).2 with
          operatorRoles := (store.ensureRole name).2.operatorRoles ++
            [(operatorId, (store.ensureRole name).1)] })
      { store with operatorRoles := store.operatorRoles.filter fun e => e.1 != operatorId })

/-- `_replace_operator_permissions`. -/
def replaceOperatorPermissions (operatorId : Nat) (codes : List String) :
    ConsoleStore :=
  codes.dedup.foldl
    (fun store code =>
      { (store.ensurePermission code).2 with
        operatorPermissions := (store.ensurePermission code).2.operatorPermissions ++
          [(operatorId, (store.ensurePermission code).1)] })
    { store with
      operatorPermissions := store.operatorPermissions.filter fun e => e.1 != operatorId }

/-! ## Operators -/

/-- `_operator_by_email`. -/
def operatorByEmail (email : String) : Option (Nat × ConsoleOperatorRow) :=
  store.operators.find? fun operator => operator.email == email && !operator.isDeleted

/-- A new operator; the unique constraint on the email counts deleted rows too. -/
def insertOperator (email name : String) : Except ConsoleError (Nat × ConsoleStore) :=
  if (store.operators.find? fun operator => operator.email == email).isSome then
    .error .integrity
  else
    .ok (store.operators.nextId,
      { store with operators := store.operators.insert { email := email, name := name } })

/-- A new operator with its roles and permissions. -/
def addOperator (email name : String) (roles codes : List String) :
    Except ConsoleError (Nat × ConsoleStore) :=
  match store.insertOperator email name with
  | .error e => .error e
  | .ok (id, store) =>
      match store.replaceOperatorRoles id roles with
      | .error e => .error e
      | .ok store => .ok (id, store.replaceOperatorPermissions id codes)

/-- `DIMOORUN_BOOTSTRAP_ADMIN_EMAIL` and `DIMOORUN_BOOTSTRAP_ADMIN_NAME`. -/
structure Bootstrap where
  email : String := "admin@local.dimoorun"
  name : String := "Bootstrap Admin"

/-- `ensure_bootstrap_operator`. -/
def ensureBootstrapOperator (bootstrap : Bootstrap) (store : ConsoleStore) :
    Except ConsoleError ConsoleStore :=
  match store.seedBuiltinPermissions.operatorByEmail bootstrap.email with
  | some _ => .ok store.seedBuiltinPermissions
  | none =>
      (store.seedBuiltinPermissions.addOperator bootstrap.email bootstrap.name
        ["platform_admin"] ["*"]).map Prod.snd

/-- The arguments of `create_operator`. `scopeError` is the error, if any, that the given
scopes are refused with. -/
structure NewOperator where
  email : String
  name : String
  roles : List String
  permissions : List String
  scopeError : Option String := none

/-- `create_operator`, after `ensure_bootstrap_operator`. -/
def createOperator (data : NewOperator) : Except ConsoleError (Nat × ConsoleStore) :=
  if (store.operatorByEmail data.email).isSome then
    .error (.valueError "operator_email_exists")
  else
    match store.addOperator data.email data.name
        (if data.roles.isEmpty then ["runtime_operator"] else data.roles)
        (if data.permissions.isEmpty then ["agent:read", "run:read"] else data.permissions) with
    | .error e => .error e
    | .ok added =>
        match data.scopeError with
        | some text => .error (.valueError text)
        | none => .ok added

/-- The arguments of `update_operator`. -/
structure OperatorUpdate where
  name : Option String := none
  roles : Option (List String) := none
  permissions : Option (List String) := none
  status : Option String := none
  scopeError : Option String := none

variable (id : Nat) (data : OperatorUpdate)

/-- The assignments of `update_operator` to the row. -/
def assignOperator : ConsoleStore :=
  { store with
    operators := store.operators.modify id fun operator =>
      { operator with
        name := data.name.getD operator.name
        status := data.status.getD operator.status } }

/-- `if roles is not None`: they are replaced. -/
def updateRoles (roles : Option (List String)) : Except ConsoleError ConsoleStore :=
  match roles with
  | none => .ok store
  | some roles => store.replaceOperatorRoles id roles

/-- `if permissions is not None`: they are replaced. -/
def updatePermissions (permissions : Option (List String)) :
    ConsoleStore :=
  match permissions with
  | none => store
  | some permissions => store.replaceOperatorPermissions id permissions

/-- `update_operator`, after `ensure_bootstrap_operator`; `none` if there is no such
operator. -/
def updateOperator : Except ConsoleError (Option ConsoleStore) :=
  match store.operators.get? id with
  | none => .ok none
  | some operator =>
      if operator.isDeleted then .ok none
      else
        match (store.assignOperator id data).updateRoles id data.roles with
        | .error e => .error e
        | .ok store =>
            match data.scopeError with
            | some text => .error (.valueError text)
            | none => .ok (some (store.updatePermissions id data.permissions))

/-- `delete_operator`, after `ensure_bootstrap_operator`. -/
def deleteOperator : Option ConsoleStore :=
  match store.operators.get? id with
  | none => none
  | some operator =>
      if operator.isDeleted then none
      else
        some
          { store with
            operators := store.operators.modify id fun operator =>
              { operator with status := "deleted", isDeleted := true } }

end ConsoleStore

end DimooRun.Identity
