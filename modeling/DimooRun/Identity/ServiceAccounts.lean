/-
  Identity/ServiceAccounts.lean --- the registry of service accounts.

  Source: identity/service_accounts.py, the registry over the
  database. A deleted account keeps its row.
-/
import Mathlib.Data.Finset.Basic
import DimooRun.Foundation.Table

set_option autoImplicit false

namespace DimooRun.Identity

open Foundation

/-- `ServiceAccount`. -/
structure ServiceAccount where
  tenantId : Int
  projectId : Option Int
  name : String
  permissions : Finset String
  createdBy : String
  status : String := "active"
  isDeleted : Bool := false

/-- `KeyError`. -/
structure KeyError where
  id : Int

/-- The tenants and projects that exist. -/
structure ScopeTables where
  tenants : Int → Bool
  projects : Int → Bool

namespace ServiceAccount

/-- The account is there for its keys: neither deleted nor disabled. -/
def Live (account : ServiceAccount) : Prop :=
  account.isDeleted = false ∧ account.status = "active"

instance (account : ServiceAccount) : Decidable account.Live :=
  inferInstanceAs (Decidable (_ ∧ _))

end ServiceAccount

/-- `SQLAlchemyServiceAccountRegistry`. -/
abbrev ServiceAccountRegistry : Type := Table ServiceAccount

namespace ServiceAccountRegistry

section

variable (registry : ServiceAccountRegistry) (id : Nat) (name : Option String)
  (permissions : Option (Finset String))

/-- `create`; the result is the id of the new account. -/
def create (scopes : ScopeTables) (tenantId : Int)
    (projectId : Option Int) (name : String) (permissions : Finset String) (createdBy : String) :
    Except KeyError (Nat × ServiceAccountRegistry) :=
  if scopes.tenants tenantId = false then .error ⟨tenantId⟩
  else
    let account : ServiceAccount :=
      { tenantId := tenantId
        projectId := projectId
        name := name
        permissions := permissions
        createdBy := createdBy }
    match projectId with
    | none => .ok (registry.nextId, registry.insert account)
    | some project =>
        if scopes.projects project = false then .error ⟨project⟩
        else .ok (registry.nextId, registry.insert account)

/-- `get`. -/
def get : Except KeyError ServiceAccount :=
  match registry.get? id with
  | none => .error ⟨id⟩
  | some account => if account.isDeleted then .error ⟨id⟩ else .ok account

/-- The assignments of `update`. -/
def assign (status : Option String) (account : ServiceAccount) : ServiceAccount :=
  { account with
    name := name.getD account.name
    permissions := permissions.getD account.permissions
    status := status.getD account.status }

/-- `update`. -/
def update (status : Option String) :
    Except KeyError (ServiceAccount × ServiceAccountRegistry) := do
  let account ← registry.get id
  return (assign name permissions status account,
    registry.modify id (assign name permissions status))

/-- The assignments of `delete`. -/
def markDeleted (account : ServiceAccount) : ServiceAccount :=
  { account with status := "deleted", isDeleted := true }

/-- `delete`. -/
def delete : Except KeyError (ServiceAccount × ServiceAccountRegistry) := do
  let account ← registry.get id
  return (markDeleted account, registry.modify id markDeleted)

end

variable {registry : ServiceAccountRegistry} {id : Nat} {account : ServiceAccount}

theorem get_eq_ok : registry.get id = .ok account ↔
      registry.get? id = some account ∧ account.isDeleted = false := by
  unfold get
  cases registry.get? id with
  | none => simp
  | some account' =>
    cases hdeleted : account'.isDeleted with
    | true =>
      simp only [hdeleted, if_true, reduceCtorEq, Option.some.injEq, false_iff, not_and]
      rintro rfl
      simp [hdeleted]
    | false =>
      simp only [hdeleted, Bool.false_eq_true, if_false, Except.ok.injEq, Option.some.injEq]
      constructor
      · rintro rfl
        exact ⟨rfl, hdeleted⟩
      · exact And.left

theorem delete_of_get (h : registry.get id = .ok account) :
    registry.delete id = .ok (markDeleted account, registry.modify id markDeleted) := by
  unfold delete
  rw [h]
  rfl

theorem create_eq_ok {scopes : ScopeTables} {tenantId : Int} {projectId : Option Int}
    {name : String} {permissions : Finset String} {createdBy : String}
    {registry' : ServiceAccountRegistry}
    (h : registry.create scopes tenantId projectId name permissions createdBy = .ok (id, registry')) :
    ∃ account, registry' = registry.insert account := by
  unfold create at h
  split at h
  · cases h
  split at h
  · cases h
    exact ⟨_, rfl⟩
  · split at h
    · cases h
    · cases h
      exact ⟨_, rfl⟩

end ServiceAccountRegistry

end DimooRun.Identity
