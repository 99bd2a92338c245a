/-
  Secrets/Provider.lean --- secrets under the policy engine.

  Source: secrets/provider.py.

  Both providers ask the engine and refuse when it denies. They look for no other
  decision: a secret is returned also when the engine wants an approval, a dry run or a
  fallback. The tool gateway stops for an approval, but not for the other two.
-/
import DimooRun.Tools.Gateway

set_option autoImplicit false

namespace DimooRun.Secrets

open Foundation Policy Tools

inductive SecretError where
  /-- `SecretScopeMismatchError` -/
  | scopeMismatch (secretName : String)
  /-- `SecretAccessDeniedError` -/
  | accessDenied (message : String)
  | keyError (secretName : String)
  deriving DecidableEq, Repr

/-- The arguments of `get_secret`. -/
structure SecretQuery where
  tenantId : Int
  projectId : Option Int
  secretName : String
  context : RuntimeContext

namespace SecretQuery

/-- The actor, as both providers name it. -/
def actorId (query : SecretQuery) : Option String :=
  match query.context.userId, query.context.serviceAccountId with
  | none, none => none
  | none, some account => some (toString account)
  | some user, account =>
      some (if user ≠ 0 then toString user else (account.map toString).getD "None")

variable (query : SecretQuery)

/-- `"service_account" if context.service_account_id else "user"`. -/
def actorType : String :=
  if query.context.serviceAccountId.any (· != 0) then "service_account" else "user"

/-- The query is for the tenant and the project of the run. -/
def inScope : Bool :=
  query.tenantId == query.context.tenantId && query.projectId == query.context.projectId

/-- The request of a query of another scope. -/
def violation : PolicyRequest where
  tenantId := query.context.tenantId
  projectId := query.context.projectId
  actorId := query.actorId
  actorType := query.actorType
  resourceType := "secret"
  resourceId := none
  action := "read"

/-- The record of that. -/
def violationAudit : AuditRecord :=
  violationRecord query.violation "secret_scope_mismatch"
    [("requested_tenant_id", .int query.tenantId),
      ("requested_project_id", optionalInt query.projectId)]

/-- The request that a provider makes of the engine. -/
def request (resourceId : Option Int) (environment : Option String) : PolicyRequest where
  tenantId := query.tenantId
  projectId := query.projectId
  actorId := query.actorId
  actorType := query.actorType
  resourceType := "secret"
  resourceId := resourceId
  action := "read"
  environment := environment

/-- The record of a read. -/
def readRecord (resourceId : Option Int) (metadata : PyDict) : AuditRecord where
  tenantId := query.tenantId
  projectId := query.projectId
  actorId := query.actorId
  actorType := query.actorType
  resourceType := "secret"
  resourceId := resourceId
  action := "read"
  result := "allow"
  metadata := metadata

end SecretQuery

/-! ## The provider in memory -/

structure SecretRecord where
  tenantId : Int
  projectId : Option Int
  name : String
  value : String
  status : String := "active"
  lastUsedAt : Option Instant := none

/-- `InMemorySecretProvider`: its secrets and what the audit sink was given. -/
structure SecretStore where
  secrets : Dict (Int × Option Int × String) SecretRecord
  audit : List AuditRecord

variable (py : Builtins) (rules : List StaticPolicyRule) (now : Instant) (query : SecretQuery)
  (s : SecretStore)

/-- `put_secret`. -/
def SecretStore.putSecret (tenantId : Int) (projectId : Option Int)
    (name value : String) : SecretStore :=
  { s with
    secrets := s.secrets.set (tenantId, projectId, name)
      { tenantId := tenantId, projectId := projectId, name := name, value := value } }

/-- The message of a denial. -/
def deniedMessage (decision : PolicyDecision) : String :=
  (decision.reason.filter (· != "")).getD "secret_access_denied"

/-- The key of a secret. -/
def SecretQuery.key : Int × Option Int × String :=
  (query.tenantId, query.projectId, query.secretName)

/-- `InMemorySecretProvider.get_secret`. -/
def SecretStore.getSecret : Except SecretError String × SecretStore :=
  if !query.inScope then
    (.error (.scopeMismatch query.secretName), { s with audit := s.audit ++ [query.violationAudit] })
  else
    match s.secrets.get? query.key with
    | none => (.error (.keyError query.secretName), s)
    | some record =>
        let (decision, records) := evaluate py rules (query.request none none)
        if decision.decision = .deny then
          (.error (.accessDenied (deniedMessage decision)), { s with audit := s.audit ++ records })
        else
          (.ok record.value,
            { secrets := s.secrets.set query.key { record with lastUsedAt := some now }
              audit := s.audit ++ records ++
                [query.readRecord none [("secret_name", .str query.secretName)]] })

/-! ## The durable provider -/

/-- A row of `secrets`. -/
structure SecretRow where
  tenantId : Int
  projectId : Int
  name : String
  provider : String
  scope : String
  status : String
  lastUsedAt : Option Instant
  isDeleted : Bool

/-- The table, and what the audit sink was given. -/
structure SecretTable where
  secrets : Table SecretRow
  audit : List AuditRecord

/-- The query of `_secret_record`. -/
def SecretRow.named (row : SecretRow) (query : SecretQuery) : Bool :=
  row.tenantId == query.tenantId && some row.projectId == query.projectId &&
    row.name == query.secretName && row.status == "active" && !row.isDeleted

/-- `_secret_record`. -/
def SecretTable.secretRecord (s : SecretTable) (query : SecretQuery) : Option (Nat × SecretRow) :=
  s.secrets.find? fun row => row.named query

/-- `SQLAlchemySecretProvider.get_secret`; what it returns is the reference that the run has. -/
def SecretTable.getSecret (s : SecretTable) : Except SecretError String × SecretTable :=
  if !query.inScope then
    (.error (.scopeMismatch query.secretName), { s with audit := s.audit ++ [query.violationAudit] })
  else
    match s.secretRecord query with
    | none => (.error (.keyError query.secretName), s)
    | some (id, record) =>
        let (decision, records) :=
          evaluate py rules (query.request (some id) query.context.environment)
        if decision.decision = .deny then
          (.error (.accessDenied (deniedMessage decision)), { s with audit := s.audit ++ records })
        else
          match query.context.secrets.get? query.secretName with
          | none => (.error (.keyError query.secretName), { s with audit := s.audit ++ records })
          | some secretRef =>
              (.ok secretRef,
                { secrets := s.secrets.modify id fun row => { row with lastUsedAt := some now }
                  audit := s.audit ++ records ++
                    [query.readRecord (some id) [("secret_name", .str query.secretName),
                      ("provider", .str record.provider), ("scope", .str record.scope)]] })

end DimooRun.Secrets
