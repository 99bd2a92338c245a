/-
  Identity/Sessions.lean --- logins, sessions and the cache of sessions.

  Sources: identity/console.py, `MemorySessionCache` and the methods
  of `ConsoleIdentityService`, and api/admin/identity_workflows.py,
  `revoke_operator_session`.

  The cache belongs to a process, the tables to all of them. A method that raises leaves
  the tables as they were, but what it did to the cache stays. The clock is read once in
  a method.
-/
import DimooRun.Foundation.Trace
import DimooRun.Identity.Seeding
import DimooRun.Foundation.Dict
import DimooRun.Identity.OperatorScopes

set_option autoImplicit false

namespace DimooRun.Identity

open Foundation

/-! ## The database of the identity service

The tables of operators, roles and permissions, with the scopes, the credentials and the
sessions of operators. Every administrative method first runs
`ensure_bootstrap_operator`, which is a transaction of its own; the rest of the method
is a second one. A transaction that raises leaves the tables as they were. -/

/-- A time in microseconds. -/
abbrev Instant : Type := Int

/-- What `hash_password` encodes. -/
structure PasswordHash where
  iterations : Nat
  salt : String
  digest : String
  deriving DecidableEq

/-- The functions of `hashlib`: `pbkdf2_hmac` of a password, a salt and a number of iterations,
and `sha256` of a token. -/
structure Hashing where
  pbkdf2 : String → String → Nat → String
  sha256 : String → String

section

variable (hashing : Hashing) (salt password : String)

/-- `hash_password`, with the salt that was drawn. -/
def Hashing.hashPassword : PasswordHash where
  iterations := 240000
  salt := salt
  digest := hashing.pbkdf2 password salt 240000

/-- `verify_password`. -/
def Hashing.verifyPassword (encoded : PasswordHash) : Bool :=
  hashing.pbkdf2 password encoded.salt encoded.iterations == encoded.digest

/-- `hash_token`. -/
def Hashing.hashToken (token : String) : String := hashing.sha256 token

end

/-- `ConsoleOperatorCredential`. -/
structure Credential where
  passwordHash : PasswordHash
  failedLoginCount : Nat := 0
  lockedUntil : Option Instant := none

/-- `ConsoleOperatorSession`. -/
structure SessionRow where
  operatorId : Nat
  tokenHash : String
  lastUsedAt : Instant
  expiresAt : Instant
  revokedAt : Option Instant := none
  revokeReason : Option String := none

/-- The table of sessions, with its unique constraint. -/
structure SessionTable where
  rows : Table SessionRow := {}
  unique : ∀ id id' row row', rows.get? id = some row → rows.get? id' = some row' →
    row.tokenHash = row'.tokenHash → id = id' := by
      intro id id' row row' h
      cases id <;> cases h

namespace SessionTable

variable (t : SessionTable) (tokenHash : String) (f : SessionRow → SessionRow)

/-- The session of a token hash. -/
def find? : Option (Nat × SessionRow) :=
  t.rows.find? fun row => row.tokenHash == tokenHash

/-- A new session, if its hash is new. -/
def insert (row : SessionRow) (h : t.find? row.tokenHash = none) : SessionTable where
  rows := t.rows.insert row
  unique := Table.unique_insert t.unique h

/-- Assignments to the rows; the hash of a session is never assigned to. -/
def update (hf : ∀ row, (f row).tokenHash = row.tokenHash) : SessionTable where
  rows := t.rows.map f
  unique := by
    intro id id' row row' hget hget' hsame
    rw [Table.get?_map, Option.map_eq_some_iff] at hget hget'
    obtain ⟨old, hold, rfl⟩ := hget
    obtain ⟨old', hold', rfl⟩ := hget'
    rw [hf, hf] at hsame
    exact t.unique id id' old old' hold hold' hsame

/-- Assignments to the row of a hash. -/
def updateHash (hf : ∀ row, (f row).tokenHash = row.tokenHash) : SessionTable :=
  t.update (fun row => if row.tokenHash = tokenHash then f row else row) (by
    intro row
    split
    · exact hf row
    · rfl)

end SessionTable

/-- The tables of the service. -/
structure ConsoleDb where
  store : ConsoleStore
  scopes : ScopeStore
  credentials : Dict Nat Credential
  sessions : SessionTable

/-- The environment variables that the service reads. -/
structure ConsoleSettings where
  bootstrap : ConsoleStore.Bootstrap := {}
  bootstrapPassword : String
  defaultScope : DefaultScope := {}
  /-- `DIMOORUN_CONSOLE_ACCESS_TOKEN_TTL_SECONDS` -/
  ttlSeconds : Int := 43200

namespace ConsoleDb

/-! ## The bootstrap operator -/

section

variable (hashing : Hashing) (settings : ConsoleSettings)

/-- A new operator gets its password. -/
def withPassword (db : ConsoleDb) (operatorId : Nat) (salt password : String) : ConsoleDb :=
  { db with
    credentials := db.credentials.set operatorId
      { passwordHash := hashing.hashPassword salt password } }

/-- `ensure_bootstrap_operator`; `salt` is the one that `hash_password` draws. -/
def ensureBootstrapOperator (salt : String) (db : ConsoleDb) : Except ConsoleError ConsoleDb :=
  match db.store.seedBuiltinPermissions.operatorByEmail settings.bootstrap.email with
  | some existing =>
      match db.scopes.ensureOperatorScope settings.defaultScope existing.1 with
      | .error e => .error e
      | .ok scopes => .ok { db with store := db.store.seedBuiltinPermissions, scopes := scopes }
  | none =>
      match db.store.seedBuiltinPermissions.addOperator settings.bootstrap.email
          settings.bootstrap.name ["platform_admin"] ["*"] with
      | .error e => .error e
      | .ok (operatorId, store) =>
          match db.scopes.giveDefaultScope settings.defaultScope operatorId with
          | .error e => .error e
          | .ok scopes =>
              .ok ({ db with store := store, scopes := scopes }.withPassword hashing operatorId salt
                settings.bootstrapPassword)

end

/-! ## Administration -/

section

variable (hashing : Hashing) (settings : ConsoleSettings)

/-- The arguments of `create_operator`. -/
structure CreateOperator where
  email : String
  name : String
  password : String
  roles : List String := []
  permissions : List String := []
  allowedScopes : List ScopeInput := []
  /-- the salts that `hash_password` draws -/
  bootstrapSalt : String
  salt : String

/-- `allowed_scopes or [default_scope]`. -/
def giveScopes (scopes : ScopeStore) (operatorId : Nat) (allowedScopes : List ScopeInput) :
    Except ConsoleError ScopeStore :=
  if allowedScopes.isEmpty then scopes.giveDefaultScope settings.defaultScope operatorId
  else scopes.replaceOperatorScopes operatorId [] allowedScopes

/-- The second transaction of `create_operator`. -/
def insertOperator (data : CreateOperator) (db : ConsoleDb) :
    Except ConsoleError (Nat × ConsoleDb) :=
  match db.store.createOperator
      { email := data.email, name := data.name, roles := data.roles,
        permissions := data.permissions } with
  | .error e => .error e
  | .ok (operatorId, store) =>
      match giveScopes settings db.scopes operatorId data.allowedScopes with
      | .error e => .error e
      | .ok scopes =>
          .ok (operatorId, { db with store := store, scopes := scopes }.withPassword hashing
            operatorId data.salt data.password)

/-- The arguments of `update_operator`. -/
structure UpdateOperator where
  name : Option String := none
  roles : Option (List String) := none
  permissions : Option (List String) := none
  allowedScopes : Option (List ScopeInput) := none
  status : Option String := none

/-- `if allowed_scopes is not None`: they are replaced. -/
def updateScopes (scopes : ScopeStore) (operatorId : Nat)
    (allowedScopes : Option (List ScopeInput)) : Except ConsoleError ScopeStore :=
  match allowedScopes with
  | none => .ok scopes
  | some allowedScopes => scopes.replaceOperatorScopes operatorId [] allowedScopes

variable (now : Instant) (operatorId : Nat) (data : UpdateOperator) (db : ConsoleDb)

/-- The rows of `_revoke_operator_sessions`: the sessions of the operator that are not revoked. -/
def isOpenFor (row : SessionRow) : Bool :=
  row.operatorId == operatorId && row.revokedAt.isNone

/-- `_revoke_operator_sessions`, on the table. -/
def revokeOperatorSessions (reason : String) (operatorId : Nat) (db : ConsoleDb) :
    ConsoleDb :=
  { db with
    sessions := db.sessions.update
      (fun row =>
        if isOpenFor operatorId row then
          { row with revokedAt := some now, revokeReason := some reason }
        else row)
      (by
        intro row
        split <;> rfl) }

/-- `if status is not None` and `status != "active"`. -/
def UpdateOperator.disables : Bool :=
  match data.status with
  | none => false
  | some status => status != "active"

/-- The second transaction of `update_operator`; `none` if there is no such operator. -/
def updateOperator : Except ConsoleError (Option ConsoleDb) :=
  match db.store.updateOperator operatorId
      { name := data.name, roles := data.roles, permissions := data.permissions,
        status := data.status } with
  | .error e => .error e
  | .ok none => .ok none
  | .ok (some store) =>
      match updateScopes db.scopes operatorId data.allowedScopes with
      | .error e => .error e
      | .ok scopes =>
          let db := { db with store := store, scopes := scopes }
          .ok (some
            (if data.disables then db.revokeOperatorSessions now "operator_disabled" operatorId
            else db))

/-- The second transaction of `delete_operator`. -/
def deleteOperator : Option ConsoleDb :=
  match db.store.deleteOperator operatorId with
  | none => none
  | some store =>
      some ({ db with store := store }.revokeOperatorSessions now "operator_deleted" operatorId)

end

end ConsoleDb

/-! ## The cache -/

/-- What is read of the payload that `_session_cache_payload` makes. -/
structure CachedSession where
  operatorId : Nat
  expiresAt : Instant

/-- `MemorySessionCache`: payloads by the hash of their token, each with the time until which it is
kept. -/
abbrev SessionCache : Type := Dict String (CachedSession × Instant)

namespace SessionCache

variable (cache : SessionCache) (now : Instant)

/-- `get`; an item whose time is over is dropped. -/
def lookup (tokenHash : String) : Option CachedSession × SessionCache :=
  match cache.get? tokenHash with
  | none => (none, cache)
  | some (payload, keptUntil) =>
      if keptUntil ≤ now then (none, cache.erase tokenHash) else (some payload, cache)

/-- `set`, with `max(1, int((expires_at - now).total_seconds()))` as the time to live. -/
def store (tokenHash : String) (payload : CachedSession) :
    SessionCache :=
  cache.set tokenHash (payload, now + 1000000 * max 1 ((payload.expiresAt - now).tdiv 1000000))

/-- `delete` of several hashes. -/
def deleteAll (hashes : List String) : SessionCache :=
  hashes.foldl (fun cache tokenHash => cache.erase tokenHash) cache

end SessionCache

/-! ## What the service returns -/

/-- `ConsoleOperator`, as `_hydrate_operator` returns it. -/
structure HydratedOperator where
  id : Nat
  email : String
  name : String
  status : String
  roles : List String
  permissions : Finset String
  allowedScopes : List OperatorScope

/-- `ConsoleSession`. -/
structure IssuedSession where
  token : String
  operatorId : Nat
  expiresAt : Instant

namespace ConsoleDb

variable (db : ConsoleDb) (operatorId : Nat)

/-- The name of a role that is active and not deleted. -/
def activeRoleName (roleId : Nat) : Option String :=
  match db.store.roles.get? roleId with
  | none => none
  | some role => if role.isDeleted || role.status != "active" then none else some role.name

/-- `_operator_roles`. -/
def operatorRoles : List String :=
  ((ConsoleStore.related db.store.operatorRoles operatorId).filterMap
    db.activeRoleName).insertionSort (· ≤ ·)

/-- `_hydrate_operator`. -/
def hydrate (operator : ConsoleOperatorRow) : HydratedOperator where
  id := operatorId
  email := operator.email
  name := operator.name
  status := operator.status
  roles := db.operatorRoles operatorId
  permissions := db.store.operatorPermissionCodes operatorId
  allowedScopes := db.scopes.scopesOf operatorId

/-- `session.get(ConsoleOperatorModel, id)`, if it is active and not deleted. -/
def activeOperator : Option ConsoleOperatorRow :=
  match db.store.operators.get? operatorId with
  | none => none
  | some operator =>
      if operator.status != "active" || operator.isDeleted then none else some operator

/-- The tables with other sessions. -/
def withSessions (sessions : SessionTable) : ConsoleDb :=
  { db with sessions := sessions }

end ConsoleDb

/-- `_session_is_active`. -/
def SessionRow.isActive (row : SessionRow) (now : Instant) : Bool :=
  row.revokedAt.isNone && decide (now < row.expiresAt)

/-- The service of one process. -/
structure ConsoleService where
  db : ConsoleDb
  cache : SessionCache

/-- What a method returns or raises, and the state it leaves. -/
abbrev Outcome (α : Type) : Type := Except ConsoleError α × ConsoleService

namespace ConsoleService

section

variable (hashing : Hashing) (settings : ConsoleSettings)

/-! ## Sessions -/

/-- The session is used at a time. -/
def touch (sessions : SessionTable) (tokenHash : String) (now : Instant) : SessionTable :=
  sessions.updateHash tokenHash (fun row => { row with lastUsedAt := now }) fun _ => rfl

/-- The session is revoked. -/
def revoke (sessions : SessionTable) (tokenHash : String) (now : Instant) (reason : String) :
    SessionTable :=
  sessions.updateHash tokenHash
    (fun row => { row with revokedAt := some now, revokeReason := some reason }) fun _ => rfl

variable (now : Instant) (token reason : String) (s : ConsoleService)

/-- `revoke_session`. -/
def revokeSession : ConsoleService :=
  let tokenHash := hashing.hashToken token
  let db := match s.db.sessions.find? tokenHash with
    | none => s.db
    | some (_, row) =>
        if row.revokedAt.isNone then s.db.withSessions (revoke s.db.sessions tokenHash now reason)
        else s.db
  { db := db, cache := s.cache.erase tokenHash }

/-- `_get_operator_by_session_from_db`. -/
def getOperatorBySessionFromDb (tokenHash : String) (s : ConsoleService) :
    Option HydratedOperator × ConsoleService :=
  match s.db.sessions.find? tokenHash with
  | none => (none, s)
  | some (_, row) =>
      if row.isActive now = false then (none, { s with cache := s.cache.erase tokenHash })
      else
        match s.db.activeOperator row.operatorId with
        | none => (none, { s with cache := s.cache.erase tokenHash })
        | some operator =>
            let db := s.db.withSessions (touch s.db.sessions tokenHash now)
            (some (db.hydrate row.operatorId operator),
              { db := db
                cache := s.cache.store now tokenHash
                  { operatorId := row.operatorId, expiresAt := row.expiresAt } })

/-- `get_operator_by_session`, for a payload found in the cache. -/
def getOperatorBySessionCached (cached : CachedSession)
    (s : ConsoleService) : Option HydratedOperator × ConsoleService :=
  let tokenHash := hashing.hashToken token
  if cached.expiresAt ≤ now then (none, s.revokeSession hashing now token "expired")
  else
    match s.db.sessions.find? tokenHash with
    | none => (none, { s with cache := s.cache.erase tokenHash })
    | some (_, row) =>
        if row.isActive now = false then (none, { s with cache := s.cache.erase tokenHash })
        else
          match s.db.activeOperator cached.operatorId with
          | none => (none, { s with cache := s.cache.erase tokenHash })
          | some operator =>
              let db := s.db.withSessions (touch s.db.sessions tokenHash now)
              (some (db.hydrate cached.operatorId operator), { s with db := db })

/-- `get_operator_by_session`. -/
def getOperatorBySession : Option HydratedOperator × ConsoleService :=
  let tokenHash := hashing.hashToken token
  let found := s.cache.lookup now tokenHash
  let s := { s with cache := found.2 }
  match found.1 with
  | some cached => s.getOperatorBySessionCached hashing now token cached
  | none => s.getOperatorBySessionFromDb now tokenHash

/-! ## Logging in -/

/-- The check of the password in `authenticate`. -/
def checkPassword (password : String) (operatorId : Nat) (credential : Credential)
    (db : ConsoleDb) : Bool × ConsoleDb :=
  if hashing.verifyPassword password credential.passwordHash then
    (true,
      { db with
        credentials := db.credentials.set operatorId
          { credential with failedLoginCount := 0, lockedUntil := none } })
  else
    (false,
      { db with
        credentials := db.credentials.set operatorId
          { credential with
            failedLoginCount := credential.failedLoginCount + 1
            lockedUntil :=
              if credential.failedLoginCount + 1 ≥ 5 then some (now + 15 * 60 * 1000000)
              else credential.lockedUntil } })

/-- `credential.locked_until` is in the future. -/
def Credential.isLocked (credential : Credential) (now : Instant) : Bool :=
  match credential.lockedUntil with
  | none => false
  | some lockedUntil => decide (now < lockedUntil)

/-- The credential that a login is checked against, if it gets so far. -/
def loginCredential (email : String) (db : ConsoleDb) : Option (Nat × Credential) :=
  match db.store.operatorByEmail email with
  | none => none
  | some (operatorId, operator) =>
      if operator.status != "active" || operator.isDeleted then none
      else
        match db.credentials.get? operatorId with
        | none => none
        | some credential =>
            if Credential.isLocked credential now then none else some (operatorId, credential)

/-- The end of `authenticate`: the payload is cached, and then the row is written. -/
def openSession (operatorId : Nat) (checked : ConsoleDb)
    (s : ConsoleService) : Outcome (Option IssuedSession) :=
  let tokenHash := hashing.hashToken token
  let expiresAt := now + 1000000 * settings.ttlSeconds
  let cache := s.cache.store now tokenHash { operatorId := operatorId, expiresAt := expiresAt }
  if h : s.db.sessions.find? tokenHash = none then
    (.ok (some { token := token, operatorId := operatorId, expiresAt := expiresAt }),
      { db := checked.withSessions (s.db.sessions.insert
          { operatorId := operatorId, tokenHash := tokenHash, lastUsedAt := now,
            expiresAt := expiresAt } h)
        cache := cache })
  else (.error .integrity, { s with cache := cache })

/-- A method that first runs `ensure_bootstrap_operator`. -/
def afterBootstrap {α : Type} (salt : String) (s : ConsoleService)
    (body : ConsoleService → Outcome α) : Outcome α :=
  match s.db.ensureBootstrapOperator hashing settings salt with
  | .error e => (.error e, s)
  | .ok db => body { s with db := db }

/-- `authenticate`, with the token that is drawn. -/
def authenticate (email password token salt : String) (s : ConsoleService) :
    Outcome (Option IssuedSession) :=
  afterBootstrap hashing settings salt s fun s =>
    match loginCredential now email s.db with
    | none => (.ok none, s)
    | some (operatorId, credential) =>
        match checkPassword hashing now password operatorId credential s.db with
        | (false, db) => (.ok none, { s with db := db })
        | (true, db) => s.openSession hashing settings now token operatorId db

/-! ## Administration -/

section

variable (db : ConsoleDb) (operatorId : Nat)

/-- The hashes that `_revoke_operator_sessions` deletes from the cache. -/
def openHashes : List String :=
  (db.sessions.rows.select (ConsoleDb.isOpenFor operatorId)).map fun e => e.2.tokenHash

/-- The cache after `_revoke_operator_sessions`. -/
def withoutSessionsOf : SessionCache :=
  s.cache.deleteAll (openHashes s.db operatorId)

/-- `operator is None or operator.is_deleted`. -/
def isMissing : Bool :=
  match db.store.operators.get? operatorId with
  | none => true
  | some operator => operator.isDeleted

end

/-- `create_operator`. -/
def createOperator (data : ConsoleDb.CreateOperator) (s : ConsoleService) : Outcome Nat :=
  afterBootstrap hashing settings data.bootstrapSalt s fun s =>
    match s.db.insertOperator hashing settings data with
    | .error e => (.error e, s)
    | .ok (operatorId, db) => (.ok operatorId, { s with db := db })

variable (actor : Option Nat) (operatorId sessionId : Nat)

/-- `update_operator`; `false` stands for `None`. -/
def updateOperator (data : ConsoleDb.UpdateOperator)
    (salt : String) (s : ConsoleService) : Outcome Bool :=
  afterBootstrap hashing settings salt s fun s =>
    if isMissing s.db operatorId then (.ok false, s)
    else
      -- the cache is written before the tables are
      let cache := if data.disables then s.withoutSessionsOf operatorId else s.cache
      match s.db.updateOperator now operatorId data with
      | .error e => (.error e, { s with cache := cache })
      | .ok none => (.ok false, s)
      | .ok (some db) => (.ok true, { db := db, cache := cache })

/-- `delete_operator`; `false` stands for `None`. -/
def deleteOperator (salt : String) (s : ConsoleService) : Outcome Bool :=
  afterBootstrap hashing settings salt s fun s =>
    match s.db.deleteOperator now operatorId with
    | none => (.ok false, s)
    | some db => (.ok true, { db := db, cache := s.withoutSessionsOf operatorId })

/-- The arguments of `change_password`. -/
structure PasswordChange where
  currentPassword : Option String
  newPassword : String
  requireCurrent : Bool := true
  /-- the salts that `hash_password` draws -/
  bootstrapSalt : String
  salt : String

/-- `require_current` and the current password is not given or is wrong. -/
def PasswordChange.refused (change : PasswordChange) (credential : Credential) : Bool :=
  change.requireCurrent &&
    match change.currentPassword with
    | none => true
    | some password => !hashing.verifyPassword password credential.passwordHash

/-- `change_password`. -/
def changePassword (change : PasswordChange) (s : ConsoleService) : Outcome Bool :=
  afterBootstrap hashing settings change.bootstrapSalt s fun s =>
    if isMissing s.db operatorId then (.ok false, s)
    else
      match s.db.credentials.get? operatorId with
      | none => (.ok false, s)
      | some credential =>
          if change.refused hashing credential then (.ok false, s)
          else
            let db :=
              { s.db with
                credentials := s.db.credentials.set operatorId
                  { credential with
                    passwordHash := hashing.hashPassword change.salt change.newPassword } }
            (.ok true,
              { db := db.revokeOperatorSessions now "password_changed" operatorId
                cache := s.withoutSessionsOf operatorId })

/-- `revoke_operator_sessions`. -/
def revokeOperatorSessions (reason salt : String) (s : ConsoleService) : Outcome Bool :=
  afterBootstrap hashing settings salt s fun s =>
    if isMissing s.db operatorId then (.ok false, s)
    else
      (.ok true,
        { db := s.db.revokeOperatorSessions now reason operatorId
          cache := s.withoutSessionsOf operatorId })

/-- `_active_identity_admin_session_count`. -/
def activeSessionCount (db : ConsoleDb) : Nat :=
  (db.sessions.rows.select fun row => row.operatorId == operatorId && row.isActive now).length

/-- The answer of the endpoint `revoke_operator_session`. -/
inductive RevokeReply where
  | ok
  /-- 404 `operator_session_not_found` -/
  | notFound
  /-- 409 `self_lockout_blocked` -/
  | selfLockout
  deriving DecidableEq

/-- The endpoint `revoke_operator_session`; `actor` is the operator that asks, if it is one. -/
def revokeOperatorSession (s : ConsoleService) : RevokeReply × ConsoleService :=
  match s.db.sessions.rows.get? sessionId with
  | none => (.notFound, s)
  | some row =>
      if isMissing s.db operatorId || row.operatorId != operatorId then (.notFound, s)
      else if actor = some operatorId ∧ activeSessionCount now operatorId s.db ≤ 1 then
        (.selfLockout, s)
      else
        (.ok,
          { db := s.db.withSessions (revoke s.db.sessions row.tokenHash now "admin_revoked")
            cache := s.cache.erase row.tokenHash })

end

end ConsoleService

/-! ## What the bootstrap does

Every login and every listing runs it. It leaves the roles and operators that are there
alone exactly if the built-in roles hold what they are seeded with and the bootstrap
operator has the default scope, and each scope once; the second time it changes nothing.
It raises exactly if the bootstrap operator was deleted, for then the lookup before the
insertion does not see the row that the unique constraint sees. -/

namespace ConsoleDb

open ConsoleStore

variable {hashing : Hashing} {settings : ConsoleSettings} {salt : String} {db db' : ConsoleDb}

/-- The bootstrap operator is there: its scopes are seen to. -/
structure Found (settings : ConsoleSettings) (db db' : ConsoleDb)
    (existing : Nat × ConsoleOperatorRow) :
    Prop where
  found : db.store.operatorByEmail settings.bootstrap.email = some existing
  store : db'.store = db.store.seedBuiltinPermissions
  scopes : db.scopes.ensureOperatorScope settings.defaultScope existing.1 = .ok db'.scopes
  credentials : db'.credentials = db.credentials
  sessions : db'.sessions = db.sessions

/-- The bootstrap operator is not there: it is made. -/
structure Made (settings : ConsoleSettings) (db db' : ConsoleDb) (operatorId : Nat) : Prop where
  missing : db.store.operatorByEmail settings.bootstrap.email = none
  added : Added db.store.seedBuiltinPermissions db'.store operatorId
    { email := settings.bootstrap.email, name := settings.bootstrap.name } ["platform_admin"]
  scopes : db.scopes.giveDefaultScope settings.defaultScope operatorId = .ok db'.scopes
  credentials : ∀ other, other ≠ operatorId → db'.credentials.get? other = db.credentials.get? other
  sessions : db'.sessions = db.sessions

theorem ensureBootstrapOperator_cases
    (h : ensureBootstrapOperator hashing settings salt db = .ok db') :
    (∃ existing, Found settings db db' existing) ∨ ∃ operatorId, Made settings db db' operatorId := by
  have hlookup := operatorByEmail_seedBuiltinPermissions db.store settings.bootstrap.email
  unfold ensureBootstrapOperator at h
  generalize hseeded : db.store.seedBuiltinPermissions = seeded at h hlookup
  rw [hlookup] at h
  split at h
  · rename_i existing hfound
    split at h
    · cases h
    · rename_i scopes hscopes
      cases h
      exact .inl ⟨existing, hfound, hseeded.symm, hscopes, rfl, rfl⟩
  · rename_i hmissing
    split at h
    · cases h
    · rename_i operatorId store hadd
      split at h
      · cases h
      · rename_i scopes hscopes
        cases h
        refine .inr ⟨operatorId, hmissing, hseeded ▸ added_addOperator hadd, hscopes, ?_, rfl⟩
        intro other hne
        exact Dict.get?_set_ne _ _ hne

/-! ## What it leaves alone -/

/-- The roles and operators of `db` are there in `db'`, with all that belongs to them. -/
structure Untouched (db db' : ConsoleDb) : Prop where
  roles : db.store.KeepsRoles db'.store
  operators : ∀ operatorId operator, db.store.operators.get? operatorId = some operator →
    db'.store.operators.get? operatorId = some operator
  operatorRoles : ∀ operatorId operator, db.store.operators.get? operatorId = some operator →
    related db'.store.operatorRoles operatorId = related db.store.operatorRoles operatorId
  operatorPermissions : ∀ operatorId operator, db.store.operators.get? operatorId = some operator →
    related db'.store.operatorPermissions operatorId =
      related db.store.operatorPermissions operatorId
  scopes : ∀ operatorId operator, db.store.operators.get? operatorId = some operator →
    db'.scopes.scopesOf operatorId = db.scopes.scopesOf operatorId
  credentials : ∀ operatorId operator, db.store.operators.get? operatorId = some operator →
    db'.credentials.get? operatorId = db.credentials.get? operatorId

/-- The built-in roles hold what they are seeded with, and the bootstrap operator, if it is
there, has the default scope and each of its scopes once. -/
structure AsConfigured (settings : ConsoleSettings) (db : ConsoleDb) : Prop where
  roles : db.store.HoldsSeed
  scopes : ∀ existing, db.store.operatorByEmail settings.bootstrap.email = some existing →
    (db.scopes.scopesOf existing.1).Nodup ∧
      db.scopes.HasDefaultScope settings.defaultScope existing.1

variable {existing : Nat × ConsoleOperatorRow} {operatorId : Nat}

theorem Found.untouched_iff
    (h : Found settings db db' existing) : Untouched db db' ↔ AsConfigured settings db := by
  obtain ⟨scopes, hok, hnodup, hdefault, hsame⟩ :=
    ScopeStore.ensureOperatorScope_eq settings.defaultScope db.scopes existing.1
  rw [h.scopes, Except.ok.injEq] at hok
  have hscopes : ∀ other, db'.scopes.scopesOf other =
      if other = existing.1 then scopes.map Subtype.val else db.scopes.scopesOf other := by
    intro other
    rw [hok]
    exact ScopeStore.scopesOf_withScopes scopes other
  obtain ⟨hget, _⟩ := Table.find?_eq_some h.found
  have hgrows := enlarges_seedBuiltinPermissions db.store
  constructor
  · intro huntouched
    have hkept := huntouched.scopes existing.1 existing.2 hget
    rw [hscopes, if_pos rfl] at hkept
    have hroles := huntouched.roles
    rw [h.store, keepsRoles_seedBuiltinPermissions_iff] at hroles
    refine ⟨hroles, ?_⟩
    intro other hother
    rw [h.found, Option.some.injEq] at hother
    subst hother
    refine ⟨hkept ▸ hnodup.map Subtype.val_injective, ScopeStore.mem_default_iff.mp ?_⟩
    rw [← hkept]
    exact List.mem_map_of_mem hdefault
  · intro hconfigured
    obtain ⟨honce, hhas⟩ := hconfigured.scopes existing h.found
    refine ⟨?_, ?_, ?_, ?_, ?_, ?_⟩
    · rw [h.store, keepsRoles_seedBuiltinPermissions_iff]
      exact hconfigured.roles
    · intro operatorId operator hoperator
      rw [h.store, hgrows.operators]
      exact hoperator
    · intro operatorId _ _
      rw [h.store, hgrows.operatorRoles]
    · intro operatorId _ _
      rw [h.store, hgrows.operatorPermissions]
    · intro operatorId _ _
      rw [hscopes]
      split
      · rename_i heq
        rw [heq]
        exact hsame hhas honce
      · rfl
    · intro operatorId _ _
      rw [h.credentials]

/-- The number of the new operator is the number of no operator that was there. -/
theorem Made.new (h : Made settings db db' operatorId) (other : Nat)
    (operator : ConsoleOperatorRow) (hget : db.store.operators.get? other = some operator) :
    other ≠ operatorId := by
  rintro rfl
  rw [h.added.id, (enlarges_seedBuiltinPermissions db.store).operators, Table.get?_nextId] at hget
  cases hget

theorem Made.untouched_iff (h : Made settings db db' operatorId) :
    Untouched db db' ↔ AsConfigured settings db := by
  have hgrows := enlarges_seedBuiltinPermissions db.store
  have hnew := h.new
  have hroles : db.store.KeepsRoles db'.store ↔ db.store.HoldsSeed := by
    rw [← keepsRoles_seedBuiltinPermissions_iff]
    refine forall_congr' fun roleId => forall_congr' fun role => forall_congr' fun hget => ?_
    rw [h.added.rolePermissions, h.added.roles.get? (hgrows.roles.get? hget),
      hgrows.roles.get? hget]
  constructor
  · intro huntouched
    refine ⟨hroles.mp huntouched.roles, ?_⟩
    intro existing hexisting
    rw [h.missing] at hexisting
    cases hexisting
  · intro hconfigured
    refine ⟨hroles.mpr hconfigured.roles, ?_, ?_, ?_, ?_, ?_⟩
    · intro other operator hget
      rw [h.added.operators, hgrows.operators]
      exact Table.get?_insert_of_some hget _
    · intro other operator hget
      rw [h.added.operatorRoles other (hnew other operator hget), hgrows.operatorRoles]
    · intro other operator hget
      rw [h.added.operatorPermissions other (hnew other operator hget), hgrows.operatorPermissions]
    · intro other operator hget
      have hok := h.scopes
      rw [ScopeStore.giveDefaultScope_eq, Except.ok.injEq] at hok
      rw [← hok, ScopeStore.scopesOf_withScopes, if_neg (hnew other operator hget)]
      rfl
    · intro other operator hget
      exact h.credentials other (hnew other operator hget)

/-! ## The second time -/

theorem ensureBootstrapOperator_of_settled (hstore : db.store.seedBuiltinPermissions = db.store)
    (hfound : db.store.operatorByEmail settings.bootstrap.email = some existing)
    (hscopes : db.scopes.ensureOperatorScope settings.defaultScope existing.1 = .ok db.scopes)
    (salt : String) : ensureBootstrapOperator hashing settings salt db = .ok db := by
  unfold ensureBootstrapOperator
  rw [hstore, hfound]
  dsimp only
  rw [hscopes]

theorem ensureBootstrapOperator_again
    (h : ensureBootstrapOperator hashing settings salt db = .ok db') (salt' : String) :
    ensureBootstrapOperator hashing settings salt' db' = .ok db' := by
  rcases ensureBootstrapOperator_cases h with ⟨existing, hfound⟩ | ⟨operatorId, hmade⟩
  · have hstore : db'.store.seedBuiltinPermissions = db'.store := by
      rw [hfound.store]
      exact seedBuiltinPermissions_of_extends (.refl _) rfl
    have hlookup : db'.store.operatorByEmail settings.bootstrap.email = some existing := by
      rw [hfound.store, operatorByEmail_seedBuiltinPermissions]
      exact hfound.found
    refine ensureBootstrapOperator_of_settled hstore hlookup ?_ salt'
    obtain ⟨scopes, hok, hnodup, hdefault, _⟩ :=
      ScopeStore.ensureOperatorScope_eq settings.defaultScope db.scopes existing.1
    rw [hfound.scopes, Except.ok.injEq] at hok
    rw [hok]
    exact ScopeStore.ensureOperatorScope_withScopes hnodup hdefault
  · have hstore : db'.store.seedBuiltinPermissions = db'.store :=
      seedBuiltinPermissions_of_extends hmade.added.toExtends hmade.added.rolePermissions
    have hmissing : db.store.seedBuiltinPermissions.operatorByEmail settings.bootstrap.email =
        none := by
      rw [operatorByEmail_seedBuiltinPermissions]
      exact hmade.missing
    have hlookup : db'.store.operatorByEmail settings.bootstrap.email = some (operatorId,
        { email := settings.bootstrap.email, name := settings.bootstrap.name }) := by
      unfold operatorByEmail at hmissing ⊢
      rw [hmade.added.operators, Table.find?_insert, hmissing, hmade.added.id]
      simp only [beq_self_eq_true, Bool.not_false, Bool.and_self, if_true, Option.none_or]
    refine ensureBootstrapOperator_of_settled hstore hlookup ?_ salt'
    have hok := hmade.scopes
    rw [ScopeStore.giveDefaultScope_eq, Except.ok.injEq] at hok
    rw [← hok]
    exact ScopeStore.ensureOperatorScope_withScopes (List.nodup_singleton _) List.mem_cons_self

/-- It leaves the roles and operators that are there alone exactly if they are as it would have
them; and run again, any number of times, it changes nothing. -/
theorem login_keeps_configuration_iff (hashing : Hashing) (settings : ConsoleSettings)
    (salt : String) (db db' : ConsoleDb)
    (h : ensureBootstrapOperator hashing settings salt db = .ok db') :
    (Untouched db db' ↔ AsConfigured settings db) ∧ ∀ salts : List String,
        salts.foldlM (fun db salt => ensureBootstrapOperator hashing settings salt db) db' =
          .ok db' := by
  constructor
  · rcases ensureBootstrapOperator_cases h with ⟨existing, hfound⟩ | ⟨operatorId, hmade⟩
    · exact hfound.untouched_iff
    · exact hmade.untouched_iff
  · intro salts
    induction salts with
    | nil => rfl
    | cons salt' salts ih =>
      rw [List.foldlM_cons, ensureBootstrapOperator_again h salt']
      exact ih

/-- A service that was never started. -/
def fresh : ConsoleDb where
  store :=
    { permissions := {}, roles := {}, operators := {}, rolePermissions := [], operatorRoles := [],
      operatorPermissions := [], granted := fun _ h => nomatch h }
  scopes :=
    { tenants := {}, projects := {}, environments := {}, operatorScopes := [],
      resolved := fun _ h => nomatch h }
  credentials := Dict.empty
  sessions := {}

/-- Hashes that can be read. -/
def plainHashing : Hashing where
  pbkdf2 password salt _ := salt ++ password
  sha256 token := token

/-- The settings of a service that is not configured. -/
def plainSettings : ConsoleSettings := { bootstrapPassword := "dimoorun" }

/-- After the first start an administrator takes a permission from a role. -/
theorem login_keeps_configuration_iff_edited :
    ∃ started db, ensureBootstrapOperator plainHashing plainSettings "salt" fresh = .ok started ∧
      let edited := { started with store := started.store.replaceRolePermissions 2 ["run:read"] }
      ensureBootstrapOperator plainHashing plainSettings "salt" edited = .ok db ∧
      (Untouched edited db ↔ AsConfigured plainSettings edited) ∧
      ∀ salts : List String,
        salts.foldlM (fun db salt => ensureBootstrapOperator plainHashing plainSettings salt db) db =
          .ok db :=
  ⟨_, _, rfl, rfl, login_keeps_configuration_iff plainHashing plainSettings "salt" _ _ rfl⟩

/-- An administrator takes `agent:read` from the role `runtime_operator`, and the next login gives
it back; the bootstrap operator is confined to the environment `prod`, and the next login opens
the default scope to it again. -/
theorem login_rewrites_configuration : (do
        let started ← ensureBootstrapOperator plainHashing plainSettings "salt" fresh
        let edited :=
          { started with store := started.store.replaceRolePermissions 2 ["run:read"] }
        let again ← ensureBootstrapOperator plainHashing plainSettings "salt" edited
        pure (related edited.store.rolePermissions 2, related again.store.rolePermissions 2) :
      Except ConsoleError (List Nat × List Nat)).toOption = some ([3], [2, 3]) ∧
    (do
        let started ← ensureBootstrapOperator plainHashing plainSettings "salt" fresh
        let some edited ← updateOperator 0 1
            { allowedScopes := some [⟨.all, .all, some "prod"⟩] } started | pure ([], [])
        let again ← ensureBootstrapOperator plainHashing plainSettings "salt" edited
        pure (edited.scopes.scopesOf 1, again.scopes.scopesOf 1) :
      Except ConsoleError (List OperatorScope × List OperatorScope)).toOption =
      some ([⟨none, none, "prod"⟩], [⟨some 1, some 1, "local"⟩, ⟨none, none, "prod"⟩]) := by
  decide +kernel

end ConsoleDb

end DimooRun.Identity
