/-
  Identity/SessionRuns.lean --- sessions over whole runs.

  Several processes serve the same tables, each with a cache of its own, and any of them
  may be asked anything at any time. The tokens of logins are drawn so that no two have
  the same hash. Then every lookup answers what it would with an empty cache, and a
  token is refused by every process from the moment its session is revoked.
-/
import Mathlib.Logic.Function.Basic
import DimooRun.Identity.SessionSpec

set_option autoImplicit false

namespace DimooRun.Identity

open Foundation ConsoleDb

section

open ConsoleService

/-- What a process is asked. -/
inductive SessionRequest where
  /-- `authenticate`, with the token and the salt that are drawn -/
  | login (email password token salt : String)
  /-- `revoke_session` -/
  | logout (token : String)
  /-- `get_operator_by_session` -/
  | lookup (token : String)
  /-- the endpoint `revoke_operator_session` -/
  | revokeSession (actor : Option Nat) (operatorId sessionId : Nat)
  /-- `revoke_operator_sessions` -/
  | revokeSessions (operatorId : Nat) (reason salt : String)
  | changePassword (operatorId : Nat) (change : ConsoleService.PasswordChange)
  | createOperator (data : ConsoleDb.CreateOperator)
  | updateOperator (operatorId : Nat) (data : ConsoleDb.UpdateOperator) (salt : String)
  | deleteOperator (operatorId : Nat) (salt : String)

/-- The operators that it deletes. -/
def SessionRequest.deletes : SessionRequest → Nat → Prop
  | .deleteOperator operatorId _, id => id = operatorId
  | _, _ => False

/-- What it answers. -/
inductive SessionReply where
  | session (issued : Except ConsoleError (Option IssuedSession))
  | loggedOut
  | operator (found : Option HydratedOperator)
  | revoked (reply : ConsoleService.RevokeReply)
  | created (id : Except ConsoleError Nat)
  | done (reply : Except ConsoleError Bool)

/-- A request to a process, at a time. -/
structure SessionCall where
  process : Nat
  now : Instant
  request : SessionRequest

/-- The tables, and the cache of every process. -/
structure Cluster where
  db : ConsoleDb
  caches : Nat → SessionCache

namespace Cluster

/-- A process as it sees the tables. -/
def service (c : Cluster) (process : Nat) : ConsoleService where
  db := c.db
  cache := c.caches process

/-- Processes that have just been started. -/
def started (db : ConsoleDb) : Cluster where
  db := db
  caches _ := Dict.empty

section

variable (hashing : Hashing) (settings : ConsoleSettings)

/-- One request, in the process it is made to. -/
def serve (now : Instant) (s : ConsoleService) : SessionRequest → SessionReply × ConsoleService
  | .login email password token salt =>
      let r := s.authenticate hashing settings now email password token salt
      (.session r.1, r.2)
  | .logout token => (.loggedOut, s.revokeSession hashing now token "logout")
  | .lookup token =>
      let r := s.getOperatorBySession hashing now token
      (.operator r.1, r.2)
  | .revokeSession actor operatorId sessionId =>
      let r := s.revokeOperatorSession now actor operatorId sessionId
      (.revoked r.1, r.2)
  | .revokeSessions operatorId reason salt =>
      let r := s.revokeOperatorSessions hashing settings now operatorId reason salt
      (.done r.1, r.2)
  | .changePassword operatorId change =>
      let r := s.changePassword hashing settings now operatorId change
      (.done r.1, r.2)
  | .createOperator data =>
      let r := s.createOperator hashing settings data
      (.created r.1, r.2)
  | .updateOperator operatorId data salt =>
      let r := s.updateOperator hashing settings now operatorId data salt
      (.done r.1, r.2)
  | .deleteOperator operatorId salt =>
      let r := s.deleteOperator hashing settings now operatorId salt
      (.done r.1, r.2)

/-- One request. -/
def exec (c : Cluster) (call : SessionCall) : SessionReply × Cluster :=
  let r := serve hashing settings call.now (c.service call.process) call.request
  (r.1, { db := r.2.db, caches := Function.update c.caches call.process r.2.cache })

/-- What is assumed of `secrets.token_urlsafe` and `sha256`: no session has the hash of a token that
is drawn. -/
def DrawsFresh (c : Cluster) (call : SessionCall) : Prop :=
  match call.request with
  | .login _ _ token _ => c.db.sessions.find? (hashing.hashToken token) = none
  | _ => True

/-- The request, with its answer, takes back the session with this number. -/
def takesBack (request : SessionRequest) (reply : SessionReply) (id : Nat) (row : SessionRow) :
    Prop :=
  match request with
  | .logout token => row.tokenHash = hashing.hashToken token
  | .revokeSession _ _ sessionId => reply = .revoked .ok ∧ sessionId = id
  | .revokeSessions operatorId _ _ => reply = .done (.ok true) ∧ row.operatorId = operatorId
  | .changePassword operatorId _ => reply = .done (.ok true) ∧ row.operatorId = operatorId
  | .updateOperator operatorId data _ =>
      reply = .done (.ok true) ∧ row.operatorId = operatorId ∧ data.disables = true
  | .deleteOperator operatorId _ => reply = .done (.ok true) ∧ row.operatorId = operatorId
  | .login .. | .lookup _ | .createOperator _ => False

/-- A logout, revocation, password change, disabling or deletion that affects the token: its
session was there and is taken back. -/
def Affects (e : Entry Cluster SessionCall SessionReply) (token : String) : Prop :=
  ∃ id row, e.before.db.sessions.rows.get? id = some row ∧
    row.tokenHash = hashing.hashToken token ∧ takesBack hashing e.call.request e.reply id row

end

/-! ## One request -/

section

variable {hashing : Hashing} {settings : ConsoleSettings}

/-- Every request is a step of the service. -/
theorem step_exec (hashing : Hashing) (settings : ConsoleSettings) (c : Cluster)
    (call : SessionCall) :
    ConsoleService.Step (DrawsFresh hashing c call) call.request.deletes (c.service call.process)
      (serve hashing settings call.now (c.service call.process) call.request).2 := by
  obtain ⟨process, now, request⟩ := call
  cases request <;> dsimp only [serve]
  case login email password token salt =>
    exact step_authenticate hashing settings (c.service process) now email password token salt
  case logout token => exact step_revokeSession hashing _ now token "logout"
  case lookup token => exact (getOperatorBySession_spec _ _ hashing _ now token).1
  case revokeSession actor operatorId sessionId =>
    exact (revokeOperatorSession_spec _ _ _ now actor operatorId sessionId).1
  case revokeSessions operatorId reason salt =>
    exact (revokes_revokeOperatorSessions hashing settings (c.service process) now
      operatorId reason salt).step
  case changePassword operatorId change =>
    exact (revokes_changePassword hashing settings (c.service process) now operatorId change).step
  case createOperator data =>
    exact step_createOperator hashing settings (c.service process) data
  case updateOperator operatorId data salt =>
    exact (revokes_updateOperator hashing settings (c.service process) now
      operatorId data salt).step
  case deleteOperator operatorId salt =>
    exact (revokes_deleteOperator hashing settings (c.service process) now operatorId salt).step

/-- A session that is taken back is revoked. -/
theorem revoked_serve {now : Instant} {s : ConsoleService} {request : SessionRequest} {id : Nat}
    {row : SessionRow} (hget : s.db.sessions.rows.get? id = some row)
    (htakes : takesBack hashing request (serve hashing settings now s request).1 id row) :
    (serve hashing settings now s request).2.db.sessions.Revoked row.tokenHash := by
  -- the methods that say whether they revoked the sessions of an operator
  have hmethod : ∀ {operatorId : Nat} {revokes : Bool} {outcome : Outcome Bool},
      ConsoleService.Revokes request.deletes operatorId revokes s outcome →
      outcome.1 = .ok true → revokes = true → row.operatorId = operatorId →
      outcome.2.db.sessions.Revoked row.tokenHash :=
    fun h hdone hrevokes hoperator => h.revoked hdone hrevokes id row hget hoperator
  cases request with
  | logout token =>
    have hhash : row.tokenHash = hashing.hashToken token := htakes
    rw [hhash]
    exact revoked_revokeSession hget hhash now "logout"
  | revokeSession actor operatorId sessionId =>
    obtain ⟨hreply, rfl⟩ := htakes
    exact (revokeOperatorSession_spec True (fun _ => False) s now actor operatorId
      sessionId).2 (SessionReply.revoked.inj hreply) row hget
  | revokeSessions operatorId reason salt =>
    dsimp only [serve] at htakes ⊢
    exact hmethod
      (revokes_revokeOperatorSessions hashing settings s now operatorId reason salt)
      (SessionReply.done.inj htakes.1) rfl htakes.2
  | changePassword operatorId change =>
    dsimp only [serve] at htakes ⊢
    exact hmethod (revokes_changePassword hashing settings s now operatorId change)
      (SessionReply.done.inj htakes.1) rfl htakes.2
  | updateOperator operatorId data salt =>
    dsimp only [serve] at htakes ⊢
    exact hmethod
      (revokes_updateOperator hashing settings s now operatorId data salt)
      (SessionReply.done.inj htakes.1) htakes.2.2 htakes.2.1
  | deleteOperator operatorId salt =>
    dsimp only [serve] at htakes ⊢
    exact hmethod (revokes_deleteOperator hashing settings s now operatorId salt)
      (SessionReply.done.inj htakes.1) rfl htakes.2
  | _ => exact htakes.elim

end

/-! ## Runs -/

section

variable {hashing : Hashing} {settings : ConsoleSettings} {c : Cluster} {call : SessionCall}

/-- Every cache is backed by the tables. -/
def Coherent (c : Cluster) : Prop := ∀ process, c.db.sessions.Backs (c.caches process)

theorem coherent_started (db : ConsoleDb) : Coherent (started db) :=
  fun _ => SessionTable.backs_empty db.sessions

/-- A request to one process leaves the caches of the others backed too, for no session
changes its operator or its time. -/
theorem coherent_exec (hfresh : DrawsFresh hashing c call) (h : Coherent c) :
    Coherent (exec hashing settings c call).2 := by
  have hstep := step_exec hashing settings c call
  intro process
  dsimp only [exec]
  by_cases hsame : process = call.process
  · subst hsame
    rw [Function.update_self]
    exact hstep.backs hfresh (h call.process)
  · rw [Function.update_of_ne hsame]
    exact hstep.later.backs (h process)

/-- What a process answers to a lookup. -/
def answer (hashing : Hashing) (c : Cluster) (process : Nat) (now : Instant) (token : String) :
    Option HydratedOperator :=
  ((c.service process).getOperatorBySession hashing now token).1

/-- The cluster, with the cache of one process emptied. -/
def emptied (c : Cluster) (process : Nat) : Cluster where
  db := c.db
  caches := Function.update c.caches process Dict.empty

theorem answer_of_coherent (h : Coherent c) (process : Nat) (now : Instant) (token : String) :
    answer hashing c process now token = c.db.accepts now (hashing.hashToken token) :=
  (getOperatorBySession_spec True (fun _ => False) hashing (c.service process) now
    token).2 (h process)

theorem answer_emptied (process : Nat) (now : Instant) (token : String) :
    answer hashing (c.emptied process) process now token =
      c.db.accepts now (hashing.hashToken token) := by
  have hempty : c.db.sessions.Backs ((c.emptied process).caches process) := by
    dsimp only [emptied]
    rw [Function.update_self]
    exact SessionTable.backs_empty c.db.sessions
  exact (getOperatorBySession_spec True (fun _ => False) hashing
    ((c.emptied process).service process) now token).2 hempty

/-- After every run a lookup answers what it would with an empty cache, and no process accepts a
token whose session was taken back in the run. -/
theorem revocation_immediate_and_cache_transparent (hashing : Hashing)
    (settings : ConsoleSettings) (db : ConsoleDb) (calls : List SessionCall)
    (hfresh : Admitted (exec hashing settings) (DrawsFresh hashing) (started db) calls) :
    (∀ process now token,
      answer hashing (final (exec hashing settings) (started db) calls) process now token =
        answer hashing ((final (exec hashing settings) (started db) calls).emptied process) process
          now token) ∧
    ∀ e ∈ trace (exec hashing settings) (started db) calls, ∀ token, Affects hashing e token →
      ∀ process now,
        answer hashing (final (exec hashing settings) (started db) calls) process now token =
          none := by
  -- the invariant of the run: caches are backed, and what was taken back is revoked
  have hrun := history_induction (exec hashing settings)
    (J := fun tr c => Coherent c ∧ ∀ e ∈ tr, ∀ token, Affects hashing e token →
      c.db.sessions.Revoked (hashing.hashToken token)) ?_ calls [] (started db)
    ⟨coherent_started db, fun _ he => nomatch he⟩ hfresh
  · obtain ⟨hcoherent, hrevoked⟩ := hrun
    refine ⟨?_, ?_⟩
    · intro process now token
      rw [answer_of_coherent hcoherent, answer_emptied]
    · intro e he token haffects process now
      rw [answer_of_coherent hcoherent]
      exact accepts_of_revoked (hrevoked e he token haffects) now
  · rintro tr c call hcall ⟨hcoherent, hrevoked⟩
    have hlater := (step_exec hashing settings c call).later
    refine ⟨coherent_exec hcall hcoherent, ?_⟩
    intro e he token haffects
    rcases List.mem_append.mp he with hold | hnew
    · exact hlater.revoked (hrevoked e hold token haffects)
    · rw [List.mem_singleton] at hnew
      subst hnew
      obtain ⟨id, row, hget, hhash, htakes⟩ := haffects
      rw [← hhash]
      exact revoked_serve hget htakes

/-- The bootstrap operator logs in at one process, which caches the session, and out at another. -/
theorem revocation_immediate_and_cache_transparent_logout :
    let calls : List SessionCall :=
      [⟨0, 0, .login "admin@local.dimoorun" "dimoorun" "sess_1" "salt"⟩, ⟨1, 1, .logout "sess_1"⟩]
    Admitted (exec plainHashing plainSettings) (DrawsFresh plainHashing) (started fresh) calls ∧
      ∀ process now,
        answer plainHashing
          (final (exec plainHashing plainSettings) (started fresh) calls)
          process now "sess_1" = none := by
  intro calls
  have hfresh : Admitted (exec plainHashing plainSettings)
      (DrawsFresh plainHashing) (started fresh) calls :=
    ⟨rfl, trivial, trivial⟩
  exact ⟨hfresh, (revocation_immediate_and_cache_transparent plainHashing
    plainSettings fresh calls hfresh).2 _
      (List.mem_cons_of_mem _ List.mem_cons_self) "sess_1" ⟨1, _, rfl, rfl, rfl⟩⟩

end

end Cluster

end

/-! ## Whether anybody can log in

Every login runs `ensure_bootstrap_operator`, and if that raises, so does the login. It
looks for the operator with the bootstrap email among those that are not deleted, while
the unique constraint on the email counts the deleted ones too. So logins work after a
run exactly if nobody deleted the bootstrap operator in it. -/

/-- No operator with this email is deleted. -/
def KeptEmail (email : String) (t : Table ConsoleOperatorRow) : Prop :=
  ∀ id operator, t.get? id = some operator → operator.email = email → operator.isDeleted = false

/-- An operator with this email is deleted. -/
def DeletedEmail (email : String) (t : Table ConsoleOperatorRow) : Prop :=
  ∃ id operator, t.get? id = some operator ∧ operator.email = email ∧ operator.isDeleted = true

section

variable {deletes : Nat → Prop} {t t' : Table ConsoleOperatorRow} {email : String}

theorem not_keptEmail_iff : ¬ KeptEmail email t ↔ DeletedEmail email t := by
  simp [KeptEmail, DeletedEmail]

theorem OperatorsLater.keptEmail (h : OperatorsLater deletes t t') (hkept : KeptEmail email t)
    (hspared : ∀ id operator, t'.get? id = some operator → operator.email = email → ¬ deletes id) :
    KeptEmail email t' := by
  intro id operator' hget hemail
  rw [← Bool.not_eq_true]
  intro hdeleted
  rcases h.deleted id operator' hget hdeleted with ⟨operator, hold, hwas⟩ | hdeletes
  · obtain ⟨_, hget', hemail', _⟩ := h.old id operator hold
    cases hget.symm.trans hget'
    rw [hkept id operator hold (hemail'.symm.trans hemail)] at hwas
    cases hwas
  · exact hspared id operator' hget hemail hdeletes

/-- Nothing brings a deleted operator back. -/
theorem OperatorsLater.deletedEmail (h : OperatorsLater deletes t t') :
    DeletedEmail email t → DeletedEmail email t' := by
  rintro ⟨id, operator, hget, hemail, hdeleted⟩
  obtain ⟨operator', hget', hemail', hdeleted'⟩ := h.old id operator hget
  exact ⟨id, operator', hget', hemail'.trans hemail, hdeleted' hdeleted⟩

end

/-! ## Whether the bootstrap operator can be ensured -/

section

variable {hashing : Hashing} {settings : ConsoleSettings} {db : ConsoleDb}

/-- `ensure_bootstrap_operator` does not raise. -/
def LoginPossible (hashing : Hashing) (settings : ConsoleSettings) (db : ConsoleDb) : Prop :=
  ∀ salt, ∃ db', db.ensureBootstrapOperator hashing settings salt = .ok db'

theorem loginPossible_of_keptEmail (h : KeptEmail settings.bootstrap.email db.operators) :
    LoginPossible hashing settings db := by
  intro salt
  have hlookup := ConsoleStore.operatorByEmail_seedBuiltinPermissions db.store
    settings.bootstrap.email
  have hoperators := (ConsoleStore.enlarges_seedBuiltinPermissions db.store).operators
  unfold ensureBootstrapOperator
  generalize db.store.seedBuiltinPermissions = seeded at hlookup hoperators ⊢
  rw [hlookup]
  cases hfind : db.store.operatorByEmail settings.bootstrap.email with
  | some existing =>
    obtain ⟨scopes, hscopes, _⟩ :=
      ScopeStore.ensureOperatorScope_eq settings.defaultScope db.scopes existing.1
    dsimp only
    rw [hscopes]
    exact ⟨_, rfl⟩
  | none =>
    -- no row has the email, for one that is not deleted would have been found
    have hfree : (seeded.operators.find?
        fun operator => operator.email == settings.bootstrap.email) = none := by
      rw [hoperators]
      refine Table.find?_eq_none_iff.mpr fun id operator hget => ?_
      have hnot := Table.find?_eq_none_iff.mp hfind id operator hget
      have hlive := h id operator hget
      grind
    obtain ⟨added, hadded⟩ := (seeded.addOperator_isOk_iff settings.bootstrap.email
      settings.bootstrap.name ["*"] (List.nodup_singleton "platform_admin")).mpr hfree
    rw [hadded]
    dsimp only
    rw [ScopeStore.giveDefaultScope_eq]
    exact ⟨_, rfl⟩

/-- It raises what the unique constraint raises. -/
theorem ensureBootstrapOperator_of_deletedEmail (hunique : UniqueEmails db.operators)
    (h : DeletedEmail settings.bootstrap.email db.operators) (salt : String) :
    db.ensureBootstrapOperator hashing settings salt = .error .integrity := by
  obtain ⟨id, operator, hget, hemail, hdeleted⟩ := h
  have hlookup := ConsoleStore.operatorByEmail_seedBuiltinPermissions db.store
    settings.bootstrap.email
  have hoperators := (ConsoleStore.enlarges_seedBuiltinPermissions db.store).operators
  unfold ensureBootstrapOperator
  generalize db.store.seedBuiltinPermissions = seeded at hlookup hoperators ⊢
  have hmissing : db.store.operatorByEmail settings.bootstrap.email = none := by
    refine Table.find?_eq_none_iff.mpr fun id' operator' hget' => ?_
    have hid := hunique id id' operator operator' hget hget'
    grind
  have htaken : (seeded.operators.find?
      fun operator => operator.email == settings.bootstrap.email).isSome = true := by
    rw [hoperators, Option.isSome_iff_ne_none]
    intro hnone
    simpa [hemail] using Table.find?_eq_none_iff.mp hnone id operator hget
  rw [hlookup, hmissing]
  unfold ConsoleStore.addOperator ConsoleStore.insertOperator
  rw [if_pos htaken]

theorem loginPossible_iff (hunique : UniqueEmails db.operators) :
    LoginPossible hashing settings db ↔ KeptEmail settings.bootstrap.email db.operators := by
  refine ⟨fun hlogin => ?_, loginPossible_of_keptEmail⟩
  by_contra hnot
  obtain ⟨db', hensure⟩ := hlogin ""
  rw [ensureBootstrapOperator_of_deletedEmail hunique (not_keptEmail_iff.mp hnot)] at hensure
  cases hensure

/-! ## Deleting the bootstrap operator -/

/-- The number of the bootstrap operator, which it gets now if it is not there. -/
def bootstrapId (settings : ConsoleSettings) (db : ConsoleDb) : Nat :=
  match db.store.operatorByEmail settings.bootstrap.email with
  | some existing => existing.1
  | none => db.operators.nextId

/-- The request deletes the bootstrap operator. -/
def DeletesBootstrap (settings : ConsoleSettings) (db : ConsoleDb) (request : SessionRequest) :
    Prop :=
  ∃ salt, request = .deleteOperator (bootstrapId settings db) salt

/-- Once it is ensured, the bootstrap operator is there under its number. -/
theorem get?_bootstrapId {salt : String} {db' : ConsoleDb}
    (h : db.ensureBootstrapOperator hashing settings salt = .ok db') :
    ∃ operator, db'.operators.get? (bootstrapId settings db) = some operator ∧
      operator.email = settings.bootstrap.email ∧ operator.isDeleted = false := by
  have hoperators := (ConsoleStore.enlarges_seedBuiltinPermissions db.store).operators
  unfold bootstrapId operators
  rcases ensureBootstrapOperator_cases h with ⟨existing, hfound⟩ | ⟨id, hmade⟩
  · obtain ⟨hget, hlive⟩ := Table.find?_eq_some hfound.found
    rw [Bool.and_eq_true, beq_iff_eq, Bool.not_eq_true'] at hlive
    rw [hfound.found, hfound.store, hoperators]
    exact ⟨existing.2, hget, hlive⟩
  · rw [hmade.missing, hmade.added.operators, hoperators]
    refine ⟨{ email := settings.bootstrap.email, name := settings.bootstrap.name }, ?_, rfl, rfl⟩
    rw [Table.get?_insert, if_pos rfl]

theorem db_deleteOperator {s : ConsoleService} {salt : String}
    (hensure : s.db.ensureBootstrapOperator hashing settings salt = .ok db) (now : Instant)
    (operatorId : Nat) :
    (s.deleteOperator hashing settings now operatorId salt).2.db =
      (db.deleteOperator now operatorId).getD db := by
  unfold ConsoleService.deleteOperator ConsoleService.afterBootstrap
  rw [hensure]
  dsimp only
  cases db.deleteOperator now operatorId <;> rfl

variable {c : Cluster} {call : SessionCall} (hunique : UniqueEmails c.db.operators)

include hunique

theorem uniqueEmails_exec : UniqueEmails (c.exec hashing settings call).2.db.operators :=
  (Cluster.step_exec hashing settings c call).operators.unique hunique

theorem loginPossible_exec (hspared : ¬ DeletesBootstrap settings c.db call.request)
    (h : LoginPossible hashing settings c.db) :
    LoginPossible hashing settings (c.exec hashing settings call).2.db := by
  have hunique' : UniqueEmails (c.exec hashing settings call).2.db.operators :=
    uniqueEmails_exec hunique
  refine loginPossible_of_keptEmail ((Cluster.step_exec hashing settings c call).operators.keptEmail
    ((loginPossible_iff hunique).mp h) ?_)
  -- whoever has the email is the bootstrap operator
  intro id operator hget hemail hdeletes
  obtain ⟨process, now, request⟩ := call
  cases request with
  | deleteOperator operatorId salt =>
    cases (show id = operatorId from hdeletes)
    obtain ⟨db, hensure⟩ := h salt
    dsimp only [Cluster.exec, Cluster.serve] at hget hunique'
    rw [db_deleteOperator (s := c.service process) hensure] at hget hunique'
    obtain ⟨old, hold, hbootstrap, _⟩ := get?_bootstrapId hensure
    have hlater : OperatorsLater (· = id) db.operators
        ((db.deleteOperator now id).getD db).operators := by
      cases hdelete : db.deleteOperator now id with
      | none => exact .refl _
      | some db' => exact (ConsoleService.deleteOperator_keeps hdelete).1
    obtain ⟨operator', hget', hemail', _⟩ := hlater.old _ old hold
    have hid := hunique' _ _ operator operator' hget hget'
      (hemail.trans (hemail'.trans hbootstrap).symm)
    exact hspared ⟨salt, hid ▸ rfl⟩
  | _ => exact hdeletes

theorem not_loginPossible_exec (hdeletes : DeletesBootstrap settings c.db call.request) :
    ¬ LoginPossible hashing settings (c.exec hashing settings call).2.db := by
  have hunique' : UniqueEmails (c.exec hashing settings call).2.db.operators :=
    uniqueEmails_exec hunique
  obtain ⟨process, now, request⟩ := call
  obtain ⟨salt, rfl⟩ := hdeletes
  dsimp only [Cluster.exec, Cluster.serve] at hunique' ⊢
  cases hensure : c.db.ensureBootstrapOperator hashing settings salt with
  | error e =>
    intro hlogin
    unfold ConsoleService.deleteOperator ConsoleService.afterBootstrap at hlogin
    obtain ⟨db', hensure'⟩ := hlogin salt
    dsimp only [Cluster.service] at hensure'
    rw [hensure] at hensure'
    rw [hensure] at hensure'
    cases hensure'
  | ok db =>
    obtain ⟨operator, hget, hemail, hlive⟩ := get?_bootstrapId hensure
    have hdelete : db.store.deleteOperator (bootstrapId settings c.db) =
        some { db.store with
          operators := db.operators.modify (bootstrapId settings c.db)
            ConsoleOperatorRow.deleted } := by
      unfold ConsoleStore.deleteOperator
      rw [hget]
      dsimp only
      rw [hlive]
      rfl
    rw [loginPossible_iff hunique', not_keptEmail_iff,
      db_deleteOperator (s := c.service process) hensure]
    unfold deleteOperator
    rw [hdelete]
    refine ⟨bootstrapId settings c.db, operator.deleted, ?_, hemail, rfl⟩
    show (db.operators.modify _ _).get? _ = _
    rw [Table.get?_modify, if_pos rfl, hget]
    rfl

end

/-! ## Runs -/

namespace Cluster

/-- In every run from a database where logins work: they work after every request exactly if no
request of the run deletes the bootstrap operator. -/
theorem login_possible_iff_bootstrap_spared (hashing : Hashing) (settings : ConsoleSettings)
    (c : Cluster) (hunique : UniqueEmails c.db.operators)
    (hlogin : LoginPossible hashing settings c.db) (calls : List SessionCall) :
    (∀ e ∈ trace (exec hashing settings) c calls, LoginPossible hashing settings e.after.db) ↔
      ∀ e ∈ trace (exec hashing settings) c calls,
        ¬ DeletesBootstrap settings e.before.db e.call.request := by
  refine @forall_mem_trace_iff _ _ _ (exec hashing settings)
    (fun c call => ¬ DeletesBootstrap settings c.db call.request)
    (fun c => UniqueEmails c.db.operators ∧ LoginPossible hashing settings c.db)
    (fun e => LoginPossible hashing settings e.after.db) ?_ calls c ⟨hunique, hlogin⟩
  rintro c call ⟨hunique, hlogin⟩
  have hkept : ¬ DeletesBootstrap settings c.db call.request →
      LoginPossible hashing settings (exec hashing settings c call).2.db :=
    fun hspared => loginPossible_exec hunique hspared hlogin
  exact ⟨⟨fun hafter hdeletes => not_loginPossible_exec hunique hdeletes hafter, hkept⟩,
    fun hspared => ⟨uniqueEmails_exec hunique, hkept hspared⟩⟩

theorem uniqueEmails_fresh : UniqueEmails fresh.operators := by
  intro id id' operator operator' hget
  cases id <;> cases hget

theorem keptEmail_fresh (email : String) : KeptEmail email fresh.operators := by
  intro id operator hget
  cases id <;> cases hget

/-- An operator is made and deleted, and logins work. -/
theorem login_possible_iff_bootstrap_spared_second : UniqueEmails fresh.operators ∧
      ∀ e ∈ trace (exec plainHashing plainSettings) (started fresh) [⟨0, 0, .createOperator
              { email := "second@local", name := "Second", password := "pw", bootstrapSalt := "a",
                salt := "b" }⟩,
            ⟨0, 1, .deleteOperator 2 "c"⟩],
        LoginPossible plainHashing plainSettings e.after.db := by
  refine ⟨uniqueEmails_fresh, (login_possible_iff_bootstrap_spared plainHashing
    plainSettings (started fresh) uniqueEmails_fresh
    (loginPossible_of_keptEmail (keptEmail_fresh _)) _).mpr ?_⟩
  intro e he
  rcases List.mem_cons.mp he with rfl | he
  · rintro ⟨salt, hrequest⟩
    cases hrequest
  · rcases List.mem_singleton.mp he with rfl
    rintro ⟨salt, hrequest⟩
    have hid : 2 = bootstrapId plainSettings _ :=
      (SessionRequest.deleteOperator.inj hrequest).1
    revert hid
    decide +kernel

/-- The bootstrap operator is deleted, and whatever is done afterwards, no login gets an answer. -/
theorem deleted_bootstrap_blocks_logins : LoginPossible plainHashing plainSettings fresh ∧
      ∀ calls process now email password token salt,
        (exec plainHashing plainSettings (final (exec plainHashing plainSettings) (started fresh)
            (⟨0, 0, .deleteOperator 1 "salt"⟩ :: calls))
          ⟨process, now, .login email password token salt⟩).1 = .session (.error .integrity) := by
  refine ⟨loginPossible_of_keptEmail (keptEmail_fresh _), ?_⟩
  intro calls process now email password token salt
  have hstart : UniqueEmails (exec plainHashing plainSettings
        (started fresh) ⟨0, 0, .deleteOperator 1 "salt"⟩).2.db.operators ∧
      DeletedEmail "admin@local.dimoorun" (exec plainHashing plainSettings
        (started fresh) ⟨0, 0, .deleteOperator 1 "salt"⟩).2.db.operators :=
    ⟨uniqueEmails_exec uniqueEmails_fresh, ⟨1, _, rfl, rfl, rfl⟩⟩
  have hend := invariant_final (exec plainHashing plainSettings)
    (I := fun c => UniqueEmails c.db.operators ∧ DeletedEmail "admin@local.dimoorun" c.db.operators)
    (fun c call _ h => ⟨uniqueEmails_exec h.1, (step_exec _ _ c call).operators.deletedEmail h.2⟩)
    calls _ hstart (admitted_true _ calls _)
  rw [final_cons]
  generalize final (exec plainHashing plainSettings) _ calls = last at hend ⊢
  have hensure : last.db.ensureBootstrapOperator plainHashing plainSettings
      salt = .error .integrity := ensureBootstrapOperator_of_deletedEmail hend.1 hend.2 salt
  dsimp only [exec, serve]
  unfold ConsoleService.authenticate ConsoleService.afterBootstrap
  dsimp only [service]
  rw [hensure]

end Cluster

end DimooRun.Identity
