/-
  Identity/SessionSpec.lean --- what the methods do to sessions and to the cache.

  A session keeps its operator, its hash and the time it expires at, and once revoked it
  stays so (`Later`). Whatever is cached is backed by a session with the same operator
  and the same time (`Backs`); so a lookup through the cache answers what the tables
  answer (`accepts`). Operators keep their emails, and one that is deleted stays so
  (`OperatorsLater`).
-/
import DimooRun.Identity.Sessions

set_option autoImplicit false

namespace DimooRun.Identity

open Foundation

/-! ## Sessions over time -/

/-- The same session, later. -/
structure SessionRow.Later (row row' : SessionRow) : Prop where
  operatorId : row'.operatorId = row.operatorId
  tokenHash : row'.tokenHash = row.tokenHash
  expiresAt : row'.expiresAt = row.expiresAt
  revoked : row.revokedAt.isSome = true → row'.revokedAt.isSome = true

theorem SessionRow.Later.refl (row : SessionRow) : row.Later row := ⟨rfl, rfl, rfl, id⟩

theorem SessionRow.Later.trans {row row' row'' : SessionRow} (h : row.Later row')
    (h' : row'.Later row'') : row.Later row'' where
  operatorId := h'.operatorId.trans h.operatorId
  tokenHash := h'.tokenHash.trans h.tokenHash
  expiresAt := h'.expiresAt.trans h.expiresAt
  revoked hrevoked := h'.revoked (h.revoked hrevoked)

namespace SessionTable

variable {t t' t'' : SessionTable}

/-- The sessions of `t` are there in `t'`. -/
def Later (t t' : SessionTable) : Prop :=
  ∀ id row, t.rows.get? id = some row → ∃ row', t'.rows.get? id = some row' ∧ row.Later row'

theorem Later.refl (t : SessionTable) : t.Later t := fun _ row hget => ⟨row, hget, .refl row⟩

theorem Later.trans (h : t.Later t') (h' : t'.Later t'') : t.Later t'' := by
  intro id row hget
  obtain ⟨row', hget', hlater⟩ := h id row hget
  obtain ⟨row'', hget'', hlater'⟩ := h' id row' hget'
  exact ⟨row'', hget'', hlater.trans hlater'⟩

theorem later_insert (t : SessionTable) (row : SessionRow) (h : t.find? row.tokenHash = none) :
    t.Later (t.insert row h) :=
  fun _ old hget => ⟨old, Table.get?_insert_of_some hget row, .refl old⟩

variable {f : SessionRow → SessionRow} {tokenHash : String} {payload : CachedSession}
  {cache : SessionCache}

theorem later_update (t : SessionTable) (hf : ∀ row, (f row).tokenHash = row.tokenHash)
    (hlater : ∀ row : SessionRow, row.Later (f row)) : t.Later (t.update f hf) := by
  intro id row hget
  refine ⟨f row, ?_, hlater row⟩
  show (t.rows.map f).get? id = _
  rw [Table.get?_map, hget]
  rfl

theorem later_updateHash (t : SessionTable) (tokenHash : String)
    (hf : ∀ row, (f row).tokenHash = row.tokenHash) (hlater : ∀ row : SessionRow, row.Later (f row)) :
    t.Later (t.updateHash tokenHash f hf) := by
  refine later_update t _ ?_
  intro row
  split
  · exact hlater row
  · exact .refl row

/-- There is one session for a hash. -/
theorem find?_eq_some_iff {id : Nat} {row : SessionRow} :
    t.find? tokenHash = some (id, row) ↔ t.rows.get? id = some row ∧ row.tokenHash = tokenHash := by
  constructor
  · intro hfind
    obtain ⟨hget, hhash⟩ := Table.find?_eq_some hfind
    exact ⟨hget, beq_iff_eq.mp hhash⟩
  · rintro ⟨hget, hhash⟩
    cases hfind : t.find? tokenHash with
    | none =>
      simpa [hhash] using Table.find?_eq_none_iff.mp hfind id row hget
    | some found =>
      obtain ⟨hget', hhash'⟩ := Table.find?_eq_some hfind
      have hid := t.unique id found.1 row found.2 hget hget' (hhash.trans (beq_iff_eq.mp hhash').symm)
      subst hid
      rw [hget, Option.some.injEq] at hget'
      rw [hget']

/-- The session of a hash is revoked. -/
def Revoked (t : SessionTable) (tokenHash : String) : Prop :=
  ∃ id row, t.rows.get? id = some row ∧ row.tokenHash = tokenHash ∧ row.revokedAt.isSome = true

theorem Later.revoked (h : t.Later t') (hrevoked : t.Revoked tokenHash) : t'.Revoked tokenHash := by
  obtain ⟨id, row, hget, hhash, hmark⟩ := hrevoked
  obtain ⟨row', hget', hlater⟩ := h id row hget
  exact ⟨id, row', hget', hlater.tokenHash.trans hhash, hlater.revoked hmark⟩

/-- The payload is that of the session of its hash. -/
def Holds (t : SessionTable) (tokenHash : String) (payload : CachedSession) : Prop :=
  ∃ id row, t.rows.get? id = some row ∧ row.tokenHash = tokenHash ∧
    row.operatorId = payload.operatorId ∧ row.expiresAt = payload.expiresAt

theorem Later.holds (h : t.Later t') (hholds : t.Holds tokenHash payload) :
    t'.Holds tokenHash payload := by
  obtain ⟨id, row, hget, hhash, hoperator, hexpires⟩ := hholds
  obtain ⟨row', hget', hlater⟩ := h id row hget
  exact ⟨id, row', hget', hlater.tokenHash.trans hhash, hlater.operatorId.trans hoperator,
    hlater.expiresAt.trans hexpires⟩

/-- Whatever is cached is the payload of a session. -/
def Backs (t : SessionTable) (cache : SessionCache) : Prop :=
  ∀ tokenHash item, cache.get? tokenHash = some item → t.Holds tokenHash item.1

theorem backs_empty (t : SessionTable) : t.Backs Dict.empty := fun _ _ h => nomatch h

theorem Later.backs (h : t.Later t') (hbacks : t.Backs cache) : t'.Backs cache :=
  fun tokenHash item hget => h.holds (hbacks tokenHash item hget)

theorem Backs.erase (h : t.Backs cache) (tokenHash : String) : t.Backs (cache.erase tokenHash) :=
  fun other item hget => h other item (Dict.of_get?_erase hget).2

theorem Backs.deleteAll (hashes : List String) :
    ∀ cache : SessionCache, t.Backs cache → t.Backs (cache.deleteAll hashes) := by
  induction hashes with
  | nil => intro cache h; exact h
  | cons tokenHash hashes ih =>
    intro cache h
    exact ih (cache.erase tokenHash) (h.erase tokenHash)

theorem Backs.store (h : t.Backs cache) {now : Instant} (hholds : t.Holds tokenHash payload) :
    t.Backs (cache.store now tokenHash payload) :=
  Dict.forall_get?_set hholds h

theorem Backs.lookup (h : t.Backs cache) (now : Instant) (tokenHash : String) :
    t.Backs (cache.lookup now tokenHash).2 ∧
      ∀ payload, (cache.lookup now tokenHash).1 = some payload → t.Holds tokenHash payload := by
  unfold SessionCache.lookup
  cases hget : cache.get? tokenHash with
  | none => exact ⟨h, fun _ heq => nomatch heq⟩
  | some item =>
    dsimp only
    split
    · exact ⟨h.erase tokenHash, fun _ heq => nomatch heq⟩
    · refine ⟨h, ?_⟩
      rintro payload ⟨⟩
      exact h tokenHash item hget

end SessionTable

/-! ## Operators over time -/

/-- The table of operators that a database has. -/
abbrev ConsoleDb.operators (db : ConsoleDb) : Table ConsoleOperatorRow := db.store.operators

/-- The unique constraint on the email. -/
def UniqueEmails (t : Table ConsoleOperatorRow) : Prop :=
  ∀ id id' operator operator', t.get? id = some operator → t.get? id' = some operator' →
    operator.email = operator'.email → id = id'

/-- The same operators, later: they keep their emails, nothing brings a deleted one back, and no
others are deleted than these. -/
structure OperatorsLater (deletes : Nat → Prop) (t t' : Table ConsoleOperatorRow) : Prop where
  old : ∀ id operator, t.get? id = some operator → ∃ operator', t'.get? id = some operator' ∧
    operator'.email = operator.email ∧ (operator.isDeleted = true → operator'.isDeleted = true)
  deleted : ∀ id operator', t'.get? id = some operator' → operator'.isDeleted = true →
    (∃ operator, t.get? id = some operator ∧ operator.isDeleted = true) ∨ deletes id
  unique : UniqueEmails t → UniqueEmails t'

namespace OperatorsLater

variable {deletes : Nat → Prop} {t t' t'' : Table ConsoleOperatorRow}

theorem refl (t : Table ConsoleOperatorRow) : OperatorsLater deletes t t :=
  ⟨fun _ operator hget => ⟨operator, hget, rfl, id⟩,
    fun _ operator hget hdeleted => .inl ⟨operator, hget, hdeleted⟩, id⟩

theorem trans (h : OperatorsLater deletes t t') (h' : OperatorsLater deletes t' t'') :
    OperatorsLater deletes t t'' where
  old id operator hget := by
    obtain ⟨operator', hget', hemail, hdeleted⟩ := h.old id operator hget
    obtain ⟨operator'', hget'', hemail', hdeleted'⟩ := h'.old id operator' hget'
    exact ⟨operator'', hget'', hemail'.trans hemail, fun hd => hdeleted' (hdeleted hd)⟩
  deleted id operator'' hget hdeleted := by
    rcases h'.deleted id operator'' hget hdeleted with ⟨operator', hget', hdeleted'⟩ | hdeletes
    · exact h.deleted id operator' hget' hdeleted'
    · exact .inr hdeletes
  unique hunique := h'.unique (h.unique hunique)

theorem insert {email : String} (name : String)
    (hfree : (t.find? fun operator => operator.email == email) = none) :
    OperatorsLater deletes t (t.insert { email := email, name := name }) where
  old _ operator hget := ⟨operator, Table.get?_insert_of_some hget _, rfl, id⟩
  deleted id operator' hget hdeleted := by
    rcases Table.get?_insert_cases hget with hold | rfl
    · exact .inl ⟨operator', hold, hdeleted⟩
    · cases hdeleted
  unique h := Table.unique_insert h hfree

theorem modify {f : ConsoleOperatorRow → ConsoleOperatorRow} (t : Table ConsoleOperatorRow)
    (id : Nat) (hemail : ∀ operator, (f operator).email = operator.email)
    (hkept : ∀ operator, operator.isDeleted = true → (f operator).isDeleted = true)
    (hdeletes : ∀ operator, (f operator).isDeleted = true → operator.isDeleted = true ∨ deletes id) :
    OperatorsLater deletes t (t.modify id f) := by
  have hback : ∀ id' operator', (t.modify id f).get? id' = some operator' → ∃ operator,
      t.get? id' = some operator ∧ operator'.email = operator.email ∧
        (operator'.isDeleted = true → operator.isDeleted = true ∨ deletes id') := by
    intro id' operator' hget
    rw [Table.get?_modify] at hget
    split at hget
    · rename_i hid
      obtain ⟨operator, hold, rfl⟩ := Option.map_eq_some_iff.mp hget
      exact ⟨operator, hold, hemail operator, hid ▸ hdeletes operator⟩
    · exact ⟨operator', hget, rfl, .inl⟩
  refine ⟨fun id' operator hget => ?_, fun id' operator' hget hdeleted => ?_,
    fun h id₁ id₂ operator₁ operator₂ hget₁ hget₂ hsame => ?_⟩
  · rw [Table.get?_modify, hget]
    split
    · exact ⟨f operator, rfl, hemail operator, hkept operator⟩
    · exact ⟨operator, rfl, rfl, fun hdeleted => hdeleted⟩
  · obtain ⟨operator, hold, _, hcases⟩ := hback id' operator' hget
    exact (hcases hdeleted).imp_left fun hd => ⟨operator, hold, hd⟩
  · obtain ⟨old₁, hold₁, hemail₁, _⟩ := hback id₁ operator₁ hget₁
    obtain ⟨old₂, hold₂, hemail₂, _⟩ := hback id₂ operator₂ hget₂
    exact h id₁ id₂ old₁ old₂ hold₁ hold₂ (hemail₁.symm.trans (hsame.trans hemail₂))

end OperatorsLater

/-! ## What the tables answer -/

/-- The operator of a token hash, from the tables alone. -/
def ConsoleDb.accepts (db : ConsoleDb) (now : Instant) (tokenHash : String) :
    Option HydratedOperator :=
  match db.sessions.find? tokenHash with
  | none => none
  | some (_, row) =>
      if row.isActive now = false then none
      else
        match db.activeOperator row.operatorId with
        | none => none
        | some operator => some (db.hydrate row.operatorId operator)

/-- No session that is revoked is accepted. -/
theorem ConsoleDb.accepts_of_revoked {db : ConsoleDb} {tokenHash : String}
    (h : db.sessions.Revoked tokenHash) (now : Instant) : db.accepts now tokenHash = none := by
  obtain ⟨id, row, hget, hhash, hmark⟩ := h
  have hinactive : row.isActive now = false := by
    unfold SessionRow.isActive
    cases hrevoked : row.revokedAt with
    | none => simp [hrevoked] at hmark
    | some revokedAt => rfl
  unfold ConsoleDb.accepts
  rw [SessionTable.find?_eq_some_iff.mpr ⟨hget, hhash⟩]
  exact if_pos hinactive

namespace ConsoleService

open SessionTable

variable {hashing : Hashing} {settings : ConsoleSettings}

/-! ## Steps of the service -/

/-- Sessions and operators go on, and the cache stays backed if the token that is drawn is new. -/
structure Step (fresh : Prop) (deletes : Nat → Prop) (s s' : ConsoleService) : Prop where
  later : s.db.sessions.Later s'.db.sessions
  backs : fresh → s.db.sessions.Backs s.cache → s'.db.sessions.Backs s'.cache
  operators : OperatorsLater deletes s.db.operators s'.db.operators

variable {fresh : Prop} {deletes : Nat → Prop}

theorem Step.refl (s : ConsoleService) : Step fresh deletes s s := ⟨.refl _, fun _ => id, .refl _⟩

theorem Step.trans {s s' s'' : ConsoleService} (h : Step fresh deletes s s')
    (h' : Step fresh deletes s' s'') : Step fresh deletes s s'' :=
  ⟨h.later.trans h'.later, fun hfresh hbacks => h'.backs hfresh (h.backs hfresh hbacks),
    h.operators.trans h'.operators⟩

section

variable {s : ConsoleService}
  {db db' : ConsoleDb} {salt token : String} {now : Instant} {operatorId id : Nat}
  {revokes : Bool} {row : SessionRow}

/-- A step that caches nothing new. -/
theorem step_of_less {cache : SessionCache} (hlater : s.db.sessions.Later db.sessions)
    (hoperators : OperatorsLater deletes s.db.operators db.operators)
    (hless : ∀ t : SessionTable, t.Backs s.cache → t.Backs cache) :
    Step fresh deletes s { db := db, cache := cache } :=
  ⟨hlater, fun _ hbacks => hless _ (hlater.backs hbacks), hoperators⟩

section

variable (hashing s now) (t : SessionTable) (tokenHash : String)

theorem step_erase : Step fresh deletes s { s with cache := s.cache.erase tokenHash } :=
  step_of_less (.refl _) (.refl _) fun _ h => h.erase tokenHash

theorem later_touch (now : Instant) : t.Later (touch t tokenHash now) :=
  later_updateHash t tokenHash _ fun _ => ⟨rfl, rfl, rfl, id⟩

theorem later_revoke (now : Instant) (reason : String) : t.Later (revoke t tokenHash now reason) :=
  later_updateHash t tokenHash _ fun _ => ⟨rfl, rfl, rfl, fun _ => rfl⟩

theorem later_revokeOperatorSessions (reason : String) (operatorId : Nat) (db : ConsoleDb) :
    db.sessions.Later (db.revokeOperatorSessions now reason operatorId).sessions := by
  refine later_update db.sessions (fun row => by split <;> rfl) fun row => ?_
  split
  · exact ⟨rfl, rfl, rfl, fun _ => rfl⟩
  · exact .refl row

theorem step_revokeSession
    (token reason : String) : Step fresh deletes s (s.revokeSession hashing now token reason) := by
  unfold revokeSession
  dsimp only
  split
  · exact step_erase s _
  · split
    · exact step_of_less (later_revoke _ _ _ _) (.refl _) fun _ h => h.erase _
    · exact step_erase s _

/-- The lookup in the tables, and what it answers. -/
theorem getOperatorBySessionFromDb_spec :
    Step fresh deletes s (s.getOperatorBySessionFromDb now tokenHash).2 ∧
      (s.getOperatorBySessionFromDb now tokenHash).1 = s.db.accepts now tokenHash := by
  unfold getOperatorBySessionFromDb ConsoleDb.accepts
  cases hfind : s.db.sessions.find? tokenHash with
  | none => exact ⟨.refl s, rfl⟩
  | some found =>
    dsimp only
    by_cases hactive : found.2.isActive now = false
    · rw [if_pos hactive, if_pos hactive]
      exact ⟨step_erase s tokenHash, rfl⟩
    · rw [if_neg hactive, if_neg hactive]
      cases hoperator : s.db.activeOperator found.2.operatorId with
      | none => exact ⟨step_erase s tokenHash, rfl⟩
      | some operator =>
        refine ⟨⟨later_touch _ _ _, fun _ hbacks => ?_, .refl _⟩, rfl⟩
        obtain ⟨hget, hhash⟩ := find?_eq_some_iff.mp hfind
        have hholds : s.db.sessions.Holds tokenHash
            { operatorId := found.2.operatorId, expiresAt := found.2.expiresAt } :=
          ⟨found.1, found.2, hget, hhash, rfl, rfl⟩
        have hlater := later_touch s.db.sessions tokenHash now
        exact (hlater.backs hbacks).store (hlater.holds hholds)

/-- The lookup of a payload that is backed. -/
theorem getOperatorBySessionCached_spec (token : String) (cached : CachedSession) :
    Step fresh deletes s (s.getOperatorBySessionCached hashing now token cached).2 ∧
      (s.db.sessions.Holds (hashing.hashToken token) cached →
        (s.getOperatorBySessionCached hashing now token cached).1 =
          s.db.accepts now (hashing.hashToken token)) := by
  unfold getOperatorBySessionCached
  by_cases hexpired : cached.expiresAt ≤ now
  · rw [if_pos hexpired]
    refine ⟨step_revokeSession hashing s now token "expired", ?_⟩
    rintro ⟨id, row, hget, hhash, _, hexpires⟩
    have hinactive : row.isActive now = false := by
      have hlate : ¬ now < row.expiresAt := by
        rw [hexpires]
        exact not_lt.mpr hexpired
      simp [SessionRow.isActive, hlate]
    unfold ConsoleDb.accepts
    rw [find?_eq_some_iff.mpr ⟨hget, hhash⟩]
    exact (if_pos hinactive).symm
  · rw [if_neg hexpired]
    unfold ConsoleDb.accepts
    cases hfind : s.db.sessions.find? (hashing.hashToken token) with
    | none => exact ⟨step_erase s _, fun _ => rfl⟩
    | some found =>
      dsimp only
      by_cases hactive : found.2.isActive now = false
      · rw [if_pos hactive, if_pos hactive]
        exact ⟨step_erase s _, fun _ => rfl⟩
      · rw [if_neg hactive, if_neg hactive]
        have hsame : s.db.sessions.Holds (hashing.hashToken token) cached →
            found.2.operatorId = cached.operatorId := by
          rintro ⟨id, row, hget, hhash, hoperator, _⟩
          have hfind' := find?_eq_some_iff.mpr ⟨hget, hhash⟩
          rw [hfind, Option.some.injEq] at hfind'
          rw [hfind']
          exact hoperator
        cases hoperator : s.db.activeOperator cached.operatorId with
        | none =>
          refine ⟨step_erase s _, fun hholds => ?_⟩
          rw [hsame hholds, hoperator]
        | some operator =>
          refine ⟨step_of_less (later_touch _ _ _) (.refl _) fun _ h => h, fun hholds => ?_⟩
          rw [hsame hholds, hoperator]
          rfl

end

/-- A lookup answers what the tables answer, if the cache is backed. -/
theorem getOperatorBySession_spec (fresh : Prop) (deletes : Nat → Prop)
    (hashing : Hashing) (s : ConsoleService) (now : Instant)
    (token : String) :
    Step fresh deletes s (s.getOperatorBySession hashing now token).2 ∧
      (s.db.sessions.Backs s.cache → (s.getOperatorBySession hashing now token).1 =
          s.db.accepts now (hashing.hashToken token)) := by
  have hdrop : Step fresh deletes s
      { s with cache := (s.cache.lookup now (hashing.hashToken token)).2 } :=
    step_of_less (.refl _) (.refl _) fun _ h => (h.lookup now _).1
  unfold getOperatorBySession
  dsimp only
  cases hfound : (s.cache.lookup now (hashing.hashToken token)).1 with
  | none =>
    obtain ⟨hstep, hanswer⟩ := getOperatorBySessionFromDb_spec
      { s with cache := (s.cache.lookup now (hashing.hashToken token)).2 } now
      (hashing.hashToken token)
    exact ⟨hdrop.trans hstep, fun _ => hanswer⟩
  | some cached =>
    obtain ⟨hstep, hanswer⟩ := getOperatorBySessionCached_spec hashing
      { s with cache := (s.cache.lookup now (hashing.hashToken token)).2 } now token cached
    exact ⟨hdrop.trans hstep, fun hbacks => hanswer ((hbacks.lookup now _).2 cached hfound)⟩

/-! ## Methods that begin with the bootstrap operator -/

theorem step_ensureBootstrapOperator
    (h : s.db.ensureBootstrapOperator hashing settings salt = .ok db') :
    db'.sessions = s.db.sessions ∧ Step fresh deletes s { s with db := db' } := by
  have hgrows := ConsoleStore.enlarges_seedBuiltinPermissions s.db.store
  have hof : db'.sessions = s.db.sessions → OperatorsLater deletes s.db.operators db'.operators →
      db'.sessions = s.db.sessions ∧ Step fresh deletes s { s with db := db' } :=
    fun hsessions hoperators =>
      ⟨hsessions, step_of_less (hsessions ▸ .refl _) hoperators fun _ h => h⟩
  rcases ConsoleDb.ensureBootstrapOperator_cases h with ⟨_, hfound⟩ | ⟨_, hmade⟩
  · refine hof hfound.sessions ?_
    unfold ConsoleDb.operators
    rw [hfound.store, hgrows.operators]
    exact .refl _
  · have hfree := hmade.added.free
    refine hof hmade.sessions ?_
    unfold ConsoleDb.operators
    rw [hmade.added.operators]
    rw [hgrows.operators] at hfree ⊢
    exact .insert _ hfree

/-- What holds of the body holds of the method, for the sessions are the same. -/
theorem afterBootstrap_induction {α : Type} {body : ConsoleService → Outcome α}
    {P : Outcome α → Prop} (hraise : ∀ e, P (.error e, s))
    (hbody : ∀ s₁ : ConsoleService, s₁.db.sessions = s.db.sessions → Step fresh deletes s s₁ →
      P (body s₁)) : P (afterBootstrap hashing settings salt s body) := by
  unfold afterBootstrap
  split
  · exact hraise _
  · rename_i db hensure
    obtain ⟨hsessions, hstep⟩ := step_ensureBootstrapOperator hensure
    exact hbody _ hsessions hstep

theorem step_afterBootstrap {α : Type} {body : ConsoleService → Outcome α}
    (hbody : ∀ s₁ : ConsoleService, s₁.db.sessions = s.db.sessions →
      Step fresh deletes s₁ (body s₁).2) :
    Step fresh deletes s (afterBootstrap hashing settings salt s body).2 :=
  afterBootstrap_induction (P := fun outcome => Step fresh deletes s outcome.2) (fun _ => .refl s)
    fun s₁ hsessions hstep => hstep.trans (hbody s₁ hsessions)

/-! ## Logging in -/

theorem checkPassword_keeps (hashing : Hashing) (now : Instant) (password : String)
    (operatorId : Nat) (credential : Credential) (db : ConsoleDb) :
    (checkPassword hashing now password operatorId credential db).2.sessions = db.sessions ∧
      (checkPassword hashing now password operatorId credential db).2.store = db.store := by
  unfold checkPassword
  split
  · exact ⟨rfl, rfl⟩
  · exact ⟨rfl, rfl⟩

theorem step_openSession {checked : ConsoleDb} (hchecked : checked.store = s.db.store) :
    Step (s.db.sessions.find? (hashing.hashToken token) = none) deletes s
      (s.openSession hashing settings now token operatorId checked).2 := by
  let row : SessionRow :=
    { operatorId := operatorId, tokenHash := hashing.hashToken token, lastUsedAt := now,
      expiresAt := now + 1000000 * settings.ttlSeconds }
  unfold openSession
  dsimp only
  split
  · rename_i hfresh
    have hlater := later_insert s.db.sessions row hfresh
    have hget : (s.db.sessions.insert row hfresh).rows.get? s.db.sessions.rows.nextId =
        some row := by
      show (s.db.sessions.rows.insert row).get? _ = _
      rw [Table.get?_insert, if_pos rfl]
    -- the payload is that of the row that is written
    refine ⟨hlater, fun _ hbacks => (hlater.backs hbacks).store ⟨_, row, hget, rfl, rfl, rfl⟩, ?_⟩
    show OperatorsLater deletes s.db.store.operators checked.store.operators
    rw [hchecked]
    exact .refl _
  · rename_i htaken
    exact ⟨.refl _, fun hfresh => absurd hfresh htaken, .refl _⟩

theorem step_authenticate (hashing : Hashing) (settings : ConsoleSettings) (s : ConsoleService)
    (now : Instant) (email password token salt : String) :
    Step (s.db.sessions.find? (hashing.hashToken token) = none) deletes s
      (s.authenticate hashing settings now email password token salt).2 := by
  refine step_afterBootstrap fun s₁ hsessions => ?_
  rw [← hsessions]
  split
  · exact .refl s₁
  · rename_i operatorId credential _
    have hchecked := checkPassword_keeps hashing now password operatorId credential s₁.db
    split
    · rename_i db heq
      rw [heq] at hchecked
      refine step_of_less (hchecked.1 ▸ .refl _) ?_ fun _ h => h
      unfold ConsoleDb.operators
      rw [hchecked.2]
      exact .refl _
    · rename_i db heq
      rw [heq] at hchecked
      exact step_openSession hchecked.2

/-! ## Administration -/

theorem insertOperator_keeps {data : ConsoleDb.CreateOperator}
    (h : db.insertOperator hashing settings data = .ok (operatorId, db')) :
    db'.sessions = db.sessions ∧ OperatorsLater deletes db.operators db'.operators := by
  unfold ConsoleDb.insertOperator at h
  split at h
  · cases h
  · rename_i id store hcreate
    have hadded := ConsoleStore.added_createOperator hcreate
    split at h
    · cases h
    · cases h
      refine ⟨rfl, ?_⟩
      show OperatorsLater deletes db.operators store.operators
      rw [hadded.operators]
      exact .insert _ hadded.free

theorem step_createOperator (hashing : Hashing) (settings : ConsoleSettings)
    (s : ConsoleService) (data : ConsoleDb.CreateOperator) :
    Step fresh deletes s (s.createOperator hashing settings data).2 := by
  refine step_afterBootstrap fun s₁ _ => ?_
  split
  · exact .refl s₁
  · rename_i operatorId db hinsert
    obtain ⟨hsessions, hoperators⟩ := insertOperator_keeps hinsert
    exact step_of_less (hsessions ▸ .refl _) hoperators fun _ h => h

/-- The sessions of an operator are all revoked. -/
def RevokesAll (operatorId : Nat) (t t' : SessionTable) : Prop :=
  ∀ id row, t.rows.get? id = some row → row.operatorId = operatorId → t'.Revoked row.tokenHash

theorem revokesAll_revokeOperatorSessions (now : Instant) (reason : String) (operatorId : Nat)
    (db : ConsoleDb) :
    RevokesAll operatorId db.sessions
      (db.revokeOperatorSessions now reason operatorId).sessions := by
  intro id row hget hoperator
  have hrow : (db.revokeOperatorSessions now reason operatorId).sessions.rows.get? id =
      some (if ConsoleDb.isOpenFor operatorId row then
        { row with revokedAt := some now, revokeReason := some reason } else row) := by
    show (db.sessions.rows.map _).get? id = _
    rw [Table.get?_map, hget]
    rfl
  by_cases hopen : ConsoleDb.isOpenFor operatorId row = true
  · rw [if_pos hopen] at hrow
    exact ⟨id, _, hrow, rfl, rfl⟩
  · rw [if_neg hopen] at hrow
    refine ⟨id, row, hrow, rfl, ?_⟩
    -- it was revoked before
    cases hmark : row.revokedAt with
    | some _ => rfl
    | none => simp [ConsoleDb.isOpenFor, hoperator, hmark] at hopen

theorem backs_withoutSessionsOf (s : ConsoleService) (operatorId : Nat) (t : SessionTable)
    (h : t.Backs s.cache) : t.Backs (s.withoutSessionsOf operatorId) :=
  Backs.deleteAll _ _ h

/-- What an update of the row of an operator does to its sessions. -/
theorem updateOperator_keeps {data : ConsoleDb.UpdateOperator}
    (h : db.updateOperator now operatorId data = .ok (some db')) :
    OperatorsLater deletes db.operators db'.operators ∧ db.sessions.Later db'.sessions ∧
      (data.disables = true → RevokesAll operatorId db.sessions db'.sessions) := by
  unfold ConsoleDb.updateOperator at h
  split at h
  · cases h
  · cases h
  · rename_i store hstore
    have hoperators : OperatorsLater deletes db.operators store.operators := by
      rw [(ConsoleStore.leavesOthers_updateOperator hstore).operators]
      exact .modify _ operatorId (fun _ => rfl) (fun _ h => h) fun _ => .inl
    split at h
    · cases h
    · cases h
      split
      · exact ⟨hoperators, later_revokeOperatorSessions now _ operatorId _,
          fun _ => revokesAll_revokeOperatorSessions now _ operatorId _⟩
      · rename_i hnot
        exact ⟨hoperators, .refl _, fun hdisables => absurd hdisables hnot⟩

theorem deleteOperator_keeps (h : db.deleteOperator now operatorId = some db') :
    OperatorsLater (· = operatorId) db.operators db'.operators ∧
      db.sessions.Later db'.sessions ∧ RevokesAll operatorId db.sessions db'.sessions := by
  unfold ConsoleDb.deleteOperator at h
  split at h
  · cases h
  · rename_i store hstore
    cases h
    cases ConsoleStore.deleteOperator_eq_some hstore
    exact ⟨.modify _ operatorId (fun _ => rfl) (fun _ _ => rfl) fun _ _ => .inr rfl,
      later_revokeOperatorSessions now _ operatorId _,
      revokesAll_revokeOperatorSessions now _ operatorId _⟩

/-- A method that is to revoke the sessions of an operator: it is a step, and if it says that it
did, they are revoked. -/
structure Revokes (deletes : Nat → Prop) (operatorId : Nat) (revokes : Bool) (s : ConsoleService)
    (outcome : Outcome Bool) : Prop where
  step : Step True deletes s outcome.2
  revoked : outcome.1 = .ok true → revokes = true →
    RevokesAll operatorId s.db.sessions outcome.2.db.sessions

theorem revokes_afterBootstrap {body : ConsoleService → Outcome Bool}
    (hbody : ∀ s₁, Revokes deletes operatorId revokes s₁ (body s₁)) :
    Revokes deletes operatorId revokes s (afterBootstrap hashing settings salt s body) := by
  refine ⟨step_afterBootstrap fun s₁ _ => (hbody s₁).step, ?_⟩
  refine @afterBootstrap_induction _ _ True deletes s salt _ _
    (fun outcome => outcome.1 = .ok true → revokes = true →
      RevokesAll operatorId s.db.sessions outcome.2.db.sessions) (fun _ h => nomatch h) ?_
  intro s₁ hsessions _ hdone hrevokes
  rw [← hsessions]
  exact (hbody s₁).revoked hdone hrevokes

theorem revokes_of_not_done {reply : Except ConsoleError Bool}
    (h : reply ≠ .ok true) : Revokes deletes operatorId revokes s (reply, s) :=
  ⟨.refl s, fun hdone => absurd hdone h⟩

section

variable (hashing settings)

theorem revokes_updateOperator (s : ConsoleService) (now : Instant) (operatorId : Nat)
    (data : ConsoleDb.UpdateOperator) (salt : String) :
    Revokes deletes operatorId data.disables s
      (s.updateOperator hashing settings now operatorId data salt) := by
  refine revokes_afterBootstrap fun s₁ => ?_
  have hless : ∀ t : SessionTable, t.Backs s₁.cache →
      t.Backs (if data.disables then s₁.withoutSessionsOf operatorId else s₁.cache) := by
    intro t h
    split
    · exact backs_withoutSessionsOf s₁ operatorId t h
    · exact h
  split
  · exact revokes_of_not_done nofun
  · dsimp only
    split
    · exact ⟨step_of_less (.refl _) (.refl _) hless, fun hdone => nomatch hdone⟩
    · exact revokes_of_not_done nofun
    · rename_i db hupdate
      obtain ⟨hoperators, hlater, hrevoked⟩ := updateOperator_keeps hupdate
      exact ⟨step_of_less hlater hoperators hless, fun _ => hrevoked⟩

theorem revokes_deleteOperator
    (s : ConsoleService) (now : Instant) (operatorId : Nat) (salt : String) :
    Revokes (· = operatorId) operatorId true s
      (s.deleteOperator hashing settings now operatorId salt) := by
  refine revokes_afterBootstrap fun s₁ => ?_
  split
  · exact revokes_of_not_done nofun
  · rename_i db hdelete
    obtain ⟨hoperators, hlater, hrevoked⟩ := deleteOperator_keeps hdelete
    exact ⟨step_of_less hlater hoperators (backs_withoutSessionsOf s₁ operatorId),
      fun _ _ => hrevoked⟩

/-- The end of the methods that revoke the sessions of an operator. -/
theorem revokes_revokeOperatorSessions_db (hsessions : db.sessions = s.db.sessions)
    (hstore : db.store = s.db.store) (now : Instant) (operatorId : Nat) (reason : String) :
    Revokes deletes operatorId true s (.ok true,
        { db := db.revokeOperatorSessions now reason operatorId
          cache := s.withoutSessionsOf operatorId }) := by
  have hlater := later_revokeOperatorSessions now reason operatorId db
  have hrevoked := revokesAll_revokeOperatorSessions now reason operatorId db
  rw [hsessions] at hlater hrevoked
  refine ⟨step_of_less hlater ?_ (backs_withoutSessionsOf s operatorId), fun _ _ => hrevoked⟩
  show OperatorsLater deletes s.db.operators db.store.operators
  rw [hstore]
  exact .refl _

theorem revokes_changePassword
    (s : ConsoleService) (now : Instant) (operatorId : Nat) (change : PasswordChange) :
    Revokes deletes operatorId true s (s.changePassword hashing settings now operatorId change) := by
  refine revokes_afterBootstrap fun s₁ => ?_
  split
  · exact revokes_of_not_done nofun
  · split
    · exact revokes_of_not_done nofun
    · split
      · exact revokes_of_not_done nofun
      · refine revokes_revokeOperatorSessions_db ?_ ?_ now operatorId "password_changed"
        · rfl
        · rfl

theorem revokes_revokeOperatorSessions (s : ConsoleService) (now : Instant) (operatorId : Nat)
    (reason salt : String) :
    Revokes deletes operatorId true s
      (s.revokeOperatorSessions hashing settings now operatorId reason salt) := by
  refine revokes_afterBootstrap fun s₁ => ?_
  split
  · exact revokes_of_not_done nofun
  · exact revokes_revokeOperatorSessions_db rfl rfl now operatorId reason

end

/-! ## Single sessions -/

theorem revoked_revoke {t : SessionTable} (hget : t.rows.get? id = some row) (now : Instant)
    (reason : String) : (revoke t row.tokenHash now reason).Revoked row.tokenHash := by
  have hrow : (revoke t row.tokenHash now reason).rows.get? id =
      some (if row.tokenHash = row.tokenHash then
        { row with revokedAt := some now, revokeReason := some reason } else row) := by
    show (t.rows.map _).get? id = _
    rw [Table.get?_map, hget]
    rfl
  rw [if_pos rfl] at hrow
  exact ⟨id, _, hrow, rfl, rfl⟩

theorem revoked_revokeSession (hget : s.db.sessions.rows.get? id = some row)
    (hhash : row.tokenHash = hashing.hashToken token) (now : Instant) (reason : String) :
    (s.revokeSession hashing now token reason).db.sessions.Revoked (hashing.hashToken token) := by
  unfold revokeSession
  dsimp only
  rw [find?_eq_some_iff.mpr ⟨hget, hhash⟩, ← hhash]
  dsimp only
  cases hmark : row.revokedAt with
  | none => exact revoked_revoke hget now reason
  | some revokedAt => exact ⟨id, row, hget, rfl, by rw [hmark]; rfl⟩

theorem revokeOperatorSession_spec (fresh : Prop) (deletes : Nat → Prop)
    (s : ConsoleService) (now : Instant) (actor : Option Nat)
    (operatorId sessionId : Nat) :
    Step fresh deletes s (s.revokeOperatorSession now actor operatorId sessionId).2 ∧
      ((s.revokeOperatorSession now actor operatorId sessionId).1 = .ok →
        ∀ row, s.db.sessions.rows.get? sessionId = some row →
          (s.revokeOperatorSession now actor operatorId sessionId).2.db.sessions.Revoked
            row.tokenHash) := by
  unfold revokeOperatorSession
  split
  · exact ⟨.refl s, fun h => nomatch h⟩
  · rename_i row hget
    split
    · exact ⟨.refl s, fun h => nomatch h⟩
    · split
      · exact ⟨.refl s, fun h => nomatch h⟩
      · refine ⟨step_of_less (later_revoke _ _ _ _) (.refl _) fun _ h => h.erase _, ?_⟩
        intro _ other hother
        rw [hget, Option.some.injEq] at hother
        subst hother
        exact revoked_revoke hget now "admin_revoked"

end

end ConsoleService

end DimooRun.Identity
