/-
  Security/ApiKeys.lean --- API keys and the authenticator.

  Source: security/api_keys.py, the authenticator over the
  database. The digest of a key is a parameter, and so is the random part of a new
  key. Rows of deleted keys stay, and the digests of all rows differ.
-/
import DimooRun.Domain.Models
import DimooRun.Identity.ServiceAccounts

set_option autoImplicit false

namespace DimooRun.Security

open Foundation Identity
open Scheduler (Time)

/-- `APIKeyError`, `APIKeyDisabledError` and `APIKeyScopeError`, with their text. -/
inductive APIKeyError where
  | invalid (text : String)
  | disabled (text : String)
  | scope (text : String)
  deriving DecidableEq

namespace APIKeyError

/-- `error_code`. -/
def errorCode : APIKeyError → String
  | invalid _ => "api_key_invalid"
  | disabled _ => "api_key_disabled"
  | scope _ => "api_key_scope_denied"

/-- `str(exc)`. -/
def text : APIKeyError → String
  | invalid text => text
  | disabled text => text
  | scope text => text

end APIKeyError

/-- What an operation on keys and accounts raises. -/
inductive IdentityError where
  | keyError (id : Int)
  | apiKey (error : APIKeyError)
  /-- `IntegrityError`: another row has the digest. -/
  | integrity

/-- `APIKey`. -/
structure APIKey where
  tenantId : Int
  projectId : Option Int
  name : String
  ownerType : String
  ownerId : Nat
  keyHash : String
  keyPrefix : String
  scopes : Finset String
  status : String
  createdBy : String
  expiresAt : Option Time := none
  isDeleted : Bool := false

/-- `AuthenticatedActor`. -/
structure AuthenticatedActor where
  tenantId : Int
  projectId : Option Int
  actorType : String
  actorId : String
  scopes : Finset String
  apiKeyId : Option Nat
  deriving DecidableEq

/-- The service accounts and the keys. -/
structure IdentityStore where
  accounts : ServiceAccountRegistry := {}
  keys : Table APIKey := {}

namespace IdentityStore

/-- `_assert_owner_scope_subset`. -/
def assertOwnerScopeSubset (store : IdentityStore) (tenantId : Int) (projectId : Option Int)
    (ownerType : String) (ownerId : Nat) (scopes : Finset String) : Except IdentityError Unit :=
  if ownerType ≠ "service_account" then .ok ()
  else
    match ServiceAccountRegistry.get store.accounts ownerId with
    | .error e => .error (.keyError e.id)
    | .ok owner =>
        if owner.status ≠ "active" then .error (.apiKey (.disabled "owner_disabled"))
        else if owner.tenantId ≠ tenantId ∨ owner.projectId ≠ projectId then
          .error (.apiKey (.scope "owner_scope_mismatch"))
        else if ¬ scopes ⊆ owner.permissions then
          .error (.apiKey (.scope "api_key_scope_exceeds_owner"))
        else .ok ()

/-- The arguments of `create_key`, and the random part of the new key. -/
structure NewKey where
  tenantId : Int
  projectId : Option Int
  name : String
  ownerType : String
  ownerId : Nat
  scopes : Finset String
  createdBy : String
  expiresAt : Option Time
  token : String

/-- `create_key`; the result is the plain key and the id of its record. -/
def createKey (hash : String → String) (key : NewKey) :
    EStateM IdentityError IdentityStore (String × Nat × APIKey) := do
  let store ← get
  orRaise (store.assertOwnerScopeSubset key.tenantId key.projectId key.ownerType key.ownerId
    key.scopes)
  let plainKey := "dr_" ++ key.token
  let record : APIKey :=
    { tenantId := key.tenantId
      projectId := key.projectId
      name := key.name
      ownerType := key.ownerType
      ownerId := key.ownerId
      keyHash := hash plainKey
      keyPrefix := String.ofList (plainKey.toList.take 12)
      scopes := key.scopes
      status := "active"
      createdBy := key.createdBy
      expiresAt := key.expiresAt }
  if (store.keys.find? fun row => row.keyHash == record.keyHash).isSome then
    throw .integrity
  set { store with keys := store.keys.insert record }
  return (plainKey, store.keys.nextId, record)

/-- `_find_by_hash`. -/
def findByHash (store : IdentityStore) (keyHash : String) : Except APIKeyError (Nat × APIKey) :=
  match store.keys.find? fun key => key.keyHash == keyHash && !key.isDeleted with
  | none => .error (.invalid "api_key_not_found")
  | some found => .ok found

/-- `expires_at is not None and expires_at <= now`. -/
def Expired (expiresAt : Option Time) (now : Time) : Prop :=
  match expiresAt with
  | none => False
  | some expiresAt => expiresAt ≤ now

instance (expiresAt : Option Time) (now : Time) : Decidable (Expired expiresAt now) :=
  match expiresAt with
  | none => inferInstanceAs (Decidable False)
  | some expiresAt => inferInstanceAs (Decidable (expiresAt ≤ now))

/-- The project of a request does not fit the key's. -/
def ProjectMismatch (ofKey requested : Option Int) : Prop :=
  match ofKey with
  | none => False
  | some project => requested ≠ some project

instance (ofKey requested : Option Int) : Decidable (ProjectMismatch ofKey requested) :=
  match ofKey with
  | none => inferInstanceAs (Decidable False)
  | some project => inferInstanceAs (Decidable (requested ≠ some project))

/-- `authenticate`. -/
def authenticate (hash : String → String) (store : IdentityStore) (plainKey : String)
    (tenantId : Int) (projectId : Option Int) (requiredScope : String) (now : Time) :
    Except APIKeyError AuthenticatedActor :=
  match store.findByHash (hash plainKey) with
  | .error e => .error e
  | .ok (id, record) =>
      if record.status ≠ "active" then .error (.disabled (toString id))
      else if Expired record.expiresAt now then .error (.disabled (toString id))
      else if record.tenantId ≠ tenantId then .error (.scope "tenant_scope_mismatch")
      else if ProjectMismatch record.projectId projectId then
        .error (.scope "project_scope_mismatch")
      else if requiredScope ∉ record.scopes then .error (.scope requiredScope)
      else
        .ok
          { tenantId := tenantId
            projectId := projectId
            actorType := record.ownerType
            actorId := toString record.ownerId
            scopes := record.scopes
            apiKeyId := some id }

/-- `disable_key`. -/
def disableKey (id : Nat) : EStateM IdentityError IdentityStore Unit := do
  let store ← get
  match store.keys.get? id with
  | none => throw (.keyError id)
  | some _ =>
      set { store with keys := store.keys.modify id fun key => { key with status := "disabled" } }

/-- The row of a key that is not deleted, or `KeyError`. -/
def keyRow (store : IdentityStore) (id : Nat) : Except IdentityError APIKey :=
  match store.keys.get? id with
  | none => .error (.keyError id)
  | some key => if key.isDeleted then .error (.keyError id) else .ok key

/-- `enable_key`. -/
def enableKey (id : Nat) : EStateM IdentityError IdentityStore Unit := do
  let store ← get
  let record ← orRaise (store.keyRow id)
  orRaise (store.assertOwnerScopeSubset record.tenantId record.projectId record.ownerType
    record.ownerId record.scopes)
  set { store with keys := store.keys.modify id fun key => { key with status := "active" } }

/-- `delete_key`. -/
def deleteKey (id : Nat) : EStateM IdentityError IdentityStore Unit := do
  let store ← get
  let _ ← orRaise (store.keyRow id)
  set
    { store with
      keys := store.keys.modify id fun key =>
        { key with status := "deleted", isDeleted := true } }

/-- `expire_key`. -/
def expireKey (id : Nat) (now : Time) : EStateM IdentityError IdentityStore Unit := do
  let store ← get
  let _ ← orRaise (store.keyRow id)
  set
    { store with
      keys := store.keys.modify id fun key =>
        { key with status := "disabled", expiresAt := some now } }

/-- `list_keys` of an owner. No caller depends on the order. -/
def listKeys (store : IdentityStore) (ownerType : String) (ownerId : Nat) : List (Nat × APIKey) :=
  store.keys.select fun key =>
    !key.isDeleted && key.ownerType == ownerType && key.ownerId == ownerId

/-! ## What the operations need and do -/

section

variable {store : IdentityStore}
  {id ownerId : Nat} {key : APIKey} {tenantId : Int} {projectId : Option Int}

theorem findByHash_eq_ok {keyHash : String} (h : store.findByHash keyHash = .ok (id, key)) :
    store.keys.get? id = some key ∧ key.keyHash = keyHash ∧ key.isDeleted = false := by
  unfold findByHash at h
  split at h
  · cases h
  · rename_i found hfound
    cases h
    obtain ⟨hget, hp⟩ := Table.find?_eq_some hfound
    simp only [Bool.and_eq_true, beq_iff_eq, Bool.not_eq_true'] at hp
    exact ⟨hget, hp⟩

/-- What `authenticate` accepts. -/
theorem authenticate_eq_ok {hash : String → String} {plainKey : String} {requiredScope : String}
    {now : Time} {actor : AuthenticatedActor}
    (h : store.authenticate hash plainKey tenantId projectId requiredScope now = .ok actor) :
    ∃ id key, store.keys.get? id = some key ∧ key.keyHash = hash plainKey ∧
      key.isDeleted = false ∧ key.status = "active" ∧ ¬ Expired key.expiresAt now ∧
      requiredScope ∈ key.scopes ∧ actor.scopes = key.scopes ∧ actor.apiKeyId = some id := by
  unfold authenticate at h
  split at h
  · cases h
  · rename_i id key hfound
    obtain ⟨hget, hhash, hdeleted⟩ := findByHash_eq_ok hfound
    split at h
    · cases h
    rename_i hstatus
    split at h
    · cases h
    rename_i hexpired
    split at h
    · cases h
    split at h
    · cases h
    split at h
    · cases h
    rename_i hscope
    cases h
    exact ⟨id, key, hget, hhash, hdeleted, not_not.mp hstatus, hexpired, not_not.mp hscope, rfl, rfl⟩

/-- A key may be made for a service account, or enabled again, while the account is
there and has the scopes. -/
theorem assertOwnerScopeSubset_eq_ok {scopes : Finset String}
    (h : store.assertOwnerScopeSubset tenantId projectId "service_account" ownerId scopes = .ok ()) :
    ∃ owner, store.accounts.get? ownerId = some owner ∧ owner.Live ∧ scopes ⊆ owner.permissions := by
  unfold assertOwnerScopeSubset at h
  simp only [ne_eq, not_true_eq_false, if_false] at h
  split at h
  · cases h
  · rename_i owner howner
    obtain ⟨hget, hdeleted⟩ := ServiceAccountRegistry.get_eq_ok.mp howner
    split at h
    · cases h
    rename_i hstatus
    split at h
    · cases h
    split at h
    · cases h
    rename_i hscopes
    exact ⟨owner, hget, ⟨hdeleted, not_not.mp hstatus⟩, not_not.mp hscopes⟩

theorem keyRow_eq_ok (h : store.keyRow id = .ok key) :
    store.keys.get? id = some key ∧ key.isDeleted = false := by
  unfold keyRow at h
  split at h
  · cases h
  · rename_i key' hget
    split at h
    · cases h
    · rename_i hdeleted
      cases h
      exact ⟨hget, Bool.not_eq_true _ ▸ hdeleted⟩

theorem mem_listKeys {ownerType : String} : (id, key) ∈ store.listKeys ownerType ownerId ↔
      store.keys.get? id = some key ∧ key.isDeleted = false ∧ key.ownerType = ownerType ∧
        key.ownerId = ownerId := by
  simp only [listKeys, Table.mem_select, Bool.and_eq_true, Bool.not_eq_true', beq_iff_eq, and_assoc]

end

end IdentityStore

/-! ## Keys and the rights of their owners

A store is sound if every live key is backed by its owner: a live service account
whose permissions contain the scopes of the key. Creating and enabling keys check
this, and disabling, deleting and expiring them leave fewer live keys. A change to an
account may leave keys of that account unbacked, until the loop over its keys has
disabled them. -/

/-- The key is neither deleted nor disabled. -/
def APIKey.Live (key : APIKey) : Prop := key.isDeleted = false ∧ key.status = "active"

namespace IdentityStore

/-- The owner of the key is there and has its scopes. -/
def Backed (store : IdentityStore) (key : APIKey) : Prop :=
  key.ownerType = "service_account" ∧
    ∃ owner, store.accounts.get? key.ownerId = some owner ∧ owner.Live ∧
      key.scopes ⊆ owner.permissions

/-- Every live key is backed. -/
def Sound (store : IdentityStore) : Prop :=
  ∀ id key, store.keys.get? id = some key → key.Live → store.Backed key

theorem sound_empty : Sound {} := by
  intro id key hget
  cases id with
  | zero => cases hget
  | succ n => simp [Table.get?] at hget

/-- A run leaves a sound store sound. -/
def KeepsSound (store store' : IdentityStore) : Prop := store.Sound → store'.Sound

instance : Std.Refl KeepsSound := ⟨fun _ h => h⟩

instance : IsTrans IdentityStore KeepsSound := ⟨fun _ _ _ h h' hsound => h' (h hsound)⟩

section

variable {store : IdentityStore}

/-- Assignments to one row keep the store sound if the row is backed afterwards or is not
live. -/
theorem sound_modify_keys (h : store.Sound) (id : Nat) (f : APIKey → APIKey)
    (hf : ∀ key, store.keys.get? id = some key → (f key).Live → store.Backed (f key)) :
    Sound { store with keys := store.keys.modify id f } := by
  intro id' key hget hlive
  simp only [Table.get?_modify] at hget
  split at hget
  · rename_i hid
    subst hid
    cases hold : store.keys.get? id' with
    | none => simp [hold] at hget
    | some old =>
      rw [hold] at hget
      simp only [Option.map_some, Option.some.injEq] at hget
      subst hget
      exact hf old hold hlive
  · exact h id' key hget hlive

/-- A backed row may be added. -/
theorem sound_insert_keys (h : store.Sound) {key : APIKey} (hkey : store.Backed key) :
    Sound { store with keys := store.keys.insert key } := by
  intro id key' hget hlive
  simp only [Table.get?_insert] at hget
  split at hget
  · cases hget
    exact hkey
  · exact h id key' hget hlive

theorem keepsSound_createKey (hash : String → String) (key : NewKey)
    (hkey : key.ownerType = "service_account") : Moves KeepsSound (createKey hash key) := by
  intro store hsound
  unfold createKey
  simp only [EStateM.run_bind, EStateM.run_get]
  cases hassert : store.assertOwnerScopeSubset key.tenantId key.projectId key.ownerType
      key.ownerId key.scopes with
  | error e => exact hsound
  | ok u =>
    simp only [run_orRaise_ok]
    split
    · exact hsound
    · rw [hkey] at hassert
      obtain ⟨owner, howner, hlive, hscopes⟩ := assertOwnerScopeSubset_eq_ok hassert
      exact sound_insert_keys hsound ⟨hkey, owner, howner, hlive, hscopes⟩

theorem keepsSound_disableKey (id : Nat) : Moves KeepsSound (disableKey id) := by
  intro store hsound
  unfold disableKey
  simp only [EStateM.run_bind, EStateM.run_get]
  cases hrow : store.keys.get? id with
  | none => exact hsound
  | some key =>
    refine sound_modify_keys hsound id _ ?_
    rintro key' _ ⟨_, hstatus⟩
    simp at hstatus

/-- Assignments after which a key is not live. -/
theorem keepsSound_modifyRow (id : Nat) (f : APIKey → APIKey) (hf : ∀ key, ¬ (f key).Live) :
    Moves KeepsSound (do
      let store ← get
      let _ ← orRaise (store.keyRow id)
      set { store with keys := store.keys.modify id f } :
        EStateM IdentityError IdentityStore Unit) := by
  intro store hsound
  simp only [EStateM.run_bind, EStateM.run_get]
  cases store.keyRow id with
  | error e => exact hsound
  | ok key => exact sound_modify_keys hsound id _ fun key' _ hlive => absurd hlive (hf key')

theorem keepsSound_deleteKey (id : Nat) : Moves KeepsSound (deleteKey id) :=
  keepsSound_modifyRow id _ fun _ hlive => by simp [APIKey.Live] at hlive

theorem keepsSound_expireKey (id : Nat) (now : Time) : Moves KeepsSound (expireKey id now) :=
  keepsSound_modifyRow id _ fun _ hlive => by simp [APIKey.Live] at hlive

/-- The owner's rights are checked again before a key is enabled. -/
theorem sound_enableKey {id : Nat} {key : APIKey} (hsound : store.Sound)
    (hkey : store.keys.get? id = some key) (howner : key.ownerType = "service_account") :
    Sound (endState ((enableKey id).run store)) := by
  unfold enableKey
  simp only [EStateM.run_bind, EStateM.run_get]
  cases hrow : store.keyRow id with
  | error e => exact hsound
  | ok record =>
    have hrecord := (keyRow_eq_ok hrow).1
    rw [hkey] at hrecord
    cases hrecord
    simp only [run_orRaise_ok]
    cases hassert : store.assertOwnerScopeSubset key.tenantId key.projectId key.ownerType
        key.ownerId key.scopes with
    | error e => exact hsound
    | ok u =>
      rw [howner] at hassert
      obtain ⟨owner, hget, hlive, hscopes⟩ := assertOwnerScopeSubset_eq_ok hassert
      refine sound_modify_keys hsound id _ ?_
      intro key' hkey' _
      rw [hkey] at hkey'
      cases hkey'
      exact ⟨howner, owner, hget, hlive, hscopes⟩

end

section

variable {store : IdentityStore}

/-- A new account owns no live key. -/
theorem sound_insert_account (h : store.Sound) (account : ServiceAccount) :
    Sound { store with accounts := store.accounts.insert account } := by
  intro id key hget hlive
  obtain ⟨howner, owner, hfound, hrest⟩ := h id key hget hlive
  exact ⟨howner, owner, Table.get?_insert_of_some hfound account, hrest⟩

/-- A key stays backed if its account keeps what the key needs. -/
theorem backed_modify_account (h : store.Sound) {accountId : Nat} {account : ServiceAccount}
    (haccount : store.accounts.get? accountId = some account)
    (f : ServiceAccount → ServiceAccount) {id : Nat} {key : APIKey}
    (hget : store.keys.get? id = some key) (hlive : key.Live)
    (hf : key.ownerId = accountId → account.Live → key.scopes ⊆ account.permissions →
      (f account).Live ∧ key.scopes ⊆ (f account).permissions) :
    Backed { store with accounts := store.accounts.modify accountId f } key := by
  obtain ⟨howner, owner, hfound, hownerLive, hscopes⟩ := h id key hget hlive
  have hmodify := Table.get?_modify store.accounts accountId f key.ownerId
  by_cases howned : key.ownerId = accountId
  · rw [howned, haccount] at hfound
    cases hfound
    rw [if_pos howned, congrArg store.accounts.get? howned, haccount] at hmodify
    exact ⟨howner, f account, hmodify, hf howned hownerLive hscopes⟩
  · rw [if_neg howned, hfound] at hmodify
    exact ⟨howner, owner, hmodify, hownerLive, hscopes⟩

/-- The store stays sound if the account keeps what any of its keys needs. -/
theorem sound_modify_account (h : store.Sound) {accountId : Nat} {account : ServiceAccount}
    (haccount : store.accounts.get? accountId = some account)
    (f : ServiceAccount → ServiceAccount)
    (hf : account.Live → (f account).Live ∧ account.permissions ⊆ (f account).permissions) :
    Sound { store with accounts := store.accounts.modify accountId f } := by
  intro id key hget hlive
  refine backed_modify_account h haccount f hget hlive ?_
  intro _ hownerLive hscopes
  obtain ⟨hlive', hpermissions⟩ := hf hownerLive
  exact ⟨hlive', hscopes.trans hpermissions⟩

end

/-! ## Disabling the keys of an account -/

/-- The loops of the router over the keys of an account: disable those that `p` picks. -/
def disableEach (p : APIKey → Bool) : List (Nat × APIKey) → EStateM IdentityError IdentityStore Unit
  | [] => pure ()
  | (id, key) :: rest => do
      if p key then
        disableKey id
      disableEach p rest

/-- The loop leaves a sound store, if what is not backed before it is in the list and picked
by `p`. -/
theorem sound_disableEach (p : APIKey → Bool) (list : List (Nat × APIKey)) :
    ∀ store : IdentityStore, (∀ e ∈ list, (store.keys.get? e.1).isSome = true) →
      (∀ id key, store.keys.get? id = some key → key.Live →
        store.Backed key ∨ (id, key) ∈ list ∧ p key = true) →
      Sound (endState ((disableEach p list).run store)) := by
  induction list with
  | nil =>
    intro store _ h id key hget hlive
    exact (h id key hget hlive).resolve_right (by simp)
  | cons e rest ih =>
    obtain ⟨id₀, key₀⟩ := e
    intro store hthere h
    have hrest : ∀ e ∈ rest, (store.keys.get? e.1).isSome = true :=
      fun e hmem => hthere e (List.mem_cons_of_mem _ hmem)
    unfold disableEach
    by_cases hpick : p key₀ = true
    · -- the row is there, so `disable_key` returns and the other rows are as before
      obtain ⟨old, hold⟩ := Option.isSome_iff_exists.mp (hthere _ List.mem_cons_self)
      simp only [hpick, if_true, disableKey, EStateM.run_bind, EStateM.run_get, hold]
      refine ih _ ?_ ?_
      · intro e hmem
        simp only [Table.get?_modify]
        split
        · rw [Option.isSome_map]
          exact hrest e hmem
        · exact hrest e hmem
      · intro id key hget hlive
        simp only [Table.get?_modify] at hget
        split at hget
        · obtain ⟨_, _, rfl⟩ := Option.map_eq_some_iff.mp hget
          exact absurd hlive.2 (by simp)
        · rename_i hne
          refine (h id key hget hlive).imp_right fun hlisted => ⟨?_, hlisted.2⟩
          exact (List.mem_cons.mp hlisted.1).resolve_left fun heq => hne (congrArg Prod.fst heq)
    · simp only [hpick]
      refine ih store hrest fun id key hget hlive => ?_
      refine (h id key hget hlive).imp_right fun hlisted => ⟨?_, hlisted.2⟩
      refine (List.mem_cons.mp hlisted.1).resolve_left fun heq => hpick ?_
      cases heq
      exact hlisted.2

end IdentityStore

end DimooRun.Security
