/-
  Identity/Seeding.lean --- what seeding the built-in roles does to the tables.

  Seeding makes the roles and permissions that are missing and then writes the rows of
  every built-in role anew. So it changes what a role holds exactly if a built-in role
  holds something else than it is seeded with, and the second time it changes nothing.
-/
import DimooRun.Identity.Console

set_option autoImplicit false

namespace DimooRun.Identity

open Foundation

namespace ConsoleStore

/-! ## Steps that only make roles and permissions -/

section

variable (s s' : ConsoleStore)

/-- Roles and permissions may be new, and then are as their names and codes make them. -/
structure Extends : Prop where
  roles : s.roles.Extends s'.roles
  permissions : s.permissions.Extends s'.permissions
  newRole : ∀ id role, s'.roles.get? id = some role →
    s.roles.get? id = some role ∨ role = { name := role.name }
  newPermission : ∀ id permission, s'.permissions.get? id = some permission →
    s.permissions.get? id = some permission ∨ permission = { code := permission.code }

/-- Roles and permissions may be new, and roles may hold others; operators are as they were. -/
structure Enlarges : Prop extends Extends s s' where
  operators : s'.operators = s.operators
  operatorRoles : s'.operatorRoles = s.operatorRoles
  operatorPermissions : s'.operatorPermissions = s.operatorPermissions

/-- Roles and permissions may be new, and nothing else changes. -/
structure Makes : Prop extends Enlarges s s' where
  rolePermissions : s'.rolePermissions = s.rolePermissions

theorem Extends.refl : Extends s s :=
  ⟨.refl _, .refl _, (fun _ _ => .inl), (fun _ _ => .inl)⟩

theorem Enlarges.refl : Enlarges s s := ⟨.refl s, rfl, rfl, rfl⟩

theorem Makes.refl : Makes s s := ⟨.refl s, rfl⟩

end

variable {s' : ConsoleStore} {codes : List String} {builtin : String × List String}
  {s s'' : ConsoleStore}

theorem Extends.trans (h : Extends s s') (h' : Extends s' s'') : Extends s s'' where
  roles := h.roles.trans h'.roles
  permissions := h.permissions.trans h'.permissions
  newRole id role hget := (h'.newRole id role hget).elim (h.newRole id role) .inr
  newPermission id permission hget :=
    (h'.newPermission id permission hget).elim (h.newPermission id permission) .inr

theorem Enlarges.trans (h : Enlarges s s') (h' : Enlarges s' s'') : Enlarges s s'' where
  toExtends := h.toExtends.trans h'.toExtends
  operators := h'.operators.trans h.operators
  operatorRoles := h'.operatorRoles.trans h.operatorRoles
  operatorPermissions := h'.operatorPermissions.trans h.operatorPermissions

theorem Extends.findRole (h : Extends s s') {name : String} {found : Nat × ConsoleRole}
    (hfind : s.findRole name = some found) : s'.findRole name = some found := h.roles.find? hfind

theorem Extends.findCode (h : Extends s s') {code : String} {found : Nat × ConsolePermission}
    (hfind : s.findCode code = some found) :
    s'.findCode code = some found := h.permissions.find? hfind

section

variable {s : ConsoleStore}

theorem makes_ensureRole (s : ConsoleStore) (name : String) : Makes s (s.ensureRole name).2 := by
  unfold ensureRole
  split
  · exact .refl s
  · refine ⟨⟨⟨.insert _ _, .refl _, ?_, (fun _ _ => .inl)⟩, rfl, rfl, rfl⟩, rfl⟩
    intro id role hget
    exact (Table.get?_insert_cases hget).imp_right (by rintro rfl; rfl)

theorem makes_ensurePermission (s : ConsoleStore) (code : String) :
    Makes s (s.ensurePermission code).2 := by
  unfold ensurePermission
  split
  · exact .refl s
  · refine ⟨⟨⟨.refl _, .insert _ _, (fun _ _ => .inl), ?_⟩, rfl, rfl, rfl⟩, rfl⟩
    intro id permission hget
    exact (Table.get?_insert_cases hget).imp_right (by rintro rfl; rfl)

theorem ensureRole_of_findRole {name : String} {found : Nat × ConsoleRole}
    (h : s.findRole name = some found) : s.ensureRole name = (found.1, s) := by
  unfold ensureRole
  rw [h]

theorem ensurePermission_of_findCode {code : String} {found : Nat × ConsolePermission}
    (h : s.findCode code = some found) : s.ensurePermission code = (found.1, s) := by
  unfold ensurePermission
  rw [h]

theorem findRole_ensureRole (s : ConsoleStore) (name : String) :
    ∃ role, (s.ensureRole name).2.findRole name = some ((s.ensureRole name).1, role) := by
  unfold ensureRole
  cases hfind : s.findRole name with
  | some found => exact ⟨found.2, hfind⟩
  | none =>
    unfold findRole at hfind ⊢
    rw [Table.find?_insert, hfind]
    simp

theorem findCode_ensurePermission (s : ConsoleStore) (code : String) :
    ∃ permission, (s.ensurePermission code).2.findCode code =
      some ((s.ensurePermission code).1, permission) := by
  unfold ensurePermission
  cases hfind : s.findCode code with
  | some found => exact ⟨found.2, hfind⟩
  | none =>
    unfold findCode insertPermission at *
    rw [Table.find?_insert, hfind]
    simp

end

/-! ## The rows that a role gets -/

/-- The permissions with these codes. -/
def permissionIds (s : ConsoleStore) (codes : List String) : List Nat :=
  codes.map fun code => (s.ensurePermission code).1

/-- A built-in role and the permissions it is seeded with. -/
def seedBlock (s : ConsoleStore) (builtin : String × List String) : Nat × List Nat :=
  ((s.ensureRole builtin.1).1, s.permissionIds builtin.2)

/-- The permissions with these codes are there. -/
def HasCodes (s : ConsoleStore) (codes : List String) : Prop :=
  ∀ code ∈ codes, ∃ found, s.findCode code = some found

theorem Extends.hasCodes (h : Extends s s') (hcodes : s.HasCodes codes) : s'.HasCodes codes :=
  fun code hmem => (hcodes code hmem).imp fun _ => h.findCode

theorem Extends.permissionIds (h : Extends s s') (hcodes : s.HasCodes codes) :
    s'.permissionIds codes = s.permissionIds codes := by
  refine List.map_congr_left ?_
  intro code hmem
  obtain ⟨found, hfound⟩ := hcodes code hmem
  rw [ensurePermission_of_findCode hfound, ensurePermission_of_findCode (h.findCode hfound)]

theorem enlarges_grantCode (s : ConsoleStore) (roleId : Nat) (code : String) :
    Enlarges s (s.grantCode roleId code) := { makes_ensurePermission s code with }

/-- A loop of grants adds the rows of the codes, with the numbers these have in the end. -/
theorem foldl_grantCode (roleId : Nat) (codes : List String) :
    ∀ s s' : ConsoleStore, s' = codes.foldl (fun store code => store.grantCode roleId code) s →
      Enlarges s s' ∧ s'.HasCodes codes ∧
        s'.rolePermissions = s.rolePermissions ++ (s'.permissionIds codes).map (roleId, ·) := by
  induction codes with
  | nil =>
    intro s s' hs'
    subst hs'
    exact ⟨Enlarges.refl _, (fun _ h => nomatch h), (List.append_nil _).symm⟩
  | cons code codes ih =>
    intro s s' hs'
    obtain ⟨hrest, hcodes, hrows⟩ := ih (s.grantCode roleId code) s' hs'
    obtain ⟨permission, hfound⟩ := findCode_ensurePermission s code
    have hgranted : (s.grantCode roleId code).findCode code =
        some ((s.ensurePermission code).1, permission) := hfound
    have hfound' := hrest.findCode hgranted
    refine ⟨(enlarges_grantCode s roleId code).trans hrest, ?_, ?_⟩
    · exact List.forall_mem_cons.mpr ⟨⟨_, hfound'⟩, hcodes⟩
    · have hhead : (s.grantCode roleId code).rolePermissions =
          s.rolePermissions ++ [(roleId, (s.ensurePermission code).1)] :=
        congrArg (· ++ _) (makes_ensurePermission s code).rolePermissions
      unfold permissionIds at hrows ⊢
      rw [hrows, hhead, List.map_cons, ensurePermission_of_findCode hfound', List.map_cons,
        List.append_assoc, List.singleton_append]

theorem enlarges_clearRole (s : ConsoleStore) (roleId : Nat) : Enlarges s (s.clearRole roleId) :=
  { Enlarges.refl s with }

theorem rows_replaceRolePermissions {roleId : Nat} (h : s' = s.replaceRolePermissions roleId codes) :
    Enlarges s s' ∧ s'.HasCodes codes ∧
      s'.rolePermissions = JoinTable.replace s.rolePermissions roleId (s'.permissionIds codes) := by
  obtain ⟨hgrows, hcodes, hrows⟩ := foldl_grantCode roleId codes _ _ h
  exact ⟨(enlarges_clearRole s roleId).trans hgrows, hcodes, hrows⟩

/-- The built-in role is there, and so are its permissions. -/
structure HasBuiltin (s : ConsoleStore) (builtin : String × List String) : Prop where
  role : ∃ found, s.findRole builtin.1 = some found
  codes : s.HasCodes builtin.2

theorem Extends.hasBuiltin (h : Extends s s') (hbuiltin : s.HasBuiltin builtin) :
    s'.HasBuiltin builtin where
  role := hbuiltin.role.imp fun _ => h.findRole
  codes := h.hasCodes hbuiltin.codes

theorem Extends.seedBlock (h : Extends s s') (hbuiltin : s.HasBuiltin builtin) :
    s'.seedBlock builtin = s.seedBlock builtin := by
  obtain ⟨found, hfound⟩ := hbuiltin.role
  unfold ConsoleStore.seedBlock
  rw [h.permissionIds hbuiltin.codes, ensureRole_of_findRole hfound,
    ensureRole_of_findRole (h.findRole hfound)]

/-- One turn replaces the rows of one role. -/
theorem rows_seedRole (h : s' = s.seedRole builtin) : Enlarges s s' ∧ s'.HasBuiltin builtin ∧
      s'.rolePermissions = JoinTable.replace s.rolePermissions (s'.seedBlock builtin).1
        (s'.seedBlock builtin).2 := by
  obtain ⟨hgrows, hcodes, hrows⟩ := rows_replaceRolePermissions h
  obtain ⟨role, hfound⟩ := findRole_ensureRole s builtin.1
  have hfound' := hgrows.findRole hfound
  have hmakes := makes_ensureRole s builtin.1
  refine ⟨hmakes.toEnlarges.trans hgrows, ⟨⟨_, hfound'⟩, hcodes⟩, ?_⟩
  unfold ConsoleStore.seedBlock
  rw [hrows, hmakes.rolePermissions, ensureRole_of_findRole hfound']

variable (list : List (String × List String))

/-- The loop replaces the rows of every role of the list. -/
theorem rows_foldl_seedRole : ∀ s s' : ConsoleStore, s' = list.foldl seedRole s →
      Enlarges s s' ∧ (∀ builtin ∈ list, s'.HasBuiltin builtin) ∧
        s'.rolePermissions = JoinTable.replaceAll s.rolePermissions (list.map s'.seedBlock) := by
  induction list with
  | nil =>
    intro s s' hs'
    subst hs'
    exact ⟨Enlarges.refl _, (fun _ h => nomatch h), rfl⟩
  | cons builtin list ih =>
    intro s s' hs'
    obtain ⟨hfirst, hbuiltin, hrows⟩ := rows_seedRole (Eq.refl (s.seedRole builtin))
    obtain ⟨hrest, hbuiltins, hrows'⟩ := ih (s.seedRole builtin) s' hs'
    refine ⟨hfirst.trans hrest, ?_, ?_⟩
    · exact List.forall_mem_cons.mpr ⟨hrest.hasBuiltin hbuiltin, hbuiltins⟩
    · rw [hrows', hrows, List.map_cons, JoinTable.replaceAll_cons, hrest.seedBlock hbuiltin]

/-! ## Seeding -/

section

variable (s : ConsoleStore)

theorem enlarges_seedBuiltinPermissions : Enlarges s s.seedBuiltinPermissions :=
  (rows_foldl_seedRole builtinRoles s _ rfl).1

theorem hasBuiltin_seedBuiltinPermissions (h : builtin ∈ builtinRoles) :
    s.seedBuiltinPermissions.HasBuiltin builtin :=
  (rows_foldl_seedRole builtinRoles s _ rfl).2.1 builtin h

theorem rolePermissions_seedBuiltinPermissions : s.seedBuiltinPermissions.rolePermissions =
      JoinTable.replaceAll s.rolePermissions
        (builtinRoles.map s.seedBuiltinPermissions.seedBlock) :=
  (rows_foldl_seedRole builtinRoles s _ rfl).2.2

variable {s}

/-- Different built-in roles have different rows. -/
theorem nodup_seedBlocks (h : ∀ builtin ∈ builtinRoles, s.HasBuiltin builtin) :
    ((builtinRoles.map s.seedBlock).map Prod.fst).Nodup := by
  rw [List.map_map]
  have hnames : (builtinRoles.map Prod.fst).Nodup := by decide
  have hnodup : builtinRoles.Nodup := List.Nodup.of_map _ hnames
  refine List.Nodup.map_on ?_ hnodup
  intro first hfirst second hsecond heq
  obtain ⟨found, hfound⟩ := (h first hfirst).role
  obtain ⟨found', hfound'⟩ := (h second hsecond).role
  have hid : found.1 = found'.1 := by
    have heq' : (s.ensureRole first.1).1 = (s.ensureRole second.1).1 := heq
    rwa [ensureRole_of_findRole hfound, ensureRole_of_findRole hfound'] at heq'
  obtain ⟨hget, hname⟩ := Table.find?_eq_some hfound
  obtain ⟨hget', hname'⟩ := Table.find?_eq_some hfound'
  rw [hid, hget', Option.some.injEq] at hget
  rw [beq_iff_eq] at hname hname'
  have hfst : first.1 = second.1 := by rw [← hname, ← hname', hget]
  exact List.inj_on_of_nodup_map hnames hfirst hsecond hfst

/-- A replacement of permissions does not touch the table of roles. -/
theorem roles_foldl_grantCode (roleId : Nat) (codes : List String) : ∀ s : ConsoleStore,
      (codes.foldl (fun store code => store.grantCode roleId code) s).roles = s.roles := by
  induction codes with
  | nil => intro s; rfl
  | cons code codes ih =>
    intro s
    rw [List.foldl_cons, ih]
    show (s.ensurePermission code).2.roles = s.roles
    unfold ensurePermission
    split <;> rfl

theorem roles_replaceRolePermissions (s : ConsoleStore) (roleId : Nat) (codes : List String) :
    (s.replaceRolePermissions roleId codes).roles = s.roles :=
  roles_foldl_grantCode roleId codes (s.clearRole roleId)

/-- Permissions that are there are not made again. -/
theorem permissions_foldl_grantCode (roleId : Nat) (codes : List String) :
    ∀ s : ConsoleStore, s.HasCodes codes →
      (codes.foldl (fun store code => store.grantCode roleId code) s).permissions =
        s.permissions := by
  induction codes with
  | nil => intro s _; rfl
  | cons code codes ih =>
    intro s hcodes
    obtain ⟨found, hfound⟩ := hcodes code List.mem_cons_self
    have hsame : (s.grantCode roleId code).permissions = s.permissions := by
      show (s.ensurePermission code).2.permissions = s.permissions
      rw [ensurePermission_of_findCode hfound]
    have hrest : (s.grantCode roleId code).HasCodes codes := fun other hmem =>
      (enlarges_grantCode s roleId code).hasCodes hcodes other (List.mem_cons_of_mem _ hmem)
    rw [List.foldl_cons, ih _ hrest, hsame]

theorem seedRole_of_hasBuiltin (h : s.HasBuiltin builtin) :
    (s.seedRole builtin).roles = s.roles ∧ (s.seedRole builtin).permissions = s.permissions := by
  obtain ⟨found, hfound⟩ := h.role
  unfold seedRole
  rw [ensureRole_of_findRole hfound]
  exact ⟨roles_replaceRolePermissions s found.1 builtin.2,
    permissions_foldl_grantCode found.1 builtin.2 (s.clearRole found.1) h.codes⟩

theorem foldl_seedRole_of_hasBuiltin :
    ∀ s : ConsoleStore, (∀ builtin ∈ list, s.HasBuiltin builtin) →
      (list.foldl seedRole s).roles = s.roles ∧
        (list.foldl seedRole s).permissions = s.permissions := by
  induction list with
  | nil => intro s _; exact ⟨rfl, rfl⟩
  | cons builtin list ih =>
    intro s h
    obtain ⟨hroles, hpermissions⟩ := seedRole_of_hasBuiltin (h builtin List.mem_cons_self)
    have hgrows := (rows_seedRole (Eq.refl (s.seedRole builtin))).1
    obtain ⟨hroles', hpermissions'⟩ := ih (s.seedRole builtin) fun other hmem =>
      hgrows.hasBuiltin (h other (List.mem_cons_of_mem _ hmem))
    exact ⟨hroles'.trans hroles, hpermissions'.trans hpermissions⟩

/-- Seeding again changes nothing at all, also if roles and permissions were added since. -/
theorem seedBuiltinPermissions_of_extends {t : ConsoleStore}
    (hextends : Extends s.seedBuiltinPermissions t)
    (hsame : t.rolePermissions = s.seedBuiltinPermissions.rolePermissions) :
    t.seedBuiltinPermissions = t := by
  have hbuiltin : ∀ builtin ∈ builtinRoles, s.seedBuiltinPermissions.HasBuiltin builtin :=
    fun _ h => hasBuiltin_seedBuiltinPermissions s h
  have hbuiltin' : ∀ builtin ∈ builtinRoles, t.HasBuiltin builtin :=
    fun builtin h => hextends.hasBuiltin (hbuiltin builtin h)
  obtain ⟨hroles, hpermissions⟩ := foldl_seedRole_of_hasBuiltin builtinRoles t hbuiltin'
  have hgrows := enlarges_seedBuiltinPermissions t
  have hblocks : builtinRoles.map t.seedBuiltinPermissions.seedBlock =
      builtinRoles.map t.seedBlock :=
    List.map_congr_left fun builtin hmem => hgrows.seedBlock (hbuiltin' builtin hmem)
  have hblocks' : builtinRoles.map s.seedBuiltinPermissions.seedBlock =
      builtinRoles.map t.seedBlock :=
    List.map_congr_left fun builtin hmem => (hextends.seedBlock (hbuiltin builtin hmem)).symm
  refine ConsoleStore.ext hpermissions hroles hgrows.operators ?_ hgrows.operatorRoles
    hgrows.operatorPermissions
  rw [rolePermissions_seedBuiltinPermissions, hblocks, hsame,
    rolePermissions_seedBuiltinPermissions, hblocks',
    JoinTable.replaceAll_replaceAll (nodup_seedBlocks hbuiltin')]

/-! ## What seeding changes -/

/-- The number of the permission with a code. -/
def permissionId? (s : ConsoleStore) (code : String) : Option Nat :=
  (s.findCode code).map Prod.fst

/-- The built-in roles that are there hold the permissions they are seeded with, and no
others. -/
def HoldsSeed (s : ConsoleStore) : Prop :=
  ∀ builtin ∈ builtinRoles, ∀ found, s.findRole builtin.1 = some found →
    ((related s.rolePermissions found.1).map some).toFinset =
      (builtin.2.map s.permissionId?).toFinset

/-- The roles of `s` are there in `s'`, and hold the same permissions. -/
def KeepsRoles (s s' : ConsoleStore) : Prop :=
  ∀ roleId role, s.roles.get? roleId = some role →
    s'.roles.get? roleId = some role ∧
      (related s'.rolePermissions roleId).toFinset = (related s.rolePermissions roleId).toFinset

theorem map_permissionId? (h : s.HasCodes codes) :
    codes.map s.permissionId? = (s.permissionIds codes).map some := by
  unfold permissionIds
  rw [List.map_map]
  refine List.map_congr_left ?_
  intro code hmem
  obtain ⟨found, hfound⟩ := h code hmem
  show (s.findCode code).map Prod.fst = some (s.ensurePermission code).1
  rw [hfound, ensurePermission_of_findCode hfound]
  rfl

theorem toFinset_map_some_inj (ids ids' : List Nat) :
    (ids.map some).toFinset = (ids'.map some).toFinset ↔ ids.toFinset = ids'.toFinset := by
  simp [Finset.ext_iff, Option.forall]

/-- A role holds these codes if it holds the permissions that they have afterwards; for what a
role holds is there. -/
theorem holds_iff (hgrows : Enlarges s s') (hcodes : s'.HasCodes codes) (roleId : Nat) :
    ((related s.rolePermissions roleId).map some).toFinset = (codes.map s.permissionId?).toFinset ↔
      (related s.rolePermissions roleId).toFinset = (s'.permissionIds codes).toFinset := by
  by_cases hold : s.HasCodes codes
  · rw [map_permissionId? hold, hgrows.permissionIds hold, toFinset_map_some_inj]
  -- on both sides the permissions are among those that were there
  refine iff_of_false (fun h => hold ?_) fun h => hold ?_
  · intro code hmem
    have hid : s.permissionId? code ∈ (codes.map s.permissionId?).toFinset :=
      List.mem_toFinset.mpr (List.mem_map_of_mem hmem)
    rw [← h, List.mem_toFinset, List.mem_map] at hid
    obtain ⟨id, _, heq⟩ := hid
    unfold permissionId? at heq
    cases hfound : s.findCode code with
    | some found => exact ⟨found, rfl⟩
    | none => simp [hfound] at heq
  · intro code hmem
    obtain ⟨found, hfound⟩ := hcodes code hmem
    have hid : found.1 ∈ (s'.permissionIds codes).toFinset := by
      refine List.mem_toFinset.mpr (List.mem_map.mpr ⟨code, hmem, ?_⟩)
      rw [ensurePermission_of_findCode hfound]
    rw [← h, List.mem_toFinset] at hid
    have hthere := s.granted _ (JoinTable.mem_related.mp hid)
    exact ⟨found, hgrows.permissions.find?_of_get? hfound hthere⟩

/-- Afterwards a built-in role holds what it is seeded with. -/
theorem related_seed_of_mem (hmem : builtin ∈ builtinRoles)
    {found : Nat × ConsoleRole} (h : s.seedBuiltinPermissions.findRole builtin.1 = some found) :
    related s.seedBuiltinPermissions.rolePermissions found.1 =
      s.seedBuiltinPermissions.permissionIds builtin.2 := by
  have hkeys := nodup_seedBlocks fun _ => hasBuiltin_seedBuiltinPermissions s
  have hblock : (found.1, s.seedBuiltinPermissions.permissionIds builtin.2) ∈
      builtinRoles.map s.seedBuiltinPermissions.seedBlock := by
    refine List.mem_map.mpr ⟨builtin, hmem, ?_⟩
    unfold seedBlock
    rw [ensureRole_of_findRole h]
  rw [rolePermissions_seedBuiltinPermissions]
  exact JoinTable.related_replaceAll_of_mem hkeys hblock s.rolePermissions

/-- A role that was there is a built-in one, or holds what it held. -/
theorem related_seed_cases {roleId : Nat} (h : (s.roles.get? roleId).isSome = true) :
    (∃ builtin ∈ builtinRoles, ∃ role, s.findRole builtin.1 = some (roleId, role) ∧
        related s.seedBuiltinPermissions.rolePermissions roleId =
          s.seedBuiltinPermissions.permissionIds builtin.2) ∨
      related s.seedBuiltinPermissions.rolePermissions roleId = related s.rolePermissions roleId := by
  by_cases hblock : roleId ∈ (builtinRoles.map s.seedBuiltinPermissions.seedBlock).map Prod.fst
  · rw [List.map_map, List.mem_map] at hblock
    obtain ⟨builtin, hmem, hid⟩ := hblock
    have hbuiltin := hasBuiltin_seedBuiltinPermissions s hmem
    obtain ⟨⟨id, role⟩, hfound⟩ := hbuiltin.role
    simp only [Function.comp_apply, seedBlock, ensureRole_of_findRole hfound] at hid
    subst hid
    -- the role was there, so it was found there
    have hold := (enlarges_seedBuiltinPermissions s).roles.find?_of_get? hfound h
    have hrows := related_seed_of_mem hmem hfound
    exact .inl ⟨builtin, hmem, role, hold, hrows⟩
  · rw [rolePermissions_seedBuiltinPermissions]
    exact .inr (JoinTable.related_replaceAll_of_not_mem hblock s.rolePermissions)

/-- Seeding keeps what the roles hold exactly if the built-in ones hold what they are seeded
with. -/
theorem keepsRoles_seedBuiltinPermissions_iff (s : ConsoleStore) :
    KeepsRoles s s.seedBuiltinPermissions ↔ s.HoldsSeed := by
  have hgrows := enlarges_seedBuiltinPermissions s
  have hcodes : ∀ builtin ∈ builtinRoles, s.seedBuiltinPermissions.HasCodes builtin.2 :=
    fun _ hmem => (hasBuiltin_seedBuiltinPermissions s hmem).codes
  constructor
  · intro hkeeps builtin hmem found hfound
    obtain ⟨hget, _⟩ := Table.find?_eq_some hfound
    have hsame := (hkeeps found.1 found.2 hget).2
    rw [related_seed_of_mem hmem (hgrows.findRole hfound)] at hsame
    exact (holds_iff hgrows (hcodes builtin hmem) found.1).mpr hsame.symm
  · intro hholds roleId role hget
    refine ⟨hgrows.roles.get? hget, ?_⟩
    rcases related_seed_cases (by rw [hget]; rfl) with ⟨builtin, hmem, _, hfound, hrows⟩ | hrows
    · rw [hrows]
      exact ((holds_iff hgrows (hcodes builtin hmem) roleId).mp (hholds builtin hmem _ hfound)).symm
    · rw [hrows]

end

end ConsoleStore

/-! ## What the methods on operators do

To give an operator roles and permissions makes those that are missing. No role that
is there holds anything else afterwards, and only the rows of that one operator change. -/

/-- The assignments of `delete_operator`. -/
def ConsoleOperatorRow.deleted (operator : ConsoleOperatorRow) : ConsoleOperatorRow :=
  { operator with status := "deleted", isDeleted := true }

namespace ConsoleStore

/-- The roles hold what they held, and an operator that has a new one was given it under one of
these names. -/
structure Gives (names : List String) (s s' : ConsoleStore) : Prop extends Extends s s' where
  rolePermissions : s'.rolePermissions = s.rolePermissions
  given : ∀ e ∈ s'.operatorRoles, e ∈ s.operatorRoles ∨
    ∃ name ∈ names, ∃ role, s'.findRole name = some (e.2, role)

/-- Moreover operators other than this one have the roles and permissions they had. -/
structure LeavesOthers (operatorId : Nat) (names : List String) (s s' : ConsoleStore) : Prop
    extends Gives names s s' where
  operators : s'.operators = s.operators
  operatorRoles : ∀ other, other ≠ operatorId →
    related s'.operatorRoles other = related s.operatorRoles other
  operatorPermissions : ∀ other, other ≠ operatorId →
    related s'.operatorPermissions other = related s.operatorPermissions other

section

variable {operatorId : Nat} {names : List String} {s s' s'' : ConsoleStore}

theorem Gives.refl (names : List String) (s : ConsoleStore) : Gives names s s :=
  ⟨.refl s, rfl, fun _ => .inl⟩

theorem Gives.trans (h : Gives names s s') (h' : Gives names s' s'') : Gives names s s'' where
  toExtends := h.toExtends.trans h'.toExtends
  rolePermissions := h'.rolePermissions.trans h.rolePermissions
  given e he := by
    rcases h'.given e he with hmid | hnew
    · rcases h.given e hmid with hold | ⟨name, hname, role, hfound⟩
      · exact .inl hold
      · exact .inr ⟨name, hname, role, h'.findRole hfound⟩
    · exact .inr hnew

/-- The table of operators does not matter. -/
theorem Gives.of_operators {operators : Table ConsoleOperatorRow}
    (h : Gives names { s with operators := operators } s') : Gives names s s' :=
  ⟨⟨h.roles, h.permissions, h.newRole, h.newPermission⟩, h.rolePermissions, h.given⟩

theorem LeavesOthers.refl (operatorId : Nat) (names : List String) (s : ConsoleStore) :
    LeavesOthers operatorId names s s :=
  ⟨.refl names s, rfl, (fun _ _ => rfl), (fun _ _ => rfl)⟩

theorem LeavesOthers.trans (h : LeavesOthers operatorId names s s')
    (h' : LeavesOthers operatorId names s' s'') : LeavesOthers operatorId names s s'' where
  toGives := h.toGives.trans h'.toGives
  operators := h'.operators.trans h.operators
  operatorRoles other hne := (h'.operatorRoles other hne).trans (h.operatorRoles other hne)
  operatorPermissions other hne :=
    (h'.operatorPermissions other hne).trans (h.operatorPermissions other hne)

theorem LeavesOthers.foldl {α : Type} {f : ConsoleStore → α → ConsoleStore} {list : List α}
    (hf : ∀ s, ∀ a ∈ list, LeavesOthers operatorId names s (f s a)) (s : ConsoleStore) :
    LeavesOthers operatorId names s (list.foldl f s) := by
  induction list generalizing s with
  | nil => exact .refl operatorId names s
  | cons a list ih =>
    exact (hf s a List.mem_cons_self).trans
      (ih (fun s b hmem => hf s b (List.mem_cons_of_mem a hmem)) (f s a))

/-- Rows of one operator are written, after roles and permissions were made. -/
theorem Makes.leavesOthers (h : Makes s s') {rows rows' : List (Nat × Nat)}
    (hgiven : ∀ e ∈ rows, e ∈ s'.operatorRoles ∨
      ∃ name ∈ names, ∃ role, s'.findRole name = some (e.2, role))
    (hroles : ∀ other, other ≠ operatorId → related rows other = related s'.operatorRoles other)
    (hpermissions : ∀ other, other ≠ operatorId →
      related rows' other = related s'.operatorPermissions other) :
    LeavesOthers operatorId names s
      { s' with operatorRoles := rows, operatorPermissions := rows' } where
  toExtends := ⟨h.roles, h.permissions, h.newRole, h.newPermission⟩
  rolePermissions := h.rolePermissions
  given := h.operatorRoles ▸ hgiven
  operators := h.operators
  operatorRoles := h.operatorRoles ▸ hroles
  operatorPermissions := h.operatorPermissions ▸ hpermissions

theorem related_filter_ne {rows : List (Nat × Nat)} {id id' : Nat} (h : id ≠ id') :
    related (rows.filter fun e => e.1 != id') id = related rows id := by
  have hreplace := (JoinTable.related_replace rows id' [] id).trans (if_neg h)
  unfold JoinTable.replace at hreplace
  rwa [List.map_nil, List.append_nil] at hreplace

theorem related_append_ne {other : Nat} (h : other ≠ operatorId) (rows : List (Nat × Nat))
    (id : Nat) : related (rows ++ [(operatorId, id)]) other = related rows other := by
  simp [related, h.symm]

theorem leavesOthers_replaceOperatorRoles (h : s.replaceOperatorRoles operatorId names = .ok s') :
    LeavesOthers operatorId names s s' := by
  unfold replaceOperatorRoles at h
  split at h
  · cases h
  · cases h
    have hstart : LeavesOthers operatorId names s
        { s with operatorRoles := s.operatorRoles.filter fun e => e.1 != operatorId } :=
      (Makes.refl s).leavesOthers (fun _ he => .inl (List.mem_of_mem_filter he))
        (fun _ hne => related_filter_ne hne) (fun _ _ => rfl)
    refine hstart.trans (LeavesOthers.foldl ?_ _)
    intro store name hname
    refine (makes_ensureRole store name).leavesOthers ?_ (fun _ hne => related_append_ne hne _ _)
      (fun _ _ => rfl)
    intro e he
    refine (List.mem_append.mp he).imp_right fun hnew => ⟨name, hname, ?_⟩
    rw [List.mem_singleton.mp hnew]
    exact findRole_ensureRole store name

theorem leavesOthers_replaceOperatorPermissions (operatorId : Nat) (names : List String)
    (s : ConsoleStore) (codes : List String) :
    LeavesOthers operatorId names s (s.replaceOperatorPermissions operatorId codes) := by
  have hstart : LeavesOthers operatorId names s
      { s with
        operatorPermissions := s.operatorPermissions.filter fun e => e.1 != operatorId } :=
    (Makes.refl s).leavesOthers (fun _ => .inl) (fun _ _ => rfl)
      (fun _ hne => related_filter_ne hne)
  refine hstart.trans (LeavesOthers.foldl ?_ _)
  intro store code _
  exact (makes_ensurePermission store code).leavesOthers (fun _ => .inl) (fun _ _ => rfl)
    (fun _ hne => related_append_ne hne _ _)

end

/-! ## Operators that are made, changed and deleted -/

/-- What is known of a new operator. -/
structure Added (s s' : ConsoleStore) (operatorId : Nat) (row : ConsoleOperatorRow)
    (names : List String) : Prop extends Gives names s s' where
  id : operatorId = s.operators.nextId
  free : (s.operators.find? fun operator => operator.email == row.email) = none
  operators : s'.operators = s.operators.insert row
  operatorRoles : ∀ other, other ≠ operatorId →
    related s'.operatorRoles other = related s.operatorRoles other
  operatorPermissions : ∀ other, other ≠ operatorId →
    related s'.operatorPermissions other = related s.operatorPermissions other

section

variable {s s' : ConsoleStore}

theorem added_addOperator {email name : String} {roles codes : List String} {operatorId : Nat}
    (h : s.addOperator email name roles codes = .ok (operatorId, s')) :
    Added s s' operatorId { email := email, name := name } roles := by
  unfold addOperator insertOperator at h
  split at h
  · cases h
  · rename_i id₁ s₁ hinsert
    split at hinsert
    · cases hinsert
    · rename_i hfree
      cases hinsert
      split at h
      · cases h
      · rename_i s₂ hroles
        cases h
        have hrest := (leavesOthers_replaceOperatorRoles hroles).trans
          (leavesOthers_replaceOperatorPermissions _ roles s₂ codes)
        exact ⟨hrest.toGives.of_operators, rfl, Option.not_isSome_iff_eq_none.mp hfree,
          hrest.operators, hrest.operatorRoles, hrest.operatorPermissions⟩

/-- An operator can be added if no row has its email. -/
theorem addOperator_isOk_iff (s : ConsoleStore) (email name : String) {roles : List String}
    (codes : List String) (h : roles.Nodup) :
    (∃ added, s.addOperator email name roles codes = .ok added) ↔
      (s.operators.find? fun operator => operator.email == email) = none := by
  unfold addOperator insertOperator
  cases hfind : s.operators.find? fun operator => operator.email == email with
  | some found => simp
  | none =>
    unfold replaceOperatorRoles
    simp only [not_not.mpr h]
    exact ⟨fun _ => trivial, fun _ => ⟨_, rfl⟩⟩

theorem operatorByEmail_seedBuiltinPermissions (s : ConsoleStore) (email : String) :
    s.seedBuiltinPermissions.operatorByEmail email = s.operatorByEmail email := by
  unfold operatorByEmail
  rw [(enlarges_seedBuiltinPermissions s).operators]

/-- The bootstrap operator is there, or it is made. -/
theorem ensureBootstrapOperator_cases {bootstrap : Bootstrap}
    (h : ensureBootstrapOperator bootstrap s = .ok s') :
    s' = s.seedBuiltinPermissions ∨ s.operatorByEmail bootstrap.email = none ∧ ∃ operatorId row,
        Added s.seedBuiltinPermissions s' operatorId row ["platform_admin"] := by
  have hlookup := operatorByEmail_seedBuiltinPermissions s bootstrap.email
  unfold ensureBootstrapOperator at h
  generalize s.seedBuiltinPermissions = seeded at h hlookup ⊢
  rw [hlookup] at h
  split at h
  · cases h
    exact .inl rfl
  · rename_i hmissing
    cases hadd : seeded.addOperator bootstrap.email bootstrap.name ["platform_admin"] ["*"] with
    | error e =>
      rw [hadd] at h
      cases h
    | ok added =>
      rw [hadd] at h
      cases h
      exact .inr ⟨hmissing, _, _, added_addOperator hadd⟩

/-- The roles that `create_operator` gives. -/
def NewOperator.givenRoles (data : NewOperator) : List String :=
  if data.roles.isEmpty then ["runtime_operator"] else data.roles

theorem added_createOperator {data : NewOperator} {operatorId : Nat}
    (h : s.createOperator data = .ok (operatorId, s')) :
    Added s s' operatorId { email := data.email, name := data.name } data.givenRoles := by
  unfold createOperator at h
  split at h
  · cases h
  split at h
  · cases h
  · rename_i added hadd
    split at h
    · cases h
    · cases h
      exact added_addOperator hadd

theorem leavesOthers_updateOperator {id : Nat} {data : OperatorUpdate}
    (h : s.updateOperator id data = .ok (some s')) :
    LeavesOthers id (data.roles.getD []) (s.assignOperator id data) s' := by
  unfold updateOperator updateRoles updatePermissions at h
  split at h
  · cases h
  split at h
  · cases h
  split at h
  · cases h
  · rename_i s₁ hroles
    have hgiven : LeavesOthers id (data.roles.getD []) (s.assignOperator id data) s₁ := by
      cases hnames : data.roles with
      | none =>
        rw [hnames] at hroles
        cases hroles
        exact .refl _ _ _
      | some names =>
        rw [hnames] at hroles
        exact leavesOthers_replaceOperatorRoles hroles
    split at h
    · cases h
    · cases h
      split
      · exact hgiven
      · exact hgiven.trans (leavesOthers_replaceOperatorPermissions id _ s₁ _)

theorem deleteOperator_eq_some {id : Nat} (h : s.deleteOperator id = some s') :
    s' = { s with operators := s.operators.modify id ConsoleOperatorRow.deleted } := by
  unfold deleteOperator at h
  split at h
  · cases h
  split at h
  · cases h
  · cases h
    rfl

end

end ConsoleStore

end DimooRun.Identity
