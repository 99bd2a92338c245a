/-
  Identity/ConsoleRoles.lean --- what changes the permissions of a role.

  `Keeps s s'` says that the roles of `s` have the same permissions in `s'`. It is
  closed under everything the identity service does to the tables, apart from replacing
  the permissions of a role and from assignments to a permission that a role holds; and
  seeding the built-in roles is harmless exactly while they are as they were seeded.
-/
import DimooRun.Identity.Seeding

set_option autoImplicit false

namespace DimooRun.Identity

open Foundation

namespace ConsoleStore

/-- The roles of `s` are there in `s'` and have the permissions they had. -/
def Keeps (s s' : ConsoleStore) : Prop :=
  ∀ roleId, (s.roles.get? roleId).isSome = true →
    (s'.roles.get? roleId).isSome = true ∧
      s'.rolePermissionCodes roleId = s.rolePermissionCodes roleId

theorem Keeps.refl (s : ConsoleStore) : Keeps s s := fun _ h => ⟨h, rfl⟩

theorem Keeps.trans {s s' s'' : ConsoleStore} (h : Keeps s s') (h' : Keeps s' s'') :
    Keeps s s'' := by
  intro roleId hrole
  obtain ⟨hrole', hcodes⟩ := h roleId hrole
  obtain ⟨hrole'', hcodes'⟩ := h' roleId hrole'
  exact ⟨hrole'', hcodes'.trans hcodes⟩

section

variable {s s' : ConsoleStore}

/-- What a role holds and the codes of that decide its permissions. -/
theorem rolePermissionCodes_of_codeOf {roleId : Nat}
    (hgrants : related s'.rolePermissions roleId = related s.rolePermissions roleId)
    (hcode : ∀ e ∈ s.rolePermissions, s'.codeOf e.2 = s.codeOf e.2) :
    s'.rolePermissionCodes roleId = s.rolePermissionCodes roleId := by
  unfold rolePermissionCodes
  rw [hgrants]
  refine congrArg List.toFinset (List.filterMap_congr ?_)
  intro permissionId hmem
  exact hcode (roleId, permissionId) (JoinTable.mem_related.mp hmem)

/-- What roles hold is there, so new permissions do not change its codes. -/
theorem codeOf_of_extends (h : s.permissions.Extends s'.permissions) :
    ∀ e ∈ s.rolePermissions, s'.codeOf e.2 = s.codeOf e.2 := by
  intro e he
  obtain ⟨row, hrow⟩ := Option.isSome_iff_exists.mp (s.granted e he)
  unfold codeOf
  rw [h.get? hrow, hrow]

theorem isSome_of_extends (h : s.roles.Extends s'.roles) {roleId : Nat}
    (hrole : (s.roles.get? roleId).isSome = true) : (s'.roles.get? roleId).isSome = true := by
  obtain ⟨role, hget⟩ := Option.isSome_iff_exists.mp hrole
  rw [h.get? hget]
  rfl

/-- Only roles and permissions were made. -/
theorem keeps_of_extends (hroles : s.roles.Extends s'.roles)
    (hpermissions : s.permissions.Extends s'.permissions)
    (hgrants : s'.rolePermissions = s.rolePermissions) : Keeps s s' :=
  fun roleId hrole => ⟨isSome_of_extends hroles hrole,
    rolePermissionCodes_of_codeOf (congrArg (related · roleId) hgrants)
      (codeOf_of_extends hpermissions)⟩

/-- To give operators roles and permissions keeps the roles. -/
theorem Gives.keeps {names : List String} (h : Gives names s s') : Keeps s s' :=
  keeps_of_extends h.roles h.permissions h.rolePermissions

/-- Assignments to a permission that no role holds. -/
theorem keeps_modifyPermission {id : Nat} (h : ∀ e ∈ s.rolePermissions, e.2 ≠ id)
    (f : ConsolePermission → ConsolePermission) : Keeps s (s.modifyPermission id f) := by
  intro roleId hrole
  refine ⟨hrole, rolePermissionCodes_of_codeOf rfl ?_⟩
  intro e he
  unfold codeOf modifyPermission
  rw [Table.get?_modify, if_neg (h e he)]

theorem keeps_modifyRole (s : ConsoleStore) (id : Nat) (f : ConsoleRole → ConsoleRole) :
    Keeps s { s with roles := s.roles.modify id f } := by
  intro roleId hrole
  refine ⟨?_, rfl⟩
  rw [Table.get?_modify]
  split
  · rwa [Option.isSome_map]
  · exact hrole

end

/-! ## Seeding the built-in roles -/

section

variable {s s' : ConsoleStore}

/-- The permission with a code, if there is one, is deleted. -/
def codeDeleted (s : ConsoleStore) (code : String) : Bool :=
  match s.findCode code with
  | none => false
  | some found => found.2.isDeleted

/-- A new permission is not deleted. -/
theorem Extends.codeDeleted (h : Extends s s') (code : String) :
    s'.codeDeleted code = s.codeDeleted code := by
  unfold ConsoleStore.codeDeleted
  cases hfind : s.findCode code with
  | some found => rw [h.findCode hfind]
  | none =>
    cases hfind' : s'.findCode code with
    | none => rfl
    | some found =>
      obtain ⟨hget, _⟩ := Table.find?_eq_some hfind'
      rcases h.newPermission found.1 found.2 hget with hold | hnew
      · -- then it would have been found before
        have hfound := h.permissions.find?_of_get? hfind' (by rw [hold]; rfl)
        cases hfind.symm.trans hfound
      · exact congrArg ConsolePermission.isDeleted hnew

theorem filterMap_codeOf_permissionIds {codes : List String} (h : s.HasCodes codes) :
    (s.permissionIds codes).filterMap s.codeOf = codes.filter fun code => !s.codeDeleted code := by
  unfold permissionIds
  rw [List.filterMap_map, ← List.filterMap_eq_filter]
  refine List.filterMap_congr ?_
  intro code hmem
  obtain ⟨found, hfound⟩ := h code hmem
  obtain ⟨hget, hcode⟩ := Table.find?_eq_some hfound
  rw [Function.comp_apply, ensurePermission_of_findCode hfound]
  simp only [codeOf, hget, Option.guard, ConsoleStore.codeDeleted, hfound, beq_iff_eq.mp hcode]
  cases found.2.isDeleted <;> rfl

/-- The built-in roles that are there have the permissions they are seeded with, as far as
these are not deleted. -/
def AsSeeded (s : ConsoleStore) : Prop :=
  ∀ builtin ∈ builtinRoles, ∀ found, s.findRole builtin.1 = some found →
    s.rolePermissionCodes found.1 = (builtin.2.filter fun code => !s.codeDeleted code).toFinset

/-- Seeding keeps the roles while the built-in ones are as seeded. -/
theorem keeps_seedBuiltinPermissions (hseeded : s.AsSeeded) : Keeps s s.seedBuiltinPermissions := by
  have hgrows := enlarges_seedBuiltinPermissions s
  intro roleId hrole
  refine ⟨isSome_of_extends hgrows.roles hrole, ?_⟩
  rcases related_seed_cases hrole with ⟨builtin, hmem, role, hfound, hrows⟩ | hrows
  · -- the role had what it is given now
    have hcodes := (hasBuiltin_seedBuiltinPermissions s hmem).codes
    have hdeleted := hgrows.toExtends.codeDeleted
    rw [hseeded builtin hmem _ hfound]
    unfold rolePermissionCodes
    rw [hrows, filterMap_codeOf_permissionIds hcodes]
    simp only [hdeleted]
  · exact rolePermissionCodes_of_codeOf hrows (codeOf_of_extends hgrows.permissions)

theorem keeps_ensureBootstrapOperator {bootstrap : Bootstrap} (hseeded : s.AsSeeded)
    (h : ensureBootstrapOperator bootstrap s = .ok s') : Keeps s s' := by
  have hseed := keeps_seedBuiltinPermissions hseeded
  rcases ensureBootstrapOperator_cases h with rfl | ⟨_, operatorId, row, hadded⟩
  · exact hseed
  · exact hseed.trans hadded.toGives.keeps

end

end ConsoleStore

/-! ## Roles that count

A role counts if it is active and not deleted. `_operator_permissions` does not ask: it
joins operators to the permissions of their roles and never looks at the roles. So an
operator has what its roles that count give it only as long as all its roles count. -/

/-- The role is active and not deleted. -/
def ConsoleRole.Live (role : ConsoleRole) : Prop := role.status = "active" ∧ role.isDeleted = false

instance (role : ConsoleRole) : Decidable role.Live := inferInstanceAs (Decidable (_ ∧ _))

namespace ConsoleStore

/-- There is such a role, and it counts. -/
def liveRole (store : ConsoleStore) (roleId : Nat) : Bool :=
  match store.roles.get? roleId with
  | none => false
  | some role => decide role.Live

/-- What an operator is to have: its own permissions, and the active ones of its roles that
count. -/
def intendedPermissions (store : ConsoleStore) (operatorId : Nat) : Finset String :=
  store.directPermissions operatorId ∪
    (((related store.operatorRoles operatorId).filter store.liveRole).flatMap fun roleId =>
      (related store.rolePermissions roleId).filterMap store.activeCodeOf).toFinset

/-- Every role that an operator has counts. -/
def HeldLive (store : ConsoleStore) : Prop := ∀ e ∈ store.operatorRoles, store.liveRole e.2 = true

theorem operatorPermissionCodes_of_heldLive {store : ConsoleStore} (h : store.HeldLive)
    (operatorId : Nat) :
    store.operatorPermissionCodes operatorId = store.intendedPermissions operatorId := by
  have hfilter : (related store.operatorRoles operatorId).filter store.liveRole =
      related store.operatorRoles operatorId := by
    refine List.filter_eq_self.mpr fun roleId hmem => ?_
    obtain ⟨e, he, rfl⟩ := List.mem_map.mp hmem
    exact h e (List.mem_of_mem_filter he)
  unfold operatorPermissionCodes intendedPermissions
  rw [hfilter]

/-! ## Steps that take no role away -/

/-- The roles that count still count, and a name that leads to another role than before leads
to one that counts. -/
structure LivesOn (s s' : ConsoleStore) : Prop where
  live : ∀ roleId, s.liveRole roleId = true → s'.liveRole roleId = true
  found : ∀ name found, s'.findRole name = some found → s.findRole name = some found ∨ found.2.Live

section

variable {s s' : ConsoleStore}

theorem livesOn_of_roles (h : s'.roles = s.roles) : LivesOn s s' := by
  refine ⟨fun roleId hlive => ?_, fun name found hfound => .inl ?_⟩
  · unfold liveRole at hlive ⊢
    rw [h]
    exact hlive
  · unfold findRole at hfound ⊢
    rwa [h] at hfound

theorem liveRole_iff {roleId : Nat} :
    s.liveRole roleId = true ↔ ∃ role, s.roles.get? roleId = some role ∧ role.Live := by
  unfold liveRole
  cases s.roles.get? roleId <;> simp

theorem liveRole_of_extends (h : s.roles.Extends s'.roles) {roleId : Nat}
    (hlive : s.liveRole roleId = true) : s'.liveRole roleId = true := by
  obtain ⟨role, hget, hrole⟩ := liveRole_iff.mp hlive
  exact liveRole_iff.mpr ⟨role, h.get? hget, hrole⟩

/-- Roles that are made on the way count. -/
theorem Extends.livesOn (h : Extends s s') : LivesOn s s' := by
  refine ⟨fun roleId => liveRole_of_extends h.roles, fun name found hfound => ?_⟩
  obtain ⟨hget, _⟩ := Table.find?_eq_some hfound
  rcases h.newRole found.1 found.2 hget with hold | hnew
  · exact .inl (h.roles.find?_of_get? hfound (by rw [hold]; rfl))
  · rw [hnew]
    exact .inr ⟨rfl, rfl⟩

end

/-! ## Who has which role -/

section

variable {s s' : ConsoleStore}

theorem HeldLive.of_livesOn (h : s.HeldLive) (hlive : LivesOn s s')
    (hsame : ∀ e ∈ s'.operatorRoles, e ∈ s.operatorRoles) : s'.HeldLive :=
  fun e he => hlive.live e.2 (h e (hsame e he))

/-- The names lead to roles that count, as far as they lead to roles. -/
def NamesLive (s : ConsoleStore) (names : List String) : Prop :=
  ∀ name ∈ names, ∀ found, s.findRole name = some found → found.2.Live

theorem NamesLive.of_livesOn {names : List String} (h : s.NamesLive names)
    (hlive : LivesOn s s') : s'.NamesLive names := by
  intro name hname found hfound
  rcases hlive.found name found hfound with hold | hnew
  · exact h name hname found hold
  · exact hnew

/-- The roles that operators are given count. -/
theorem Gives.heldLive {names : List String} (h : Gives names s s') (hnames : s.NamesLive names)
    (held : s.HeldLive) : s'.HeldLive := by
  have hlive := h.toExtends.livesOn
  intro e he
  rcases h.given e he with hold | ⟨name, hname, role, hfound⟩
  · exact hlive.live e.2 (held e hold)
  · obtain ⟨hget, _⟩ := Table.find?_eq_some hfound
    exact liveRole_iff.mpr ⟨role, hget, hnames.of_livesOn hlive name hname _ hfound⟩

end

/-! ## The bootstrap operator -/

/-- No role is taken away, and if all roles that operators have count, so they do after. -/
structure KeepsLive (s s' : ConsoleStore) : Prop where
  livesOn : LivesOn s s'
  held : s.HeldLive → s'.HeldLive

/-- The bootstrap operator is there, or would be given a role that counts. -/
def BootstrapLive (bootstrap : Bootstrap) (s : ConsoleStore) : Prop :=
  (s.operatorByEmail bootstrap.email).isSome = true ∨ s.NamesLive ["platform_admin"]

theorem keepsLive_ensureBootstrapOperator {bootstrap : Bootstrap} {s s' : ConsoleStore}
    (hlive : s.BootstrapLive bootstrap) (h : ensureBootstrapOperator bootstrap s = .ok s') :
    KeepsLive s s' := by
  have hseed := enlarges_seedBuiltinPermissions s
  have hheld : s.HeldLive → s.seedBuiltinPermissions.HeldLive := fun held =>
    held.of_livesOn hseed.livesOn fun _ he => hseed.operatorRoles ▸ he
  rcases ensureBootstrapOperator_cases h with rfl | ⟨hmissing, operatorId, row, hadded⟩
  · exact ⟨hseed.livesOn, hheld⟩
  · have hnames : s.NamesLive ["platform_admin"] := by
      rcases hlive with hsome | hnames
      · rw [hmissing] at hsome
        cases hsome
      · exact hnames
    exact ⟨(hseed.toExtends.trans hadded.toExtends).livesOn, fun held =>
      hadded.toGives.heldLive (hnames.of_livesOn hseed.livesOn) (hheld held)⟩

end ConsoleStore

end DimooRun.Identity
