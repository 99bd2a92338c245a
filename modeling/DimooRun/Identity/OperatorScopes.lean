/-
  Identity/OperatorScopes.lean --- the scopes of operators.

  Source: identity/console.py, from `_replace_operator_scopes` to
  `_project_by_slug`.

  A scope is a tenant, a project and an environment, each of which may be left open.
  Every scope that is stored has been normalised: the tenant it names is there, and so is
  the project. Rows of tenants and projects are never removed, and no query here looks at
  their deletion marks.
-/
import DimooRun.Identity.Console

set_option autoImplicit false

namespace DimooRun.Identity

open Foundation

/-- `Tenant`. -/
structure Tenant where
  slug : String

/-- `Project`. -/
structure Project where
  tenantId : Nat
  slug : String

/-- `Environment`. -/
structure Environment where
  tenantId : Nat
  projectId : Nat
  environment : String

/-- `ConsoleOperatorAllowedScope`; an id that is `none` stands for `*`. -/
structure OperatorScope where
  tenantId : Option Int
  projectId : Option Int
  environment : String
  deriving DecidableEq, Repr

/-- A tenant or a project as a request names it. -/
inductive ScopeSelector where
  /-- `*`, or nothing -/
  | all
  | id (value : Int)
  /-- a text that is not a number -/
  | text (value : String)

/-- A scope as a request gives it. -/
structure ScopeInput where
  tenantId : ScopeSelector
  projectId : ScopeSelector
  environment : Option String

/-- There is a row with this number. -/
def hasRow {ρ : Type} (t : Table ρ) : Int → Bool
  | .ofNat n => (t.get? n).isSome
  | .negSucc _ => false

/-- Rows that are made leave the others where they are. -/
theorem hasRow_findOrInsert {ρ : Type} {t : Table ρ} {id : Int} (h : hasRow t id = true)
    (p : ρ → Bool) (row : ρ) : hasRow (t.findOrInsert p row).2 id = true := by
  cases id with
  | ofNat n =>
    obtain ⟨old, hold⟩ := Option.isSome_iff_exists.mp h
    show ((t.findOrInsert p row).2.get? n).isSome = true
    rw [Table.get?_findOrInsert_of_some hold]
    rfl
  | negSucc n => cases h

theorem hasRow_of_find? {ρ : Type} {t : Table ρ} {p : ρ → Bool} {id : Nat} {row : ρ}
    (h : t.find? p = some (id, row)) : hasRow t id = true := by
  show (t.get? id).isSome = true
  rw [(Table.find?_eq_some h).1]
  rfl

/-- The tenant and the project that a scope names are there. -/
structure Resolved (tenants : Table Tenant) (projects : Table Project) (scope : OperatorScope) :
    Prop where
  environment : scope.environment ≠ ""
  tenant : ∀ tenantId, scope.tenantId = some tenantId → hasRow tenants tenantId = true
  project : ∀ tenantId projectId, scope.tenantId = some tenantId →
    scope.projectId = some projectId → hasRow projects projectId = true

/-- A scope that names what is there. -/
abbrev ResolvedScope (tenants : Table Tenant) (projects : Table Project) : Type :=
  { scope : OperatorScope // Resolved tenants projects scope }

/-- The tables of scopes. A row of `operatorScopes` is an operator and a scope; the rows are in
the order of their creation. -/
@[ext]
structure ScopeStore where
  tenants : Table Tenant
  projects : Table Project
  environments : Table Environment
  operatorScopes : List (Nat × OperatorScope)
  resolved : ∀ e ∈ operatorScopes, Resolved tenants projects e.2

/-- The settings that `_configured_default_scope` reads. -/
structure DefaultScope where
  tenantSlug : String := "default-tenant"
  projectSlug : String := "default-project"
  environment : String := "local"

namespace ScopeStore

/-! ## Normal forms -/

/-- The message of `int(text)`. -/
def invalidLiteral (text : String) : String :=
  "invalid literal for int() with base 10: '" ++ text ++ "'"

/-- `str(environment or "*")`. -/
def environmentOf (environment : Option String) : String :=
  match environment with
  | none => "*"
  | some text => if text = "" then "*" else text

theorem environmentOf_ne (environment : Option String) : environmentOf environment ≠ "" := by
  unfold environmentOf
  split
  · decide
  · split
    · decide
    · assumption

section

variable {tenants : Table Tenant} {projects : Table Project}

theorem resolved_open (projectId : Option Int) (environment : Option String) :
    Resolved tenants projects ⟨none, projectId, environmentOf environment⟩ where
  environment := environmentOf_ne environment
  tenant _ heq := nomatch heq
  project _ _ heq := nomatch heq

theorem resolved_tenant {tenantId : Int} (h : hasRow tenants tenantId = true)
    (environment : Option String) :
    Resolved tenants projects ⟨some tenantId, none, environmentOf environment⟩ where
  environment := environmentOf_ne environment
  tenant _ heq := by
    cases heq
    exact h
  project _ _ _ heq := nomatch heq

theorem resolved_project {tenantId projectId : Int} (h : hasRow tenants tenantId = true)
    (h' : hasRow projects projectId = true) (environment : Option String) :
    Resolved tenants projects ⟨some tenantId, some projectId, environmentOf environment⟩ where
  environment := environmentOf_ne environment
  tenant _ heq := by
    cases heq
    exact h
  project _ _ _ heq := by
    cases heq
    exact h'

variable (tenants projects)

/-- `_normalize_scope`, with the conversions to numbers that follow it. -/
def normalizeScope (scope : ScopeInput) : Except String (ResolvedScope tenants projects) :=
  match scope.tenantId, scope.projectId with
  | .text text, _ => .error (invalidLiteral text)
  | .all, .text text => .error (invalidLiteral text)
  | .all, .all => .ok ⟨_, resolved_open none scope.environment⟩
  | .all, .id projectId => .ok ⟨_, resolved_open (some projectId) scope.environment⟩
  | .id tenantId, project =>
      if h : hasRow tenants tenantId = true then
        match project with
        | .all => .ok ⟨_, resolved_tenant h scope.environment⟩
        | .text text => .error (invalidLiteral text)
        | .id projectId =>
            if h' : hasRow projects projectId = true then
              .ok ⟨_, resolved_project h h' scope.environment⟩
            else .error "scope_project_not_found"
      else .error "scope_tenant_not_found"

/-- A scope as `_operator_scope_records` and `_normalize_scope` write it. -/
def recordOf (scope : OperatorScope) : ScopeInput where
  tenantId := match scope.tenantId with
    | none => .all
    | some id => .id id
  projectId := match scope.projectId with
    | none => .all
    | some id => .id id
  environment := some scope.environment

variable (scopes : List (ResolvedScope tenants projects)) (scope : ResolvedScope tenants projects)

/-- A scope that is stored is its own normal form. -/
theorem normalizeScope_recordOf :
    normalizeScope tenants projects (recordOf scope.1) = .ok scope := by
  obtain ⟨⟨tenantId, projectId, environment⟩, h⟩ := scope
  have henvironment : environmentOf (some environment) = environment := if_neg h.environment
  cases tenantId with
  | none =>
    cases projectId with
    | none | some projectId => simp only [normalizeScope, recordOf, henvironment]
  | some tenantId =>
    have htenant := h.tenant tenantId rfl
    cases projectId with
    | none => simp [normalizeScope, recordOf, henvironment, htenant]
    | some projectId =>
      have hproject := h.project tenantId projectId rfl rfl
      simp [normalizeScope, recordOf, henvironment, htenant, hproject]

theorem mapM_normalizeScope_recordOf :
    (scopes.map fun scope => recordOf scope.1).mapM (normalizeScope tenants projects) =
      .ok scopes := by
  induction scopes with
  | nil => rfl
  | cons scope scopes ih =>
    rw [List.map_cons, List.mapM_cons, normalizeScope_recordOf, ih]
    rfl

/-- One turn of the loop of `_canonicalize_operator_scopes`. -/
def keepNew (kept : List (ResolvedScope tenants projects)) (scope : OperatorScope) :
    List (ResolvedScope tenants projects) :=
  match normalizeScope tenants projects (recordOf scope) with
  | .error _ => kept
  | .ok normalized => if normalized ∈ kept then kept else kept ++ [normalized]

/-- The scopes that `_canonicalize_operator_scopes` writes back. -/
def canonicalScopes (scopes : List OperatorScope) : List (ResolvedScope tenants projects) :=
  scopes.foldl (keepNew tenants projects) []

variable {tenants projects}

theorem keepNew_of_resolved (kept : List (ResolvedScope tenants projects))
    (scope : ResolvedScope tenants projects) :
    keepNew tenants projects kept scope.1 =
      if scope ∈ kept then kept else kept ++ [scope] := by
  unfold keepNew
  rw [normalizeScope_recordOf]

/-- The loop keeps each scope once, where it first occurs. -/
theorem canonicalScopes_eq :
    canonicalScopes tenants projects (scopes.map Subtype.val) = scopes.reverse.dedup.reverse := by
  induction scopes using List.reverseRecOn with
  | nil => rfl
  | append_singleton scopes scope ih =>
    unfold canonicalScopes at ih ⊢
    rw [List.map_append, List.foldl_append, ih, List.reverse_append]
    show keepNew tenants projects _ scope.1 = (scope :: scopes.reverse).dedup.reverse
    rw [keepNew_of_resolved]
    by_cases hmem : scope ∈ scopes.reverse
    · rw [if_pos (by simpa using hmem), List.dedup_cons_of_mem hmem]
    · rw [if_neg (by simpa using hmem), List.dedup_cons_of_notMem hmem, List.reverse_cons]

end

/-! ## The scopes of an operator -/

section

variable (s : ScopeStore) (operatorId : Nat) (pending : List (ResolvedScope s.tenants s.projects))

/-- The scopes of an operator, in the order of their creation. -/
def scopesOf : List OperatorScope :=
  JoinTable.related s.operatorScopes operatorId

/-- The same scopes, with what is known of them. -/
def resolvedScopesOf : List (ResolvedScope s.tenants s.projects) :=
  (s.scopesOf operatorId).attachWith (Resolved s.tenants s.projects) (by
    intro scope hscope
    exact s.resolved _ (JoinTable.mem_related.mp hscope))

theorem map_val_resolvedScopesOf :
    (s.resolvedScopesOf operatorId).map Subtype.val = s.scopesOf operatorId :=
  List.attachWith_map_subtype_val _

/-- The rows with a tenant and a project are unique; SQL counts `NULL` as different from
itself. -/
def Unambiguous (scopes : List OperatorScope) : Prop :=
  (scopes.filter fun scope => scope.tenantId.isSome && scope.projectId.isSome).Nodup

instance (scopes : List OperatorScope) : Decidable (Unambiguous scopes) :=
  inferInstanceAs (Decidable (List.Nodup _))

theorem unambiguous_of_nodup {scopes : List OperatorScope} (h : scopes.Nodup) :
    Unambiguous scopes := h.filter _

/-- The rows of an operator are replaced. -/
def withScopes (scopes : List (ResolvedScope s.tenants s.projects)) : ScopeStore :=
  { s with
    operatorScopes := JoinTable.replace s.operatorScopes operatorId (scopes.map Subtype.val)
    resolved := by
      intro e hmem
      rcases JoinTable.mem_replace.mp hmem with ⟨hold, _⟩ | ⟨_, hnew, rfl⟩
      · exact s.resolved e hold
      · obtain ⟨scope, _, rfl⟩ := List.mem_map.mp hnew
        exact scope.2 }

/-- `_replace_operator_scopes`, and the flush at the commit. The session does not flush by
itself, so rows that were added to it before and are still `pending` are not deleted. -/
def replaceOperatorScopes (scopes : List ScopeInput) : Except ConsoleError ScopeStore :=
  match scopes.mapM (normalizeScope s.tenants s.projects) with
  | .error text => .error (.valueError text)
  | .ok normalized =>
      if ¬ Unambiguous ((pending ++ normalized).map Subtype.val) then .error .integrity
      else .ok (s.withScopes operatorId (pending ++ normalized))

/-- `_canonicalize_operator_scopes`. -/
def canonicalizeOperatorScopes : Except ConsoleError ScopeStore :=
  s.replaceOperatorScopes operatorId pending
    ((canonicalScopes s.tenants s.projects (s.scopesOf operatorId)).map fun scope =>
      recordOf scope.1)

end

/-! ## The default scope -/

section

variable (settings : DefaultScope)

/-- The condition of `_tenant_by_slug`. -/
def isTenant (tenant : Tenant) : Bool := tenant.slug == settings.tenantSlug

/-- The condition of `_project_by_slug`. -/
def isProject (tenantId : Nat) (project : Project) : Bool :=
  project.tenantId == tenantId && project.slug == settings.projectSlug

/-- The condition on the environment in `_ensure_default_scope_resources`. -/
def isEnvironment (tenantId projectId : Nat) (environment : Environment) : Bool :=
  environment.tenantId == tenantId && environment.projectId == projectId &&
    environment.environment == settings.environment

variable (s : ScopeStore) (operatorId : Nat)

/-- The tenant of the default scope, with the table it is in. -/
def defaultTenant : Nat × Table Tenant :=
  s.tenants.findOrInsert (isTenant settings) { slug := settings.tenantSlug }

/-- The project of the default scope. -/
def defaultProject : Nat × Table Project :=
  s.projects.findOrInsert (isProject settings (s.defaultTenant settings).1)
    { tenantId := (s.defaultTenant settings).1, slug := settings.projectSlug }

/-- The environment of the default scope. -/
def defaultEnvironment : Nat × Table Environment :=
  s.environments.findOrInsert
    (isEnvironment settings (s.defaultTenant settings).1 (s.defaultProject settings).1)
    { tenantId := (s.defaultTenant settings).1
      projectId := (s.defaultProject settings).1
      environment := settings.environment }

theorem find?_defaultTenant : ∃ row, (s.defaultTenant settings).2.find? (isTenant settings) =
      some ((s.defaultTenant settings).1, row) :=
  Table.find?_findOrInsert (by simp [isTenant])

theorem find?_defaultProject :
    ∃ row, (s.defaultProject settings).2.find? (isProject settings (s.defaultTenant settings).1) =
      some ((s.defaultProject settings).1, row) :=
  Table.find?_findOrInsert (by simp [isProject])

theorem find?_defaultEnvironment : ∃ row, (s.defaultEnvironment settings).2.find?
        (isEnvironment settings (s.defaultTenant settings).1 (s.defaultProject settings).1) =
      some ((s.defaultEnvironment settings).1, row) :=
  Table.find?_findOrInsert (by simp [isEnvironment])

/-- `_ensure_default_scope_resources`. -/
def ensureDefaultScopeResources : ScopeStore where
  tenants := (s.defaultTenant settings).2
  projects := (s.defaultProject settings).2
  environments := (s.defaultEnvironment settings).2
  operatorScopes := s.operatorScopes
  resolved := by
    intro e hmem
    have h := s.resolved e hmem
    exact
      { environment := h.environment
        tenant := fun tenantId heq => hasRow_findOrInsert (h.tenant tenantId heq) _ _
        project := fun tenantId projectId heq heq' =>
          hasRow_findOrInsert (h.project tenantId projectId heq heq') _ _ }

/-- `_default_operator_scope`. -/
def defaultOperatorScope : ResolvedScope (s.ensureDefaultScopeResources settings).tenants
      (s.ensureDefaultScopeResources settings).projects :=
  ⟨⟨some (s.defaultTenant settings).1, some (s.defaultProject settings).1,
      environmentOf (some settings.environment)⟩, by
    obtain ⟨_, htenant⟩ := s.find?_defaultTenant settings
    obtain ⟨_, hproject⟩ := s.find?_defaultProject settings
    exact resolved_project (hasRow_of_find? htenant) (hasRow_of_find? hproject) _⟩

/-- What `ensure_bootstrap_operator` does to the scopes of an operator that is there. -/
def ensureOperatorScope : Except ConsoleError ScopeStore :=
  (s.ensureDefaultScopeResources settings).canonicalizeOperatorScopes operatorId
    (if (s.defaultOperatorScope settings).1 ∈ s.scopesOf operatorId then []
    else [s.defaultOperatorScope settings])

/-- What it does to the scopes of a new operator. -/
def giveDefaultScope : Except ConsoleError ScopeStore :=
  (s.ensureDefaultScopeResources settings).replaceOperatorScopes operatorId []
    [recordOf (s.defaultOperatorScope settings).1]

/-- The default scope as far as it is there. -/
def configuredScope : Option OperatorScope :=
  match s.tenants.find? (isTenant settings) with
  | none => none
  | some tenant =>
      match s.projects.find? (isProject settings tenant.1) with
      | none => none
      | some project =>
          some ⟨some tenant.1, some project.1, environmentOf (some settings.environment)⟩

/-- The operator has the default scope. -/
def HasDefaultScope : Prop :=
  ∃ scope, s.configuredScope settings = some scope ∧ scope ∈ s.scopesOf operatorId

end

/-! ## What the loops leave -/

section

variable {s : ScopeStore} {operatorId : Nat}

theorem scopesOf_withScopes (scopes : List (ResolvedScope s.tenants s.projects)) (other : Nat) :
    (s.withScopes operatorId scopes).scopesOf other =
      if other = operatorId then scopes.map Subtype.val else s.scopesOf other :=
  JoinTable.related_replace _ _ _ _

theorem nodup_canonicalScopes (s : ScopeStore) (operatorId : Nat) :
    (canonicalScopes s.tenants s.projects (s.scopesOf operatorId)).Nodup := by
  rw [← map_val_resolvedScopesOf, canonicalScopes_eq, List.nodup_reverse]
  exact List.nodup_dedup _

theorem mem_canonicalScopes (s : ScopeStore) (operatorId : Nat)
    (scope : ResolvedScope s.tenants s.projects) :
    scope ∈ canonicalScopes s.tenants s.projects (s.scopesOf operatorId) ↔
      scope.1 ∈ s.scopesOf operatorId := by
  rw [← map_val_resolvedScopesOf, canonicalScopes_eq]
  simp [scope.2]

theorem canonicalScopes_of_nodup (h : (s.scopesOf operatorId).Nodup) :
    (canonicalScopes s.tenants s.projects (s.scopesOf operatorId)).map Subtype.val =
      s.scopesOf operatorId := by
  rw [← map_val_resolvedScopesOf] at h ⊢
  have hnodup : (s.resolvedScopesOf operatorId).reverse.Nodup :=
    List.nodup_reverse.mpr (List.Nodup.of_map _ h)
  rw [canonicalScopes_eq, hnodup.dedup, List.reverse_reverse]

/-- Scopes that occur once can be written. -/
theorem replaceOperatorScopes_recordOf {pending : List (ResolvedScope s.tenants s.projects)}
    {scopes : List (ResolvedScope s.tenants s.projects)} (h : (pending ++ scopes).Nodup) :
    s.replaceOperatorScopes operatorId pending (scopes.map fun scope => recordOf scope.1) =
      .ok (s.withScopes operatorId (pending ++ scopes)) := by
  have hunambiguous : Unambiguous ((pending ++ scopes).map Subtype.val) :=
    unambiguous_of_nodup (h.map Subtype.val_injective)
  unfold replaceOperatorScopes
  rw [mapM_normalizeScope_recordOf]
  exact if_neg (not_not.mpr hunambiguous)

end

/-! ## What becomes of the scopes of an operator -/

section

variable {settings : DefaultScope} {s s' : ScopeStore} {operatorId : Nat}

/-- The default scope of the settings, among the scopes of an operator. -/
theorem mem_default_iff : (s.defaultOperatorScope settings).1 ∈ s.scopesOf operatorId ↔
      s.HasDefaultScope settings operatorId := by
  constructor
  · intro hmem
    have hresolved := s.resolved _ (JoinTable.mem_related.mp hmem)
    have htenant := hresolved.tenant _ rfl
    have hproject := hresolved.project _ _ rfl rfl
    -- neither the tenant nor the project is a new one
    obtain ⟨_, hfind⟩ := Table.find?_of_isSome htenant
    obtain ⟨_, hfind'⟩ := Table.find?_of_isSome hproject
    refine ⟨_, ?_, hmem⟩
    unfold configuredScope
    rw [hfind]
    dsimp only
    rw [← defaultTenant, hfind']
    rfl
  · rintro ⟨scope, hconfigured, hmem⟩
    unfold configuredScope at hconfigured
    cases hfind : s.tenants.find? (isTenant settings) with
    | none => simp [hfind] at hconfigured
    | some tenant =>
      cases hfind' : s.projects.find? (isProject settings tenant.1) with
      | none => simp [hfind, hfind'] at hconfigured
      | some project =>
        simp only [hfind, hfind', Option.some.injEq] at hconfigured
        have htenant : (s.defaultTenant settings).1 = tenant.1 := by
          unfold defaultTenant
          rw [Table.findOrInsert_of_find? hfind]
        have hproject : (s.defaultProject settings).1 = project.1 := by
          unfold defaultProject
          rw [htenant, Table.findOrInsert_of_find? hfind']
        show OperatorScope.mk (some (s.defaultTenant settings).1)
          (some (s.defaultProject settings).1) _ ∈ _
        rw [htenant, hproject, hconfigured]
        exact hmem

/-- The operator gets the default scope, keeps its others, and has each of them once. -/
theorem ensureOperatorScope_eq (settings : DefaultScope) (s : ScopeStore) (operatorId : Nat) :
    ∃ scopes : List (ResolvedScope (s.ensureDefaultScopeResources settings).tenants
        (s.ensureDefaultScopeResources settings).projects),
      s.ensureOperatorScope settings operatorId =
        .ok ((s.ensureDefaultScopeResources settings).withScopes operatorId scopes) ∧
      scopes.Nodup ∧ s.defaultOperatorScope settings ∈ scopes ∧
      (s.HasDefaultScope settings operatorId → (s.scopesOf operatorId).Nodup →
        scopes.map Subtype.val = s.scopesOf operatorId) := by
  have hnodup := nodup_canonicalScopes (s.ensureDefaultScopeResources settings) operatorId
  have hmem := mem_canonicalScopes (s.ensureDefaultScopeResources settings) operatorId
    (s.defaultOperatorScope settings)
  unfold ensureOperatorScope
  by_cases hdefault : (s.defaultOperatorScope settings).1 ∈ s.scopesOf operatorId
  · rw [if_pos hdefault]
    refine ⟨_, replaceOperatorScopes_recordOf hnodup, hnodup, hmem.mpr hdefault, ?_⟩
    intro _ honce
    exact canonicalScopes_of_nodup (s := s.ensureDefaultScopeResources settings) honce
  · rw [if_neg hdefault]
    have hcons := List.nodup_cons.mpr ⟨fun h => hdefault (hmem.mp h), hnodup⟩
    refine ⟨_, replaceOperatorScopes_recordOf hcons, hcons, List.mem_cons_self, ?_⟩
    intro hhas _
    exact absurd (mem_default_iff.mpr hhas) hdefault

/-- A new operator gets the default scope and no other. -/
theorem giveDefaultScope_eq (settings : DefaultScope) (s : ScopeStore) (operatorId : Nat) :
    s.giveDefaultScope settings operatorId =
      .ok ((s.ensureDefaultScopeResources settings).withScopes operatorId
        [s.defaultOperatorScope settings]) := by
  have hnodup : ([] ++ [s.defaultOperatorScope settings]).Nodup := List.nodup_singleton _
  exact replaceOperatorScopes_recordOf hnodup

/-! ## The second time -/

theorem defaultTenant_ensure :
    (s.ensureDefaultScopeResources settings).defaultTenant settings = s.defaultTenant settings := by
  obtain ⟨_, hfind⟩ := s.find?_defaultTenant settings
  exact Table.findOrInsert_of_find? hfind _

theorem defaultProject_ensure : (s.ensureDefaultScopeResources settings).defaultProject settings =
      s.defaultProject settings := by
  obtain ⟨_, hfind⟩ := s.find?_defaultProject settings
  unfold defaultProject
  rw [defaultTenant_ensure]
  exact Table.findOrInsert_of_find? hfind _

theorem defaultEnvironment_ensure :
    (s.ensureDefaultScopeResources settings).defaultEnvironment settings =
      s.defaultEnvironment settings := by
  obtain ⟨_, hfind⟩ := s.find?_defaultEnvironment settings
  unfold defaultEnvironment
  rw [defaultTenant_ensure, defaultProject_ensure]
  exact Table.findOrInsert_of_find? hfind _

/-- An operator with the default scope keeps its scopes as they are. -/
theorem ensureOperatorScope_withScopes
    {scopes : List (ResolvedScope (s.ensureDefaultScopeResources settings).tenants
      (s.ensureDefaultScopeResources settings).projects)}
    (hnodup : scopes.Nodup) (hmem : s.defaultOperatorScope settings ∈ scopes) :
    ((s.ensureDefaultScopeResources settings).withScopes operatorId scopes).ensureOperatorScope
        settings operatorId =
      .ok ((s.ensureDefaultScopeResources settings).withScopes operatorId scopes) := by
  generalize hafter : (s.ensureDefaultScopeResources settings).withScopes operatorId scopes = after
  have htenant : after.defaultTenant settings = s.defaultTenant settings := by
    rw [← hafter]
    exact defaultTenant_ensure
  have hproject : after.defaultProject settings = s.defaultProject settings := by
    rw [← hafter]
    exact defaultProject_ensure
  have henvironment : after.defaultEnvironment settings = s.defaultEnvironment settings := by
    rw [← hafter]
    exact defaultEnvironment_ensure
  have hscopes : after.scopesOf operatorId = scopes.map Subtype.val := by
    rw [← hafter, scopesOf_withScopes, if_pos rfl]
  have hready : after.ensureDefaultScopeResources settings = after := by
    refine ScopeStore.ext ?_ ?_ ?_ rfl
    · show (after.defaultTenant settings).2 = after.tenants
      rw [htenant, ← hafter]
      rfl
    · show (after.defaultProject settings).2 = after.projects
      rw [hproject, ← hafter]
      rfl
    · show (after.defaultEnvironment settings).2 = after.environments
      rw [henvironment, ← hafter]
      rfl
  have hdefault : (after.defaultOperatorScope settings).1 ∈ after.scopesOf operatorId := by
    show OperatorScope.mk (some (after.defaultTenant settings).1)
      (some (after.defaultProject settings).1) _ ∈ _
    rw [htenant, hproject, hscopes]
    exact List.mem_map_of_mem hmem
  have hrows : JoinTable.replace after.operatorScopes operatorId (scopes.map Subtype.val) =
      after.operatorScopes := by
    rw [← hafter]
    exact JoinTable.replace_replace _ _ _ _
  unfold ensureOperatorScope
  rw [if_pos hdefault, hready]
  have hkept : (canonicalScopes after.tenants after.projects (after.scopesOf operatorId)).map
      Subtype.val = scopes.map Subtype.val := by
    rw [canonicalScopes_of_nodup, hscopes]
    rw [hscopes]
    exact hnodup.map Subtype.val_injective
  have honce := nodup_canonicalScopes after operatorId
  unfold canonicalizeOperatorScopes
  rw [replaceOperatorScopes_recordOf honce]
  refine congrArg Except.ok (ScopeStore.ext rfl rfl rfl ?_)
  rw [← hkept] at hrows
  exact hrows

end

end ScopeStore

end DimooRun.Identity
