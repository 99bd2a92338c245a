/-
  Policy/Loading.lean --- from stored policies to the rules in force.

  Sources: worker/durable.py, `_policy_rules`, and
  gateway/route_tester.py, `_active_policy_rules`.

  The worker and the gateway for published surfaces read the same table, each in its own
  way: the worker takes the policies of exactly the project, the gateway also those of
  the whole tenant; the worker reads `_environment`, the gateway does not; the worker
  reads an unknown decision as `allow`, the gateway skips the policy.
-/
import DimooRun.Policy.Engine
import DimooRun.Foundation.Table

set_option autoImplicit false

namespace DimooRun.Policy

open Foundation

/-- A row of `policies`. -/
structure PolicyRow where
  tenantId : Int
  projectId : Option Int
  type : String := "admin"
  resourceType : String := "generic"
  action : String := "manage"
  decision : String := "allow"
  priority : Int := 100
  riskLevel : Option String := none
  condition : PyDict := []
  reason : Option String := none
  status : String := "active"
  metadata : PyDict := []
  isDeleted : Bool := false

/-- A row with its id. -/
abbrev StoredPolicy : Type := Nat × PolicyRow

/-- `order_by(Policy.priority.asc(), Policy.id.asc())`. -/
def before (x y : StoredPolicy) : Prop :=
  x.2.priority < y.2.priority ∨ (x.2.priority = y.2.priority ∧ x.1 ≤ y.1)

instance : DecidableRel before := fun _ _ => inferInstanceAs (Decidable (_ ∨ _))

/-- The rows that a condition selects, in order. -/
def inOrder (policies : Table PolicyRow) (p : PolicyRow → Bool) : List StoredPolicy :=
  (policies.select p).insertionSort before

variable {policies : Table PolicyRow} {id : Nat}
  {load : StoredPolicy → Except PyError (Option StaticPolicyRule)} {rows : List StoredPolicy}
  {tenantId : Int} {projectId : Option Int}

theorem mem_inOrder {p : PolicyRow → Bool} {policy : PolicyRow} :
    (id, policy) ∈ inOrder policies p ↔ policies.get? id = some policy ∧ p policy = true := by
  rw [inOrder, List.mem_insertionSort, Table.mem_select]

instance : Std.Total before := ⟨fun x y => by unfold before; omega⟩

instance : IsTrans StoredPolicy before := ⟨fun x y z => by unfold before; omega⟩

/-- Rows are in the same order whether they are selected before or after they are sorted. -/
theorem filter_inOrder (p q : PolicyRow → Bool) :
    (inOrder policies p).filter (fun stored => q stored.2) =
      inOrder policies fun policy => p policy && q policy := by
  have hsorted (p) : (inOrder policies p).Pairwise before := List.pairwise_insertionSort _ _
  have hperm (p) : (inOrder policies p).Perm (policies.select p) := List.perm_insertionSort _ _
  refine List.Perm.eq_of_pairwise (fun x y hx hy hxy hyx => ?_) ((hsorted p).filter _) (hsorted _) ?_
  · have hid : x.1 = y.1 := by unfold before at hxy hyx; omega
    have hrow := (mem_inOrder.mp (List.mem_of_mem_filter hx)).1
    rw [hid, (mem_inOrder.mp hy).1] at hrow
    exact Prod.ext hid (Option.some.inj hrow).symm
  · refine ((hperm p).filter _).trans (List.Perm.trans ?_ (hperm _).symm)
    simp only [Table.select, List.filter_filter, Bool.and_comm]
    rfl

/-- Rows for which there is nothing to collect may be left out. -/
theorem filterMap_inOrder {α : Type} {f : StoredPolicy → Option α} {p q : PolicyRow → Bool}
    (h : ∀ stored : StoredPolicy, policies.get? stored.1 = some stored.2 → p stored.2 = true →
      f stored ≠ none → q stored.2 = true) :
    (inOrder policies p).filterMap f =
      (inOrder policies fun policy => p policy && q policy).filterMap f := by
  rw [← filter_inOrder, List.filterMap_filter]
  refine List.filterMap_congr fun stored hstored => ?_
  obtain ⟨hget, hp⟩ := mem_inOrder.mp hstored
  split
  · rfl
  · rename_i hq
    exact not_not.mp fun hsome => hq (h stored hget hp hsome)

namespace PolicyRow

/-! ## The worker -/

/-- The query of `_policy_rules`. -/
def ofProject (tenantId : Int) (projectId : Option Int) (policy : PolicyRow) : Bool :=
  policy.tenantId == tenantId && policy.projectId == projectId && policy.status == "active" &&
    !policy.isDeleted

section

variable (py : Builtins) (policy : PolicyRow)

/-- `metadata.get("_environment")`. -/
def metadataEnvironment : PyValue := PyDict.get policy.metadata "_environment"

/-- `policy_environment not in {None, environment}`; the environment of the run is a text. -/
def otherEnvironment (environment : String) (policy : PolicyRow) : Bool :=
  match policy.metadataEnvironment with
  | .none => false
  | .str name => name != environment
  | _ => true

/-- The environment of the worker's rule. -/
def ruleEnvironment : Option String :=
  match (PyDict.get policy.condition "environment").str? with
  | some name => some name
  | none => policy.metadataEnvironment.str?

/-- `_int_or_none`; an overflow is not caught. -/
def intOrNone : PyValue → Except PyError (Option Int)
  | .none => .ok none
  | value =>
      match py.int value with
      | .ok n => .ok (some n)
      | .error .overflowError => .error .overflowError
      | .error _ => .ok none

/-- `_string_or_none(condition.get("risk_level")) or policy.risk_level`. -/
def ruleRiskLevel : Option String :=
  match PyDict.get policy.condition "risk_level" with
  | .none => policy.riskLevel
  | value => if py.str value = "" then policy.riskLevel else some (py.str value)

/-- `_decision_value`. -/
def ruleDecision : Decision := (Decision.ofText? policy.decision).getD .allow

/-- `policy.reason or default`. -/
def reasonOr (other : String) : String :=
  (policy.reason.filter (· != "")).getD other

/-- The worker's rule, for the resource id it read. -/
def ruleWith (id : Nat) (resourceId : Option Int) : StaticPolicyRule where
  policyId := toString id
  tenantId := some policy.tenantId
  projectId := policy.projectId
  environment := policy.ruleEnvironment
  resourceType := policy.resourceType
  resourceId := resourceId
  action := policy.action
  riskLevel := policy.ruleRiskLevel py
  decision := policy.ruleDecision
  reason := policy.reasonOr policy.decision
  metadata := policy.metadata

end

variable (py : Builtins)

/-- One round of the loop of `_policy_rules`: a rule, nothing or an exception. -/
def workerRule (environment : Option String) (stored : StoredPolicy) :
    Except PyError (Option StaticPolicyRule) :=
  let (id, policy) := stored
  -- a list or a dictionary cannot be looked up in a set
  if environment.isSome && !policy.metadataEnvironment.hashable then .error .typeError
  else if environment.any fun name => policy.otherEnvironment name then .ok none
  else
    match intOrNone py (PyDict.get policy.condition "resource_id") with
    | .error e => .error e
    | .ok resourceId => .ok (some (policy.ruleWith py id resourceId))

/-! ## The gateway -/

/-- The query of `_active_policy_rules`. -/
def ofTenant (tenantId : Int) (resourceType action : String) (policy : PolicyRow) : Bool :=
  !policy.isDeleted && policy.status == "active" && policy.tenantId == tenantId &&
    policy.resourceType == resourceType && policy.action == action

/-- `_policy_rule_metadata`. -/
def ruleMetadata (policy : PolicyRow) : PyDict :=
  let limits := metadataLimits policy.metadata
  let redactions := metadataRedactions py policy.metadata
  (if limits.isEmpty then [] else [("limits", .dict limits)]) ++
    (if redactions.isEmpty then [] else [("redactions", .list (redactions.map .str))])

/-- `str(condition["environment"])`, if there is one. -/
def surfaceEnvironment (policy : PolicyRow) : Option String :=
  match PyDict.get policy.condition "environment" with
  | .none => none
  | value => some (py.str value)

/-- One round of the loop of `_active_policy_rules`. -/
def gatewayRule (projectId : Int) (stored : StoredPolicy) : Option StaticPolicyRule :=
  let (id, policy) := stored
  if policy.projectId != none && policy.projectId != some projectId then none
  else
    match Decision.ofText? policy.decision with
    | none => none
    | some decision =>
        some
          { policyId := toString id
            resourceType := policy.resourceType
            action := policy.action
            decision := decision
            reason := policy.reasonOr "policy_matched"
            tenantId := some policy.tenantId
            projectId := policy.projectId
            environment := policy.surfaceEnvironment py
            riskLevel := policy.riskLevel
            resourceId := (PyDict.get policy.condition "resource_id").int?
            metadata := policy.ruleMetadata py }

end PolicyRow

/-- A loop that appends a rule, goes on or raises. -/
def collectRules (load : StoredPolicy → Except PyError (Option StaticPolicyRule)) :
    List StoredPolicy → Except PyError (List StaticPolicyRule)
  | [] => .ok []
  | stored :: rest =>
      match load stored with
      | .error e => .error e
      | .ok none => collectRules load rest
      | .ok (some rule) =>
          match collectRules load rest with
          | .error e => .error e
          | .ok rules => .ok (rule :: rules)

/-- `_policy_rules`. -/
def policyRules (py : Builtins) (policies : Table PolicyRow) (tenantId : Int)
    (projectId : Option Int) (environment : Option String) :
    Except PyError (List StaticPolicyRule) :=
  collectRules (PolicyRow.workerRule py environment)
    (inOrder policies (PolicyRow.ofProject tenantId projectId))

/-- `_active_policy_rules`. -/
def activePolicyRules (py : Builtins) (policies : Table PolicyRow) (tenantId projectId : Int)
    (resourceType action : String) : List StaticPolicyRule :=
  (inOrder policies (PolicyRow.ofTenant tenantId resourceType action)).filterMap
    (PolicyRow.gatewayRule py projectId)

/-! ## What is loaded -/

/-- The rule that a row gives, if it can be read and gives one. -/
def loaded (load : StoredPolicy → Except PyError (Option StaticPolicyRule))
    (stored : StoredPolicy) : Option StaticPolicyRule :=
  match load stored with
  | .ok rule => rule
  | .error _ => none

/-- One row that cannot be read is enough to raise. -/
theorem collectRules_eq_ok_iff : ∀ {rules}, collectRules load rows = .ok rules ↔
      (∀ stored ∈ rows, ∃ rule, load stored = .ok rule) ∧ rows.filterMap (loaded load) = rules := by
  induction rows with
  | nil => simp [collectRules]
  | cons stored rest ih =>
    intro rules
    rw [List.forall_mem_cons]
    unfold collectRules
    cases hload : load stored with
    | error e => simp
    | ok rule =>
      have hloaded : loaded load stored = rule := by
        unfold loaded
        rw [hload]
      rw [List.filterMap_cons, hloaded]
      cases rule with
      | none => simp [ih]
      | some rule =>
        cases hrest : collectRules load rest with
        | error e =>
          simp only [hrest, reduceCtorEq, false_iff] at ih
          simpa using fun hall _ => ih ⟨hall, rfl⟩
        | ok rules =>
          obtain ⟨hall, rfl⟩ := ih.mp hrest
          simpa using fun _ => hall

namespace PolicyRow

variable {py : Builtins} {environment : Option String} {policy : PolicyRow}

/-- The worker cannot read the row. -/
def Unreadable (py : Builtins) (environment : Option String) (policy : PolicyRow) : Prop :=
  (environment.isSome = true ∧ policy.metadataEnvironment.hashable = false) ∨
    ((environment.any fun name => policy.otherEnvironment name) = false ∧
      ∃ e, intOrNone py (PyDict.get policy.condition "resource_id") = .error e)

theorem workerRule_error_iff (id : Nat) : (∃ e, workerRule py environment (id, policy) = .error e) ↔
      policy.Unreadable py environment := by
  unfold workerRule Unreadable
  dsimp only
  cases henv : environment with
  | none =>
    cases intOrNone py (PyDict.get policy.condition "resource_id") <;> simp
  | some name =>
    cases hhash : policy.metadataEnvironment.hashable with
    | false => simp
    | true =>
      cases hother : policy.otherEnvironment name with
      | true => simp [hother]
      | false =>
        simp only [Bool.not_true, Bool.and_false, Bool.false_eq_true, if_false, Option.any_some,
          hother, true_and]
        cases intOrNone py (PyDict.get policy.condition "resource_id") <;> simp

/-- What the worker makes of a row it can read. -/
theorem workerRule_eq_some_iff {rule : StaticPolicyRule} :
    workerRule py environment (id, policy) = .ok (some rule) ↔
      (environment.isSome && !policy.metadataEnvironment.hashable) = false ∧
      (environment.any fun name => policy.otherEnvironment name) = false ∧
      ∃ resourceId, intOrNone py (PyDict.get policy.condition "resource_id") = .ok resourceId ∧
        rule = policy.ruleWith py id resourceId := by
  unfold workerRule
  dsimp only
  split
  · rename_i h
    simp [h]
  · rename_i h
    split
    · rename_i hother
      simp [hother]
    · rename_i hother
      cases intOrNone py (PyDict.get policy.condition "resource_id") with
      | error e => simp
      | ok resourceId => simp [h, hother, eq_comm]

end PolicyRow

/-- The worker loads rules exactly when it can read every row. -/
theorem policyRules_eq_ok_iff {py : Builtins} {environment : Option String}
    {rules : List StaticPolicyRule} :
    policyRules py policies tenantId projectId environment = .ok rules ↔
      (∀ id policy, policies.get? id = some policy →
        policy.ofProject tenantId projectId = true → ¬ policy.Unreadable py environment) ∧
      (inOrder policies (PolicyRow.ofProject tenantId projectId)).filterMap
        (loaded (PolicyRow.workerRule py environment)) = rules := by
  have hread : ∀ id policy, (∃ rule, PolicyRow.workerRule py environment (id, policy) = .ok rule) ↔
      ¬ policy.Unreadable py environment := by
    intro id policy
    rw [← PolicyRow.workerRule_error_iff id]
    cases PolicyRow.workerRule py environment (id, policy) <;> simp
  rw [policyRules, collectRules_eq_ok_iff]
  simp only [Prod.forall, mem_inOrder, and_imp, hread]

/-! ## Where the loaders agree

Each loader turns the rows that apply to a request into stances, in order of priority.
The two decide alike if the worker can read its rows and no row that may apply is one
that they read differently. -/

open PolicyRow

section

variable {py : Builtins} {request : PolicyRequest} {policy : PolicyRow}

theorem limits_ruleMetadata :
    metadataLimits (policy.ruleMetadata py) = metadataLimits policy.metadata := by
  unfold ruleMetadata
  cases hlimits : metadataLimits policy.metadata with
  | nil =>
    cases metadataRedactions py policy.metadata <;> rfl
  | cons item rest => rfl

/-- What was stripped is not stripped further. -/
theorem texts_texts (items : List PyValue) :
    texts py ((texts py items).map PyValue.str) = texts py items := by
  have hmap : (((texts py items).map PyValue.str).map fun item => stripText (py.str item)) =
      texts py items := by
    rw [List.map_map]
    conv_rhs => rw [← List.map_id (texts py items)]
    refine List.map_congr_left fun text htext => ?_
    obtain ⟨item, _, rfl⟩ := List.mem_map.mp (List.mem_filter.mp htext).1
    show stripText (py.str (.str _)) = _
    rw [py.str_str, stripText_stripText]
    rfl
  show List.filter (· != "") _ = _
  rw [hmap, List.filter_eq_self]
  intro text htext
  exact (List.mem_filter.mp htext).2

/-- The redactions of a metadata are texts. -/
theorem metadataRedactions_texts (metadata : PyDict) :
    texts py ((metadataRedactions py metadata).map PyValue.str) =
      metadataRedactions py metadata := by
  unfold metadataRedactions
  split
  · exact texts_texts _
  · rfl

theorem redactions_ruleMetadata :
    metadataRedactions py (policy.ruleMetadata py) = metadataRedactions py policy.metadata := by
  have htexts : texts py ((metadataRedactions py policy.metadata).map PyValue.str) =
      metadataRedactions py policy.metadata := metadataRedactions_texts policy.metadata
  unfold ruleMetadata
  generalize metadataRedactions py policy.metadata = redactions at *
  cases redactions with
  | nil => cases metadataLimits policy.metadata <;> rfl
  | cons text rest =>
    cases metadataLimits policy.metadata with
    | nil => exact htexts
    | cons item items => exact htexts

/-- The stance of what a loader makes of a row, if it makes a rule that matches. -/
def stance? (py : Builtins) (request : PolicyRequest) (rule : Option StaticPolicyRule) :
    Option Stance :=
  (rule.filter fun rule => rule.matchesRequest request).map (StaticPolicyRule.stance py)

theorem stance?_congr {rule rule' : StaticPolicyRule}
    (hmatches : rule.matchesRequest request = rule'.matchesRequest request)
    (hstance : rule.stance py = rule'.stance py) :
    stance? py request (some rule) = stance? py request (some rule') := by
  simp only [stance?, Option.filter_some, hmatches]
  split
  · exact congrArg some hstance
  · rfl

/-- The stances of the rules that match, row by row. -/
theorem map_stance_matching (load : StoredPolicy → Option StaticPolicyRule) :
    (matching (rows.filterMap load) request).map (StaticPolicyRule.stance py) =
      rows.filterMap fun stored => stance? py request (load stored) := by
  rw [matching, List.filter_filterMap, List.map_filterMap]
  rfl

/-- A rule of the worker that matches comes from a row for the resource type and the action. -/
theorem ofTenant_of_stance? {stored : StoredPolicy}
    (hof : stored.2.ofProject request.tenantId request.projectId = true)
    (h : stance? py request (loaded (workerRule py request.environment) stored) ≠ none) :
    stored.2.ofTenant request.tenantId request.resourceType request.action = true := by
  obtain ⟨id, policy⟩ := stored
  simp only [stance?, ne_eq, Option.map_eq_none_iff, Option.filter_eq_none_iff, not_forall] at h
  obtain ⟨rule, hloaded, hmatches⟩ := h
  have hload : workerRule py request.environment (id, policy) = .ok (some rule) := by
    unfold loaded at hloaded
    split at hloaded
    · rename_i hok
      rw [hok, hloaded]
    · cases hloaded
  obtain ⟨_, _, resourceId, _, rfl⟩ := workerRule_eq_some_iff.mp hload
  simp only [not_not, StaticPolicyRule.matchesRequest, ruleWith, Bool.and_eq_true] at hmatches
  simp only [ofProject, Bool.and_eq_true] at hof
  simp only [ofTenant, Bool.and_eq_true]
  exact ⟨⟨⟨⟨hof.2, hof.1.2⟩, hof.1.1.1⟩, hmatches.1.1.1.1.1.1⟩, hmatches.1.1.1.1.1.2⟩

end

/-- Both loaders lead to the same decision. -/
def LoadersAgree (py : Builtins) (policies : Table PolicyRow) (request : PolicyRequest)
    (projectId : Int) : Prop :=
  ∃ rules, policyRules py policies request.tenantId request.projectId request.environment =
      .ok rules ∧
    (evaluate py rules request).1.decision =
      (evaluate py (activePolicyRules py policies request.tenantId projectId request.resourceType
        request.action) request).1.decision

/-- Both loaders read the row alike: it is of a project, its decision is known, its environment
is a text of its condition, its risk level is that of its column, and its resource is a number. -/
structure PolicyRow.ReadAlike (policy : PolicyRow) : Prop where
  project : policy.projectId ≠ none
  decision : Decision.ofText? policy.decision ≠ none
  metadata : policy.metadataEnvironment = .none
  environment : PyDict.get policy.condition "environment" = .none ∨
    ∃ name, PyDict.get policy.condition "environment" = .str name
  riskLevel : PyDict.get policy.condition "risk_level" = .none
  resource : PyDict.get policy.condition "resource_id" = .none ∨
    ∃ n, PyDict.get policy.condition "resource_id" = .int n

section

variable {py : Builtins} {request : PolicyRequest}

/-- A row that is read alike takes the same stance on both sides: the rules differ in the reason
and in metadata that nobody reads. -/
theorem PolicyRow.ReadAlike.stance_eq {policy : PolicyRow} (h : policy.ReadAlike) {projectId : Int}
    (hproject : policy.projectId = some projectId) (id : Nat) :
    stance? py request (loaded (workerRule py request.environment) (id, policy)) =
      stance? py request (gatewayRule py projectId (id, policy)) := by
  have henvironment : policy.surfaceEnvironment py = policy.ruleEnvironment := by
    unfold ruleEnvironment surfaceEnvironment
    rcases h.environment with hnone | ⟨name, hname⟩
    · rw [hnone, h.metadata]
      rfl
    · rw [hname]
      exact congrArg some (py.str_str name)
  have hrisk : policy.ruleRiskLevel py = policy.riskLevel := by
    unfold ruleRiskLevel
    rw [h.riskLevel]
  have hresource : intOrNone py (PyDict.get policy.condition "resource_id") =
      .ok (PyDict.get policy.condition "resource_id").int? := by
    rcases h.resource with hnone | ⟨n, hn⟩
    · rw [hnone]
      rfl
    · rw [hn]
      rfl
  obtain ⟨d, hd⟩ := Option.ne_none_iff_exists'.mp h.decision
  have hworker : workerRule py request.environment (id, policy) =
      .ok (some (policy.ruleWith py id (PyDict.get policy.condition "resource_id").int?)) :=
    workerRule_eq_some_iff.mpr ⟨by simp [h.metadata, PyValue.hashable],
      by simp [otherEnvironment, h.metadata], _, hresource, rfl⟩
  have hgateway : gatewayRule py projectId (id, policy) =
      some { policy.ruleWith py id (PyDict.get policy.condition "resource_id").int? with
        reason := policy.reasonOr "policy_matched", metadata := policy.ruleMetadata py } := by
    simp [gatewayRule, hproject, hd, ruleWith, ruleDecision, henvironment, hrisk]
  rw [loaded, hworker, hgateway]
  refine stance?_congr rfl ?_
  simp [StaticPolicyRule.stance, StaticPolicyRule.limiting, StaticPolicyRule.redacting,
    limits_ruleMetadata, redactions_ruleMetadata, ruleWith]

/-- If no row that may apply is read differently, both loaders find the same stances. -/
theorem stances_eq {projectId : Int} (hproject : request.projectId = some projectId)
    (halike : ∀ id policy, policies.get? id = some policy →
      policy.ofTenant request.tenantId request.resourceType request.action = true →
      policy.projectId = none ∨ policy.projectId = some projectId → policy.ReadAlike) :
    ((inOrder policies (ofProject request.tenantId request.projectId)).filterMap fun stored =>
        stance? py request (loaded (workerRule py request.environment) stored)) =
      (inOrder policies (ofTenant request.tenantId request.resourceType request.action)).filterMap
        fun stored => stance? py request (gatewayRule py projectId stored) := by
  -- what is of one side only takes no stance there
  rw [filterMap_inOrder (q := ofTenant request.tenantId request.resourceType request.action)
      fun stored _ hof hstance => ofTenant_of_stance? hof hstance,
    filterMap_inOrder (q := ofProject request.tenantId request.projectId)
      (p := ofTenant request.tenantId request.resourceType request.action) ?_]
  · simp only [Bool.and_comm (ofTenant _ _ _ _)]
    refine List.filterMap_congr fun stored hstored => ?_
    obtain ⟨hget, hboth⟩ := mem_inOrder.mp hstored
    obtain ⟨hof, hkind⟩ := Bool.and_eq_true_iff.mp hboth
    simp only [ofProject, Bool.and_eq_true, beq_iff_eq] at hof
    have hsame := hof.1.1.2.trans hproject
    exact (halike stored.1 stored.2 hget hkind (Or.inr hsame)).stance_eq hsame stored.1
  · intro stored hget hkind hstance
    have hnone : stored.2.projectId ≠ none := fun hnone =>
      (halike stored.1 stored.2 hget hkind (Or.inl hnone)).project hnone
    have hsame : stored.2.projectId = some projectId := by
      by_contra hother
      exact hstance (by simp [gatewayRule, hother, hnone, stance?])
    simp only [ofTenant, Bool.and_eq_true] at hkind
    simp only [ofProject, Bool.and_eq_true, hsame, hproject, beq_self_eq_true]
    exact ⟨⟨⟨hkind.1.1.2, trivial⟩, hkind.1.1.1.2⟩, hkind.1.1.1.1⟩

end

/-- A policy that denies invocations, of a project or of the whole tenant. -/
def denySurface (projectId : Option Int) : PolicyRow where
  tenantId := 1
  projectId := projectId
  resourceType := "published_surface"
  action := "invoke"
  decision := "deny"

/-- An invocation in project 1. -/
def invocation : PolicyRequest where
  tenantId := 1
  projectId := some 1
  actorId := none
  actorType := "external_ingress"
  resourceType := "published_surface"
  resourceId := some 1
  action := "invoke"
  environment := some "prod"

end DimooRun.Policy
