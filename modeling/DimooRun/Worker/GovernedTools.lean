/-
  Worker/GovernedTools.lean --- tool calls of a run under the policies that are stored.

  Source: worker/durable.py, `_resolve_runtime_governance`.

  The worker loads the rules for the environment of the run and hands them to the tool
  gateway. The request of the gateway names no environment, and a rule that has one
  matches only requests that name it: what is denied for an environment is not denied
  there.
-/
import DimooRun.Policy.Loading
import DimooRun.Tools.Gateway

set_option autoImplicit false

namespace DimooRun.Worker

open Foundation Policy Hitl Tools PolicyRow

/-- What a run may get from a tool call: an exception of the loader or of the gateway. -/
inductive GovernedError where
  | loading (error : PyError)
  | tool (error : ToolError)

/-- A tool call that a run makes. -/
structure GovernedCall where
  name : String
  arguments : PyDict
  context : RuntimeContext
  actorId : Option String
  handler : Handler

section

variable (py : Builtins) (now : Instant) (policies : Table PolicyRow) (tools : Table ToolRow)
  (c : GovernedCall) (s : Effects ApprovalTables)

/-- A tool call through the bundle of a run: the rules are loaded for the run, and the call is made
by name. -/
def governedToolCall : Except GovernedError ToolCallResult × Effects ApprovalTables :=
  match policyRules py policies c.context.tenantId c.context.projectId c.context.environment with
  | .error e => (.error (.loading e), s)
  | .ok rules =>
      let r := callByName py (ApprovalTables.createApproval now) rules tools c.name c.arguments
        c.context c.actorId c.handler s
      (r.1.mapError .tool, r.2)

/-- The call is refused and the handler does not run. -/
def Refused (result : Except GovernedError ToolCallResult × Effects ApprovalTables)
    (s : Effects ApprovalTables) : Prop :=
  (∃ e, result.1 = .error e) ∧ result.2.handled = s.handled

/-- A stored policy of the project that denies the call of a tool, whatever its environment. -/
structure Denies (context : RuntimeContext)
    (id : Nat) (tool : ToolRow) (policy : PolicyRow) : Prop where
  stored : ∃ policyId, policies.get? policyId = some policy
  active : policy.ofProject context.tenantId context.projectId = true
  decision : policy.decision = "deny"
  resourceType : policy.resourceType = "tool"
  action : policy.action = "call"
  resourceId : ∀ n, intOrNone py (PyDict.get policy.condition "resource_id") = .ok (some n) → n = id
  riskLevel : ∀ level, policy.ruleRiskLevel py = some level → level = tool.riskLevel

/-- The policy has no environment, neither of its own nor as a condition. -/
def Unscoped (policy : PolicyRow) : Prop :=
  policy.metadataEnvironment = .none ∧ (PyDict.get policy.condition "environment").str? = none

/-- Denials for the environment of a run are enforced in it. -/
def DenialEnforced (environment : String) : Prop :=
  ∀ id tool, (tools.find? fun row => row.named c.name c.context) = some (id, tool) →
    (∃ policy, Denies py policies c.context id tool policy ∧
      policy.ruleEnvironment = some environment) →
    Refused (governedToolCall py now policies tools c s) s

end

/-! ## The rules that deny -/

/-- The request has no environment, so only rules without one match. -/
theorem ruleEnvironment_eq_none_iff {policy : PolicyRow} {environment : String}
    (hother : policy.otherEnvironment environment = false) :
    policy.ruleEnvironment = none ↔ Unscoped policy := by
  unfold ruleEnvironment Unscoped
  unfold otherEnvironment at hother
  cases (PyDict.get policy.condition "environment").str? with
  | some name => simp
  | none =>
    cases henv : policy.metadataEnvironment with
    | none => simp [PyValue.str?]
    | str name => simp [PyValue.str?]
    | _ => simp [henv] at hother

theorem ruleDecision_eq_deny_iff {policy : PolicyRow} :
    policy.ruleDecision = .deny ↔ policy.decision = "deny" := by
  unfold ruleDecision
  constructor
  · intro h
    cases htext : Decision.ofText? policy.decision with
    | none =>
      rw [htext] at h
      cases h
    | some d =>
      rw [htext] at h
      have hd : d = .deny := h
      rw [Decision.value_of_ofText? htext, hd]
      rfl
  · intro h
    rw [h]
    rfl

section

variable {py : Builtins} {policies : Table PolicyRow} {c : GovernedCall} {environment : String}
  {id : Nat} {tool : ToolRow}

/-- A policy that can be read gives a rule that denies the call exactly when it denies the call
and has no environment. -/
theorem denying_rule_iff (henv : c.context.environment = some environment) {policyId : Nat}
    {policy : PolicyRow} (hget : policies.get? policyId = some policy)
    (hof : policy.ofProject c.context.tenantId c.context.projectId = true)
    (hread : ¬ policy.Unreadable py c.context.environment) :
    (∃ rule, loaded (workerRule py c.context.environment) (policyId, policy) = some rule ∧
        rule.matchesRequest
          (toolRequest (tool.definition id c.handler) c.context c.actorId) = true ∧
        rule.decision = .deny) ↔
      Denies py policies c.context id tool policy ∧ Unscoped policy := by
  constructor
  · rintro ⟨rule, hloaded, hmatch, hdeny⟩
    have hworker : workerRule py c.context.environment (policyId, policy) = .ok (some rule) := by
      unfold loaded at hloaded
      split at hloaded
      · rename_i r hr
        rw [hr, hloaded]
      · cases hloaded
    obtain ⟨_, hother, resourceId, hresource, rfl⟩ := workerRule_eq_some_iff.mp hworker
    rw [henv] at hother
    obtain ⟨htype, haction, _, _, hscope, hrisk, hid⟩ := (matchesRequest_iff _ _).mp hmatch
    have hnone : policy.ruleEnvironment = none := by
      cases hrule : policy.ruleEnvironment with
      | none => rfl
      | some name => exact absurd (hscope name hrule) (by simp [toolRequest])
    refine ⟨⟨⟨policyId, hget⟩, hof, ruleDecision_eq_deny_iff.mp hdeny, htype, haction, ?_, ?_⟩,
      (ruleEnvironment_eq_none_iff hother).mp hnone⟩
    · intro n hn
      rw [hresource] at hn
      exact (Option.some.inj (hid n (Except.ok.inj hn))).symm
    · intro level hlevel
      exact (Option.some.inj (hrisk level hlevel)).symm
  · rintro ⟨hdenies, hunscoped⟩
    have hother : policy.otherEnvironment environment = false := by
      unfold otherEnvironment
      rw [hunscoped.1]
    have hany : (c.context.environment.any fun name => policy.otherEnvironment name) = false := by
      rw [henv, Option.any_some, hother]
    simp only [ofProject, Bool.and_eq_true, beq_iff_eq] at hof
    cases hresource : intOrNone py (PyDict.get policy.condition "resource_id") with
    | error e => exact absurd (.inr ⟨hany, e, hresource⟩) hread
    | ok resourceId =>
      have hworker : workerRule py c.context.environment (policyId, policy) =
          .ok (some (policy.ruleWith py policyId resourceId)) :=
        workerRule_eq_some_iff.mpr
          ⟨by rw [hunscoped.1]; simp [PyValue.hashable], hany, resourceId, hresource, rfl⟩
      refine ⟨_, by unfold loaded; rw [hworker], (matchesRequest_iff _ _).mpr
        ⟨hdenies.resourceType, hdenies.action, ?_, ?_, ?_, ?_, ?_⟩,
        ruleDecision_eq_deny_iff.mpr hdenies.decision⟩
      · intro t ht
        rw [← Option.some.inj ht]
        exact hof.1.1.1.symm
      · intro p hp
        exact hof.1.1.2.symm.trans hp
      · intro name hname
        cases ((ruleEnvironment_eq_none_iff hother).mpr hunscoped).symm.trans hname
      · intro level hlevel
        rw [hdenies.riskLevel level hlevel]
        rfl
      · intro n hn
        rw [hdenies.resourceId n (by rw [hresource]; exact congrArg _ hn)]
        rfl

variable (id tool) in
/-- The engine denies the call exactly when a policy without an environment does. -/
theorem denied_iff (henv : c.context.environment = some environment)
    (hread : ∀ policyId policy, policies.get? policyId = some policy →
      policy.ofProject c.context.tenantId c.context.projectId = true →
      ¬ policy.Unreadable py c.context.environment) :
    has .deny (matching ((inOrder policies
          (ofProject c.context.tenantId c.context.projectId)).filterMap
          (loaded (workerRule py c.context.environment)))
        (toolRequest (tool.definition id c.handler) c.context c.actorId)) = true ↔
      ∃ policy, Denies py policies c.context id tool policy ∧ Unscoped policy := by
  rw [has_eq_true]
  constructor
  · rintro ⟨rule, hrule, hdeny⟩
    obtain ⟨hmem, hmatch⟩ := List.mem_filter.mp hrule
    obtain ⟨⟨policyId, policy⟩, hstored, hloaded⟩ := List.mem_filterMap.mp hmem
    obtain ⟨hget, hof⟩ := mem_inOrder.mp hstored
    exact ⟨policy, (denying_rule_iff henv hget hof (hread policyId policy hget hof)).mp
      ⟨rule, hloaded, hmatch, hdeny⟩⟩
  · rintro ⟨policy, hdenies⟩
    obtain ⟨policyId, hget⟩ := hdenies.1.stored
    have hof := hdenies.1.active
    obtain ⟨rule, hloaded, hmatch, hdeny⟩ :=
      (denying_rule_iff henv hget hof (hread policyId policy hget hof)).mpr hdenies
    have hmem := List.mem_filterMap.mpr ⟨_, mem_inOrder.mpr ⟨hget, hof⟩, hloaded⟩
    exact ⟨rule, List.mem_filter.mpr ⟨hmem, hmatch⟩, hdeny⟩

/-- Some policy of the project cannot be read. -/
def SomeUnreadable (py : Builtins) (policies : Table PolicyRow) (context : RuntimeContext) : Prop :=
  ∃ policyId policy, policies.get? policyId = some policy ∧
    policy.ofProject context.tenantId context.projectId = true ∧
    policy.Unreadable py context.environment

/-- A call of a tool that is there is refused exactly when the policies cannot be read or one
without an environment denies it. -/
theorem refused_iff (now : Instant) (tools : Table ToolRow) (s : Effects ApprovalTables)
    (henv : c.context.environment = some environment)
    (hfind : (tools.find? fun row => row.named c.name c.context) = some (id, tool)) :
    Refused (governedToolCall py now policies tools c s) s ↔ SomeUnreadable py policies c.context ∨
        ∃ policy, Denies py policies c.context id tool policy ∧ Unscoped policy := by
  by_cases hunreadable : SomeUnreadable py policies c.context
  · obtain ⟨policyId, policy, hget, hof, hbad⟩ := hunreadable
    refine iff_of_true ?_ (Or.inl ⟨policyId, policy, hget, hof, hbad⟩)
    unfold Refused governedToolCall
    cases hrules : policyRules py policies c.context.tenantId c.context.projectId
        c.context.environment with
    | ok rules => exact absurd hbad ((policyRules_eq_ok_iff.mp hrules).1 policyId policy hget hof)
    | error e => exact ⟨⟨_, rfl⟩, rfl⟩
  · have hread : ∀ policyId policy, policies.get? policyId = some policy →
        policy.ofProject c.context.tenantId c.context.projectId = true →
        ¬ policy.Unreadable py c.context.environment := fun policyId policy hget hof hbad =>
      hunreadable ⟨policyId, policy, hget, hof, hbad⟩
    have hscope := inScope_of_named (Table.find?_eq_some hfind).2 id c.handler
    have hdenied := denied_iff id tool henv hread
    rw [← verdict_eq_deny_iff py, ← decision_evaluate] at hdenied
    rw [← hdenied, or_iff_right hunreadable]
    unfold Refused governedToolCall
    rw [policyRules_eq_ok_iff.mpr ⟨hread, rfl⟩]
    dsimp only
    rw [callByName_of_find? py (ApprovalTables.createApproval now) _ hfind]
    rw [← callTool_refused_iff py (ApprovalTables.createApproval now) _ hscope c.arguments
      c.actorId s]
    cases (callTool py (ApprovalTables.createApproval now) _ _ c.arguments c.context c.actorId s).1
      <;> simp [Except.mapError]

end

/-- A denial for the environment of a run is enforced exactly when some denial without an
environment makes up for it, or nothing is loaded. -/
theorem denial_enforced_iff (py : Builtins) (now : Instant) (policies : Table PolicyRow)
    (tools : Table ToolRow) (c : GovernedCall) (s : Effects ApprovalTables) (environment : String)
    (henv : c.context.environment = some environment) :
    DenialEnforced py now policies tools c s environment ↔
      ∀ id tool, (tools.find? fun row => row.named c.name c.context) = some (id, tool) →
        (∃ policy, Denies py policies c.context id tool policy ∧
          policy.ruleEnvironment = some environment) →
        SomeUnreadable py policies c.context ∨
          ∃ policy, Denies py policies c.context id tool policy ∧ Unscoped policy := by
  constructor
  · intro henforced id tool hfind hscoped
    exact (refused_iff now tools s henv hfind).mp (henforced id tool hfind hscoped)
  · intro hcover id tool hfind hscoped
    exact (refused_iff now tools s henv hfind).mpr (hcover id tool hfind hscoped)

/-- A policy that denies tool calls, in one environment or in all. -/
def denyTools (environment : PyDict) : PolicyRow where
  tenantId := 1
  projectId := some 1
  resourceType := "tool"
  action := "call"
  decision := "deny"
  metadata := environment

/-- A tool of the same project. -/
def searchTool : ToolRow where
  tenantId := 1
  projectId := some 1
  name := "search"
  riskLevel := "read"
  status := "active"
  isDeleted := false

/-- A call of it in `prod`. -/
def searchInProd : GovernedCall where
  name := "search"
  arguments := []
  context := { tenantId := 1, projectId := some 1, runId := 1, environment := some "prod" }
  actorId := none
  handler _ := .ok []

theorem denies_denyTools {policies : Table PolicyRow} (id : Nat) {metadata : PyDict}
    (hstored : policies.get? id = some (denyTools metadata)) :
    Denies .simple policies searchInProd.context 1 searchTool (denyTools metadata) where
  stored := ⟨id, hstored⟩
  active := rfl
  decision := rfl
  resourceType := rfl
  action := rfl
  resourceId _ hn := nomatch hn
  riskLevel _ hlevel := nomatch hlevel

/-- With a denial for every environment beside the one for `prod` the call is refused. -/
theorem denial_enforced_iff_unscoped :
    let policies : Table PolicyRow :=
      ⟨[denyTools [("_environment", .str "prod")], denyTools []]⟩
    (∃ policy, Denies .simple policies searchInProd.context 1 searchTool policy ∧
      policy.ruleEnvironment = some "prod") ∧
    DenialEnforced .simple 0 policies ⟨[searchTool]⟩ searchInProd ⟨[], {}, []⟩ "prod" := by
  intro policies
  refine ⟨⟨_, denies_denyTools 1 rfl, rfl⟩,
    (denial_enforced_iff .simple 0 _ _ searchInProd _ "prod" rfl).mpr fun id tool hfind _ => ?_⟩
  have hsame := Option.some.inj hfind
  cases hsame
  exact .inr ⟨denyTools [], denies_denyTools 2 rfl, rfl, rfl⟩

/-- A denial for `prod` does not stop a call in `prod`. -/
theorem denial_for_environment_ignored :
    ¬ DenialEnforced .simple 0 ⟨[denyTools [("_environment", .str "prod")]]⟩ ⟨[searchTool]⟩
      searchInProd ⟨[], {}, []⟩ "prod" := by
  intro h
  obtain ⟨_, hhandled⟩ := h 1 searchTool rfl
    ⟨denyTools [("_environment", .str "prod")], denies_denyTools 1 rfl, rfl⟩
  have hlength := congrArg List.length hhandled
  revert hlength
  decide +kernel

end DimooRun.Worker
