/-
  Costs/Blocking.lean --- when a budget blocks.

  What applies is said without NULL logic, and spend as a plain sum over the usage of the
  runs. The statement that selects the policies compares with NULL, so policies for every
  project, for every environment or for a whole project or environment are never selected.
-/
import DimooRun.Costs.Attribution

set_option autoImplicit false

namespace DimooRun.Costs

open Foundation
open Scheduler (Time)

/-! ## What applies -/

/-- The type and the reference match the request; without a reference, a budget of a tenant,
project or environment is for all of it. -/
inductive ScopeMatches (request : BudgetRequest) (policy : CostBudgetPolicy) : Prop where
  | tenant (htype : policy.scopeType = "tenant")
      (href : policy.scopeRef = none ∨ policy.scopeRef = some (toString request.tenantId))
  | project (htype : policy.scopeType = "project")
      (href : policy.scopeRef = none ∨ policy.scopeRef = some (toString request.projectId))
  | environment (htype : policy.scopeType = "environment")
      (href : policy.scopeRef = none ∨ policy.scopeRef = some request.environment)
  | agent (htype : policy.scopeType = "agent")
      (href : policy.scopeRef = some (toString request.agentId))
  | deployment (htype : policy.scopeType = "deployment")
      (href : policy.scopeRef = some (toString request.deploymentId))

/-- An active policy of the tenant that applies to the request. -/
structure Applies (request : BudgetRequest) (policy : CostBudgetPolicy) : Prop where
  tenant : policy.tenantId = request.tenantId
  live : policy.isDeleted = false
  active : policy.status = "active"
  project : policy.projectId = none ∨ policy.projectId = some request.projectId
  environment : policy.environment = none ∨ policy.environment = some request.environment
  scope : ScopeMatches request policy

section

variable (arith : Arithmetic) (runtime : CostRuntime) (deployments : Table CostDeployment)
  (request : BudgetRequest) (now : Time) (policy : CostBudgetPolicy)

/-- The usage is of the agent or deployment that the budget is for. -/
def ofScope (usage : Usage) : Bool :=
  (policy.scopeType != "agent" || usage.run.agentId == request.agentId) &&
    (policy.scopeType != "deployment" || usage.run.deploymentId == some request.deploymentId)

/-- The spend of a policy since a time. -/
def spend (windowStart : Time) : ℚ :=
  (((usages arith runtime).filter fun usage =>
    inWindow deployments request.tenantId request.projectId (effectiveEnvironment request policy)
      windowStart usage && ofScope request policy usage).map Usage.cost).sum

/-- The spend of the policy in its window has reached the threshold. -/
def Reached : Prop :=
  ∃ n, windowDaysOf policy.resetWindow = some n ∧
    policy.thresholdUsd ≤ spend arith runtime deployments request policy (now - days n)

/-- The policy applies, is no warning, and its spend has reached its threshold. -/
structure Due : Prop where
  applies : Applies request policy
  action : policy.actionMode ≠ "warn"
  reached : Reached arith runtime deployments request now policy

end

/-- A whole number of millionths: what `round(x, 6)` leaves as it is. -/
def Millionths (x : ℚ) : Prop := ∃ n : Int, x = n / 1000000

theorem Millionths.round6 {x : ℚ} (h : Millionths x) : round6 x = x := by
  obtain ⟨n, rfl⟩ := h
  have hwhole : (n / 1000000 * 1000000 : ℚ) = n := div_mul_cancel₀ _ (by norm_num)
  simp [Costs.round6, roundHalfEven, hwhole]

/-- Rounding may carry a cost of other digits over a threshold. -/
example : round6 (99999996 / 10000000) = 10 := by decide +kernel

theorem Millionths.sum {costs : List ℚ} (h : ∀ x ∈ costs, Millionths x) : Millionths costs.sum := by
  induction costs with
  | nil => exact ⟨0, by simp⟩
  | cons x rest ih =>
    obtain ⟨⟨n, hn⟩, hrest⟩ := List.forall_mem_cons.mp h
    obtain ⟨m, hm⟩ := ih hrest
    exact ⟨n + m, by rw [List.sum_cons, hn, hm, ← add_div, Int.cast_add]⟩

/-! ## Selection -/

variable {n id : Nat} {policy : CostBudgetPolicy} {request : BudgetRequest} {arith : Arithmetic}
  {runtime : CostRuntime} {deployments : Table CostDeployment} {now : Time}

/-- The policies that the statement can select: it selects no NULL where it compares. -/
structure Visible (policy : CostBudgetPolicy) : Prop where
  project : policy.projectId ≠ none
  environment : policy.environment ≠ none
  tenant : policy.scopeType = "tenant" → policy.scopeRef = none
  whole : policy.scopeType = "project" ∨ policy.scopeType = "environment" → policy.scopeRef ≠ none

theorem scopeCondition_holds_iff (request : BudgetRequest) (policy : CostBudgetPolicy) :
    (scopeCondition request policy).holds = true ↔
      ScopeMatches request policy ∧ (policy.scopeType = "tenant" → policy.scopeRef = none) ∧
        (policy.scopeType = "project" ∨ policy.scopeType = "environment" →
          policy.scopeRef ≠ none) := by
  simp only [scopeCondition, Condition.holds_or, Condition.holds_and, Bool.or_eq_true,
    Bool.and_eq_true, Condition.holds_equal_some, Condition.holds_isIn, Condition.holds_isNull,
    Option.some.injEq, Option.isNone_iff_eq_none, List.mem_cons,
    List.not_mem_nil, or_false, reduceCtorEq, false_or]
  constructor
  · rintro ((((⟨htype, href⟩ | ⟨htype, ref, href, hsame⟩) | ⟨htype, ref, href, hsame⟩) |
      ⟨htype, href⟩) | ⟨htype, href⟩)
    · exact ⟨.tenant htype (Or.inl href), fun _ => href, by simp [htype]⟩
    · subst hsame
      exact ⟨.project htype (Or.inr href), by simp [htype], by simp [href]⟩
    · subst hsame
      exact ⟨.environment htype (Or.inr href), by simp [htype], by simp [href]⟩
    · exact ⟨.agent htype href, by simp [htype], by simp [htype]⟩
    · exact ⟨.deployment htype href, by simp [htype], by simp [htype]⟩
  · rintro ⟨hscope, htenant, hwhole⟩
    cases hscope with
    | tenant htype href => exact .inl (.inl (Or.inl (Or.inl ⟨htype, htenant htype⟩)))
    | project htype href =>
      rcases href with href | href
      · exact absurd href (hwhole (Or.inl htype))
      · exact .inl (.inl (Or.inl (Or.inr ⟨htype, _, href, rfl⟩)))
    | environment htype href =>
      rcases href with href | href
      · exact absurd href (hwhole (Or.inr htype))
      · exact .inl (.inl (Or.inr ⟨htype, _, href, rfl⟩))
    | agent htype href => exact .inl (.inr ⟨htype, href⟩)
    | deployment htype href => exact .inr ⟨htype, href⟩

theorem policyCondition_holds_iff (request : BudgetRequest) (policy : CostBudgetPolicy) :
    (policyCondition request policy).holds = true ↔ Applies request policy ∧ Visible policy := by
  simp only [policyCondition, Condition.holds_and, Bool.and_eq_true, scopeCondition_holds_iff,
    Condition.holds_equal_some, Condition.holds_isIn, Condition.holds_some, Bool.not_eq_true',
    Option.some.injEq, List.mem_cons, List.not_mem_nil, or_false, reduceCtorEq]
  constructor
  · rintro ⟨⟨⟨⟨⟨htenant, hlive⟩, hactive⟩, project, hproject, hsame⟩, environment, henvironment,
      hsame'⟩, hscope, htenantRef, hwhole⟩
    subst hsame hsame'
    refine ⟨⟨htenant, hlive, hactive, Or.inr hproject, Or.inr henvironment, hscope⟩, ?_, ?_,
      htenantRef, hwhole⟩
    · simp [hproject]
    · simp [henvironment]
  · rintro ⟨happlies, hvisible⟩
    refine ⟨⟨⟨⟨⟨happlies.tenant, happlies.live⟩, happlies.active⟩, ?_⟩, ?_⟩, happlies.scope,
      hvisible.tenant, hvisible.whole⟩
    · exact ⟨_, happlies.project.resolve_left hvisible.project, rfl⟩
    · exact ⟨_, happlies.environment.resolve_left hvisible.environment, rfl⟩

theorem mem_selectedPolicies {policies : Table CostBudgetPolicy} :
    (id, policy) ∈ selectedPolicies policies request ↔
      policies.get? id = some policy ∧ Applies request policy ∧ Visible policy := by
  unfold selectedPolicies
  rw [Table.mem_select, policyCondition_holds_iff]

/-! ## The loop -/

section

variable (arith : Arithmetic) (channels : Table NotificationChannel) (runtime : CostRuntime)
  (deployments : Table CostDeployment) (request : BudgetRequest) (now : Time)

/-- The policy blocks: it is no warning, and it would trigger. -/
def blocks (policy : CostBudgetPolicy) : Prop :=
  policy.actionMode ≠ "warn" ∧
    ∃ preview, policyPreview arith runtime deployments request now policy = .ok preview ∧
      preview.wouldTrigger = true

theorem isSome_addHit (decision : CostBudgetEnforcementDecision) (hit : CostBudgetPolicyHit) :
    (addHit decision hit).blockingPolicy.isSome = true ↔
      decision.blockingPolicy.isSome = true ∨ hit.actionMode ≠ "warn" := by
  unfold addHit
  by_cases hwarn : hit.actionMode = "warn"
  · simp [hwarn]
  · cases hblocking : decision.blockingPolicy with
    | none => simp [hwarn]
    | some first => simp [hwarn, hblocking]

theorem policyPreview_isOk (policy : CostBudgetPolicy) :
    (∃ preview, policyPreview arith runtime deployments request now policy = .ok preview) ↔
      windowDaysOf policy.resetWindow ≠ none := by
  unfold policyPreview buildBudgetPreview
  dsimp only
  cases windowDaysOf policy.resetWindow <;> simp

/-- The loop ends with a blocking policy if every window is known and there was one before or
one of the list blocks. An unknown window ends it with an exception. -/
theorem evaluatePolicies_blocks_iff (selected : List (Nat × CostBudgetPolicy))
    (decision : CostBudgetEnforcementDecision) :
    (∃ decision', evaluatePolicies arith channels runtime deployments request now decision
        selected = .ok decision' ∧ decision'.blockingPolicy.isSome = true) ↔
      (∀ e ∈ selected, windowDaysOf e.2.resetWindow ≠ none) ∧
        (decision.blockingPolicy.isSome = true ∨
          ∃ e ∈ selected, blocks arith runtime deployments request now e.2) := by
  induction selected generalizing decision with
  | nil => simp [evaluatePolicies]
  | cons e rest ih =>
    obtain ⟨id, policy⟩ := e
    have hisOk := policyPreview_isOk arith runtime deployments request now policy
    unfold evaluatePolicies
    cases hpreview : policyPreview arith runtime deployments request now policy with
    | error error =>
      have hnone : windowDaysOf policy.resetWindow = none := by simpa [hpreview] using hisOk
      simp [hnone]
    | ok preview =>
      have hhere : blocks arith runtime deployments request now policy ↔
          policy.actionMode ≠ "warn" ∧ preview.wouldTrigger = true := by
        simp [blocks, hpreview]
      simp only [ih, List.forall_mem_cons, List.exists_mem_cons_iff, hhere,
        hisOk.mp ⟨preview, hpreview⟩, true_and, ne_eq, not_false_eq_true, ← or_assoc]
      refine and_congr_right fun _ => or_congr_left ?_
      cases htrigger : preview.wouldTrigger with
      | false => simp
      | true => simp [isSome_addHit, hitOf]

end

/-! ## Previews -/

theorem toString_inj {m : Nat} (h : toString m = toString n) : m = n := by
  have hm := parseInt_toString (m : Int)
  have hn := parseInt_toString (n : Int)
  rw [show toString (m : Int) = toString m from rfl] at hm
  rw [show toString (n : Int) = toString n from rfl, ← h, hm] at hn
  exact Int.ofNat.inj (Option.some.inj hn)

theorem toString_ne_unbound (n : Nat) : toString n ≠ "unbound" := by
  intro h
  have hread := parseInt_toString (n : Int)
  rw [show toString (n : Int) = toString n from rfl, h] at hread
  cases hread

/-- The keys that a budget counts. -/
def keyCounts (request : BudgetRequest) (policy : CostBudgetPolicy) (key : String) : Bool :=
  (policy.scopeType != "agent" || key == toString request.agentId) &&
    (policy.scopeType != "deployment" || key == toString request.deploymentId)

theorem filterBreakdown_eq (h : ScopeMatches request policy) (items : List BreakdownItem) :
    filterBreakdown items policy.scopeType policy.scopeRef =
      items.filter fun item => keyCounts request policy item.key := by
  have hall : (fun item : BreakdownItem => keyCounts request policy item.key) =
      (fun _ => true) → items = items.filter fun item => keyCounts request policy item.key := by
    intro htrue
    rw [htrue, List.filter_true]
  unfold filterBreakdown
  cases h with
  | tenant htype href | project htype href | environment htype href =>
    have hitems := hall (by simp [keyCounts, htype])
    rcases href with href | href <;> rw [href, htype] <;> exact hitems
  | agent htype href | deployment htype href => simp [href, htype, keyCounts]

/-- Of whole millionths, the rounded totals of the groups add up to the cost of the rows. -/
theorem sum_rounded {rows : List CostUsageRow} (hwhole : ∀ row ∈ rows, Millionths row.costUsd)
    (groupBy : CostGroupBy) (p : String → Bool) :
    (((sortedGroups groupBy rows).filter fun g => p g.1).map
        fun g => round6 (costTotals g.2).totalCostUsd).sum =
      ((rows.filter fun row => p (groupKey groupBy row)).map CostUsageRow.costUsd).sum := by
  have hgrouped := grouped_sortedGroups groupBy rows
  rw [← hgrouped.sum CostUsageRow.costUsd p]
  refine congrArg List.sum (List.map_congr_left fun g hg => Millionths.round6 (.sum ?_))
  rw [hgrouped.parts g (List.mem_of_mem_filter hg)]
  exact List.forall_mem_map.mpr fun row hrow => hwhole row (List.mem_of_mem_filter hrow)

theorem pos_of_mem_scopedDeployments {tenantId projectId : Int} {environment : String}
    (h : id ∈ scopedDeployments deployments tenantId projectId environment) :
    id ≠ 0 := by
  rintro rfl
  obtain ⟨⟨id, deployment⟩, hin, rfl⟩ := List.mem_map.mp h
  cases (Table.mem_select.mp hin).1

/-- The key of a row says whether the budget counts the usage. -/
theorem keyCounts_rowOf {tenantId projectId : Int} {environment : String} {windowStart : Time}
    {usage : Usage}
    (hin : inWindow deployments tenantId projectId environment windowStart usage = true)
    (request : BudgetRequest) (policy : CostBudgetPolicy) :
    keyCounts request policy (groupKey (groupByForScope policy.scopeType) (rowOf usage)) =
      ofScope request policy usage := by
  have hruns : runsIn deployments tenantId projectId environment usage.run = true := by
    simp only [inWindow, runInWindow, Bool.and_eq_true] at hin
    exact hin.2.2
  by_cases hdeployment : policy.scopeType = "deployment"
  · have hkey : groupKey .deployment (rowOf usage) = toString request.deploymentId ↔
        usage.run.deploymentId = some request.deploymentId := by
      cases hid : usage.run.deploymentId with
      | none =>
        have hne := (toString_ne_unbound request.deploymentId).symm
        simpa [groupKey, rowOf, hid] using hne
      | some id =>
        have hmem : id ∈ scopedDeployments deployments tenantId projectId environment := by
          simpa [runsIn, hid] using hruns
        cases id with
        | zero => exact absurd rfl (pos_of_mem_scopedDeployments hmem)
        | succ n =>
          simp only [groupKey, rowOf, hid, Option.some.injEq]
          exact ⟨toString_inj, fun h => by rw [h]⟩
    simp [keyCounts, ofScope, groupByForScope, hdeployment, hkey, -Nat.toString_eq_repr]
  · by_cases hagent : policy.scopeType = "agent"
    · have hkey : groupKey .agent (rowOf usage) = toString request.agentId ↔
          usage.run.agentId = request.agentId :=
        ⟨toString_inj, fun h => by rw [← h]; rfl⟩
      simp [keyCounts, ofScope, groupByForScope, hagent, hkey, -Nat.toString_eq_repr]
    · simp [keyCounts, ofScope, bne_iff_ne.mpr hagent, bne_iff_ne.mpr hdeployment]

section

variable (hwhole : ∀ usage ∈ usages arith runtime, Millionths usage.cost)

include hwhole

/-- The current spend of a preview is the spend of the policy. -/
theorem round_spend (hscope : ScopeMatches request policy) :
    round6 ((filterBreakdown (buildCostAttributionSummary arith runtime deployments
        request.tenantId request.projectId (effectiveEnvironment request policy) n
        (groupByForScope policy.scopeType) now).breakdown
        policy.scopeType policy.scopeRef).map fun item => item.totals.totalCostUsd).sum =
      spend arith runtime deployments request policy (now - days n) := by
  have hrows : ∀ row ∈ ((usages arith runtime).filter (inWindow deployments request.tenantId
      request.projectId (effectiveEnvironment request policy) (now - days n))).map rowOf,
      Millionths row.costUsd :=
    List.forall_mem_map.mpr fun usage husage => hwhole usage (List.mem_of_mem_filter husage)
  have hspend : Millionths (spend arith runtime deployments request policy (now - days n)) :=
    .sum (List.forall_mem_map.mpr fun usage husage => hwhole usage (List.mem_of_mem_filter husage))
  refine Eq.trans (congrArg round6 ?_) hspend.round6
  rw [filterBreakdown_eq hscope]
  simp only [buildCostAttributionSummary, exactSummary, loadCostRows_eq, List.map_map,
    List.filter_map]
  refine (sum_rounded hrows _ (keyCounts request policy)).trans ?_
  rw [List.filter_map, List.map_map, List.filter_filter]
  refine congrArg (fun list : List Usage => (list.map Usage.cost).sum) ?_
  refine List.filter_congr fun usage _ => ?_
  cases hin : inWindow deployments request.tenantId request.projectId
      (effectiveEnvironment request policy) (now - days n) usage with
  | false => rw [Bool.and_false, Bool.false_and]
  | true => rw [Bool.and_true, Bool.true_and, Function.comp_apply, keyCounts_rowOf hin]

/-- The preview of a policy that applies compares the threshold with its spend. -/
theorem policyPreview_triggers_iff (hscope : ScopeMatches request policy) :
    (∃ preview, policyPreview arith runtime deployments request now policy = .ok preview ∧
      preview.wouldTrigger = true) ↔ Reached arith runtime deployments request now policy := by
  unfold Reached policyPreview buildBudgetPreview
  dsimp only
  cases windowDaysOf policy.resetWindow with
  | none => simp
  | some n => simp [round_spend hwhole hscope]

theorem blocks_iff_due (happlies : Applies request policy) :
    blocks arith runtime deployments request now policy ↔
      Due arith runtime deployments request now policy := by
  constructor
  · rintro ⟨haction, htriggers⟩
    exact ⟨happlies, haction, (policyPreview_triggers_iff hwhole happlies.scope).mp htriggers⟩
  · intro hdue
    exact ⟨hdue.action, (policyPreview_triggers_iff hwhole happlies.scope).mpr hdue.reached⟩

end

/-! ## Blocking -/

section

variable (arith : Arithmetic) (channels : Table NotificationChannel)
  (policies : Table CostBudgetPolicy) (runtime : CostRuntime)
  (deployments : Table CostDeployment) (request : BudgetRequest) (now : Time)

/-- A blocking policy is reported. -/
def Reports : Prop :=
  ∃ decision, evaluatePersistedBudgetPolicies arith channels (some policies) runtime deployments
      request now = .ok decision ∧ decision.blockingPolicy.isSome = true

/-- A stored policy is due. -/
def SomeDue : Prop :=
  ∃ id policy, policies.get? id = some policy ∧ Due arith runtime deployments request now policy

/-- One that the statement can select is due, and none that it selects has an unknown window. -/
def DueInView : Prop :=
  (∃ id policy, policies.get? id = some policy ∧
    Due arith runtime deployments request now policy ∧ Visible policy) ∧
  ∀ id policy, policies.get? id = some policy → Applies request policy → Visible policy →
    windowDaysOf policy.resetWindow ≠ none

variable (hwhole : ∀ usage ∈ usages arith runtime, Millionths usage.cost)

include hwhole

theorem reports_iff : Reports arith channels policies runtime deployments request now ↔
      DueInView arith policies runtime deployments request now := by
  refine (evaluatePolicies_blocks_iff arith channels runtime deployments request now
    (selectedPolicies policies request) {}).trans ?_
  simp only [Prod.forall, Prod.exists, mem_selectedPolicies, Option.isSome_none, false_or,
    Bool.false_eq_true, and_imp]
  rw [and_comm]
  refine and_congr_left fun _ => exists₂_congr fun id policy => ?_
  constructor
  · rintro ⟨⟨hget, happlies, hvisible⟩, hblocks⟩
    exact ⟨hget, (blocks_iff_due hwhole happlies).mp hblocks, hvisible⟩
  · rintro ⟨hget, hdue, hvisible⟩
    exact ⟨⟨hget, hdue.applies, hvisible⟩, (blocks_iff_due hwhole hdue.applies).mpr hdue⟩

end

/-! ### A budget for every environment -/

/-- No float and no text is read. -/
def noFloats : Arithmetic where
  value _ := 0
  read _ := none

/-- The daily budget of a project, for every environment. -/
def everyEnvironment : CostBudgetPolicy where
  tenantId := 1
  projectId := some 1
  name := "project-cap"
  environment := none
  scopeType := "project"
  scopeRef := some "1"
  thresholdUsd := 10
  resetWindow := "daily"
  channelId := 1
  actionMode := "reject"

/-- A run in production that cost twelve. -/
def costlyRun : CostRuntime :=
  .database
    { runs := [{ id := 1, tenantId := 1, projectId := 1, agentId := 1, deploymentId := some 1,
                 createdAt := 0 }]
      nodup := by decide }
    [{ tenantId := 1, projectId := some 1, runId := 1, model := "small", cost := 12,
       createdAt := 0 }]

/-- The deployment of the run. -/
def production : Table CostDeployment :=
  ⟨[{ tenantId := 1, projectId := 1, environment := "production" }]⟩

def nextTask : BudgetRequest where
  tenantId := 1
  projectId := 1
  environment := "production"
  agentId := 1
  deploymentId := 1

theorem millionths_costlyRun : ∀ usage ∈ usages noFloats costlyRun, Millionths usage.cost := by
  refine List.forall_mem_singleton.mpr ⟨12000000, ?_⟩
  decide +kernel

theorem everyEnvironment_due :
    Due noFloats costlyRun production nextTask 0 everyEnvironment where
  applies :=
    { tenant := rfl
      live := rfl
      active := rfl
      project := Or.inr rfl
      environment := Or.inl rfl
      scope := .project rfl (Or.inr rfl) }
  action := by decide
  reached := ⟨1, rfl, by decide +kernel⟩

end DimooRun.Costs
