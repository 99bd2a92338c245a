/-
  Costs/Budgets.lean --- spend, budgets and the policies that block.

  Sources: costs/attribution.py, budget_policy.py and enforcement.py.

  Amounts are rationals. What depends on the texts of binary floats is a parameter: the
  value of a float and what `float` reads. `round(x, 6)` is that of exact arithmetic. The
  usage of a run is what its output says in the in-memory store, and its snapshots in the
  database. Labels, latest runs and quality gates of the breakdown are left out.
-/
import Mathlib.Algebra.BigOperators.Group.List.Basic
import Mathlib.Data.List.Dedup
import Mathlib.Data.List.Sort
import Mathlib.Data.Rat.Floor
import DimooRun.Foundation.Json
import DimooRun.Foundation.Table
import DimooRun.Scheduler.Lifecycle

set_option autoImplicit false

namespace DimooRun.Costs

open Foundation
open DimooRun.Runtime (RunStatus)
open Scheduler (Time)

section

/-- What floats are: the value of a float text, and what `float` makes of a string. -/
structure Arithmetic where
  value : String → ℚ
  read : String → Option ℚ

/-- The nearest integer; of two, the even one. -/
def roundHalfEven (x : ℚ) : Int :=
  if x - ⌊x⌋ < 1 / 2 ∨ (x - ⌊x⌋ = 1 / 2 ∧ ⌊x⌋ % 2 = 0) then ⌊x⌋ else ⌊x⌋ + 1

/-- `round(x, 6)`. -/
def round6 (x : ℚ) : ℚ := roundHalfEven (x * 1000000) / 1000000

/-! ## Usage -/

/-- A run, as far as costs are read. -/
structure CostRun where
  id : Nat
  tenantId : Int
  projectId : Int
  agentId : Nat
  deploymentId : Option Nat
  status : RunStatus := .succeeded
  createdAt : Time
  output : PyValue := .none

/-- `ModelUsageSnapshot`. -/
structure UsageSnapshot where
  tenantId : Int
  projectId : Option Int
  runId : Nat
  provider : Option String := none
  model : String
  totalTokens : Int := 0
  cost : ℚ := 0
  createdAt : Time

/-- The runs of a store; the id of a run is its key. -/
structure RunHistory where
  runs : List CostRun
  nodup : (runs.map CostRun.id).Nodup

/-- The stores of the native runtime. -/
inductive CostRuntime where
  | memory (history : RunHistory)
  | database (history : RunHistory) (snapshots : List UsageSnapshot)

/-- A deployment, as far as costs are read. -/
structure CostDeployment where
  tenantId : Int
  projectId : Int
  environment : String
  isDeleted : Bool := false

/-- `CostUsageRow`. -/
structure CostUsageRow where
  runId : Nat
  agentId : Nat
  deploymentId : Option Nat
  provider : Option String
  model : Option String
  costUsd : ℚ
  totalTokens : Int
  status : RunStatus
  createdAt : Time

section

variable (arith : Arithmetic) (runtime : CostRuntime) (deployments : Table CostDeployment)
  (tenantId projectId : Int)

/-- `_float_value`. -/
def floatValue : PyValue → ℚ
  | .int n => n
  | .float text => arith.value text
  | .str s => (arith.read s).getD 0
  | _ => 0

/-- `int` of a float, towards zero. -/
def truncate (x : ℚ) : Int := x.num.tdiv x.den

/-- `_int_value`. -/
def intValue : PyValue → Int
  | .int n => n
  | .float text => truncate (arith.value text)
  | .str s => (parseInt s.toList).getD 0
  | _ => 0

/-- `_string_value`. -/
def stringValue : PyValue → Option String
  | .str s => if s = "" then none else some s
  | _ => none

/-- The ids of the deployments of a project in an environment. -/
def scopedDeployments (environment : String) : List Nat :=
  (deployments.select fun deployment =>
    !deployment.isDeleted && deployment.tenantId == tenantId &&
      deployment.projectId == projectId && deployment.environment == environment).map Prod.fst

/-- `timedelta(days=…)`, in microseconds. -/
def days (n : Nat) : Time := n * 86400000000

/-- The runs of the window. -/
def windowRuns (history : RunHistory) (inScope : List Nat) (tenantId projectId : Int)
    (windowStart : Time) : List CostRun :=
  history.runs.filter fun run =>
    run.tenantId == tenantId && run.projectId == projectId &&
      decide (windowStart ≤ run.createdAt) && run.deploymentId.all fun id => inScope.contains id

/-- The row of a run of the in-memory store. -/
def outputRow (run : CostRun) : Option CostUsageRow :=
  match run.output with
  | .dict output =>
      let cost := floatValue arith (PyDict.get output "cost")
      let totalTokens := intValue arith (PyDict.get output "total_tokens")
      if cost ≤ 0 ∧ totalTokens ≤ 0 then none
      else some
        { runId := run.id
          agentId := run.agentId
          deploymentId := run.deploymentId
          provider := stringValue (PyDict.get output "provider")
          model := stringValue (PyDict.get output "model")
          costUsd := cost
          totalTokens := totalTokens
          status := run.status
          createdAt := run.createdAt }
  | _ => none

/-- The row of a snapshot of one of the runs. -/
def snapshotRow (runs : List CostRun) (snapshot : UsageSnapshot) : Option CostUsageRow :=
  (runs.find? fun run => run.id == snapshot.runId).map fun run =>
    { runId := snapshot.runId
      agentId := run.agentId
      deploymentId := run.deploymentId
      provider := snapshot.provider
      model := some snapshot.model
      costUsd := snapshot.cost
      totalTokens := snapshot.totalTokens
      status := run.status
      createdAt := snapshot.createdAt }

/-- `_load_cost_rows`. -/
def loadCostRows (environment : String) (windowDays : Nat) (now : Time) : List CostUsageRow :=
  let windowStart := now - days windowDays
  let inScope := scopedDeployments deployments tenantId projectId environment
  match runtime with
  | .memory history =>
      (windowRuns history inScope tenantId projectId windowStart).filterMap (outputRow arith)
  | .database history snapshots =>
      let runs := windowRuns history inScope tenantId projectId windowStart
      (snapshots.filter fun snapshot =>
        snapshot.tenantId == tenantId && snapshot.projectId == some projectId &&
          decide (windowStart ≤ snapshot.createdAt)).filterMap (snapshotRow runs)

/-! ## Breakdown -/

/-- `CostGroupBy`. -/
inductive CostGroupBy where
  | agent
  | deployment
  | run
  | provider
  | model
  deriving DecidableEq, Repr

/-- `text or "unknown"`. -/
def orUnknown (text : Option String) : String := (text.filter (· != "")).getD "unknown"

/-- `_group_key`; an id of zero is no id. -/
def groupKey : CostGroupBy → CostUsageRow → String
  | .agent, row => toString row.agentId
  | .deployment, row =>
      match row.deploymentId with
      | some 0 => "unbound"
      | some id => toString id
      | none => "unbound"
  | .run, row => toString row.runId
  | .provider, row => orUnknown row.provider
  | .model, row => orUnknown row.model

/-- `grouped[key].append(row)`. -/
def addToGroup {α : Type} (key : String) (row : α) : List (String × List α) → List (String × List α)
  | [] => [(key, [row])]
  | (key', rows) :: rest =>
      if key' = key then (key', rows ++ [row]) :: rest else (key', rows) :: addToGroup key row rest

/-- The rows by their keys, in the order in which the keys come. -/
def groupRows {α : Type} (key : α → String) (rows : List α) : List (String × List α) :=
  rows.foldl (fun groups row => addToGroup (key row) row groups) []

/-- What the views say of rows. -/
structure CostTotals where
  totalCostUsd : ℚ
  totalTokens : Int
  runCount : Nat
  failedRunCount : Nat

/-- `len({item.run_id for item in items})`. -/
def countRuns (rows : List CostUsageRow) : Nat := (rows.map CostUsageRow.runId).dedup.length

/-- The totals of rows, before rounding. -/
def costTotals (rows : List CostUsageRow) : CostTotals where
  totalCostUsd := (rows.map CostUsageRow.costUsd).sum
  totalTokens := (rows.map CostUsageRow.totalTokens).sum
  runCount := countRuns rows
  failedRunCount := countRuns (rows.filter fun row => row.status == .failed)

/-- `CostAttributionBreakdownView`. -/
structure BreakdownItem where
  key : String
  totals : CostTotals

/-- `CostAttributionSummaryView`. -/
structure CostAttributionSummary where
  windowDays : Nat
  groupBy : CostGroupBy
  totals : CostTotals
  breakdown : List BreakdownItem

/-- The groups, the one with the largest cost first. -/
def sortedGroups (groupBy : CostGroupBy) (rows : List CostUsageRow) :
    List (String × List CostUsageRow) :=
  (groupRows (groupKey groupBy) rows).insertionSort
    fun x y => (costTotals y.2).totalCostUsd ≤ (costTotals x.2).totalCostUsd

/-- The summary of the window before its amounts are rounded. -/
def exactSummary (environment : String) (windowDays : Nat) (groupBy : CostGroupBy) (now : Time) :
    CostAttributionSummary :=
  let rows := loadCostRows arith runtime deployments tenantId projectId environment windowDays now
  { windowDays := windowDays
    groupBy := groupBy
    totals := costTotals rows
    breakdown := (sortedGroups groupBy rows).map fun g => ⟨g.1, costTotals g.2⟩ }

/-- The cost is rounded. -/
def CostTotals.rounded (totals : CostTotals) : CostTotals :=
  { totals with totalCostUsd := round6 totals.totalCostUsd }

/-- `build_cost_attribution_summary`. -/
def buildCostAttributionSummary (environment : String) (windowDays : Nat) (groupBy : CostGroupBy)
    (now : Time) : CostAttributionSummary :=
  let summary :=
    exactSummary arith runtime deployments tenantId projectId environment windowDays groupBy now
  { summary with
    totals := summary.totals.rounded
    breakdown := summary.breakdown.map fun item => { item with totals := item.totals.rounded } }

/-! ## Previews -/

/-- What a budget asks for; a type or a window that no budget has stays a text. -/
structure BudgetPreviewInput where
  thresholdUsd : ℚ
  scopeType : String
  scopeRef : Option String
  resetWindow : String
  actionMode : String

/-- `BudgetPreviewResult`. -/
structure BudgetPreviewResult where
  currentSpendUsd : ℚ
  projectedSpendUsd : ℚ
  utilizationRatio : ℚ
  wouldTrigger : Bool
  topContributors : List BreakdownItem

/-- A window that is not in the table raises a `KeyError`. -/
inductive BudgetError where
  | keyError (key : String)
  deriving DecidableEq, Repr

/-- `{"daily": 1, "weekly": 7, "monthly": 30}`. -/
def windowDaysOf : String → Option Nat
  | "daily" => some 1
  | "weekly" => some 7
  | "monthly" => some 30
  | _ => none

/-- `_group_by_for_scope`. -/
def groupByForScope (scopeType : String) : CostGroupBy :=
  if scopeType = "deployment" then .deployment
  else if scopeType = "agent" then .agent
  else .deployment

/-- `_filter_breakdown`. -/
def filterBreakdown (items : List BreakdownItem) (scopeType : String) (scopeRef : Option String) :
    List BreakdownItem :=
  match scopeRef with
  | none => items
  | some ref =>
      if scopeType = "tenant" ∨ scopeType = "project" ∨ scopeType = "environment" then items
      else items.filter fun item => item.key == ref

/-- `build_budget_preview`. -/
def buildBudgetPreview (environment : String)
    (preview : BudgetPreviewInput) (now : Time) : Except BudgetError BudgetPreviewResult :=
  match windowDaysOf preview.resetWindow with
  | none => .error (.keyError preview.resetWindow)
  | some windowDays =>
      let summary := buildCostAttributionSummary arith runtime deployments tenantId projectId
        environment windowDays (groupByForScope preview.scopeType) now
      let filtered := filterBreakdown summary.breakdown preview.scopeType preview.scopeRef
      let currentSpend := round6 (filtered.map fun item => item.totals.totalCostUsd).sum
      .ok
        { currentSpendUsd := currentSpend
          projectedSpendUsd := round6 (currentSpend * (30 / windowDays))
          utilizationRatio :=
            if preview.thresholdUsd > 0 then currentSpend / preview.thresholdUsd else 0
          wouldTrigger := decide (preview.thresholdUsd ≤ currentSpend)
          topContributors := filtered.take 5 }

end

/-! ## Enforcement -/

/-- `CostBudgetPolicy`. -/
structure CostBudgetPolicy where
  tenantId : Int
  projectId : Option Int
  name : String
  environment : Option String
  scopeType : String
  scopeRef : Option String
  thresholdUsd : ℚ
  resetWindow : String
  channelId : Nat
  actionMode : String
  status : String := "active"
  isDeleted : Bool := false

/-- `NotificationChannel`. -/
structure NotificationChannel where
  tenantId : Int
  projectId : Option Int
  targetRef : String
  status : String := "active"
  isDeleted : Bool := false

/-- The arguments that say which work is about to start. -/
structure BudgetRequest where
  tenantId : Int
  projectId : Int
  environment : String
  agentId : Nat
  deploymentId : Nat

/-- `CostBudgetPolicyHit`. -/
structure CostBudgetPolicyHit where
  policyId : Nat
  name : String
  actionMode : String
  scopeType : String
  scopeRef : Option String
  environment : Option String
  thresholdUsd : ℚ
  currentSpendUsd : ℚ
  channelId : Nat
  channelName : String
  notificationChannel : String

/-- `CostBudgetEnforcementDecision`. -/
structure CostBudgetEnforcementDecision where
  blockingPolicy : Option CostBudgetPolicyHit := none
  warningPolicies : List CostBudgetPolicyHit := []

variable (arith : Arithmetic) (channels : Table NotificationChannel)
  (session : Option (Table CostBudgetPolicy)) (runtime : CostRuntime)
  (deployments : Table CostDeployment) (request : BudgetRequest) (now : Time)

/-- The second condition of `_policy_statement`. -/
def scopeCondition (policy : CostBudgetPolicy) : Condition :=
  let scopeIs (text : String) : Condition := .equal (some policy.scopeType) (some text)
  ((((scopeIs "tenant").and (.isNull policy.scopeRef)).or
    ((scopeIs "project").and (.isIn policy.scopeRef [none, some (toString request.projectId)]))).or
    ((scopeIs "environment").and (.isIn policy.scopeRef [none, some request.environment]))).or
    ((scopeIs "agent").and (.equal policy.scopeRef (some (toString request.agentId)))) |>.or
    ((scopeIs "deployment").and (.equal policy.scopeRef (some (toString request.deploymentId))))

/-- `_policy_statement`. -/
def policyCondition (policy : CostBudgetPolicy) : Condition :=
  (((((Condition.equal (some policy.tenantId) (some request.tenantId)).and
    (some !policy.isDeleted)).and
    (.equal (some policy.status) (some "active"))).and
    (.isIn policy.projectId [some request.projectId, none])).and
    (.isIn policy.environment [some request.environment, none])).and
    (scopeCondition request policy)

/-- The policies that the statement selects, by id. -/
def selectedPolicies (policies : Table CostBudgetPolicy) (request : BudgetRequest) :
    List (Nat × CostBudgetPolicy) :=
  policies.select fun policy => (policyCondition request policy).holds

/-- `str(channel.target_ref)` of an active channel of the project. -/
def channelText (channelId : Nat) : String :=
  match (channels.get? channelId).filter fun channel =>
      channel.tenantId == request.tenantId && channel.projectId == some request.projectId &&
        !channel.isDeleted && channel.status == "active" with
  | some channel => channel.targetRef
  | none => "channel:" ++ toString channelId

section

variable (id : Nat) (policy : CostBudgetPolicy)

/-- `policy.environment or environment`. -/
def effectiveEnvironment : String :=
  match policy.environment with
  | some name => if name = "" then request.environment else name
  | none => request.environment

/-- The preview of a stored policy. -/
def policyPreview : Except BudgetError BudgetPreviewResult :=
  buildBudgetPreview arith runtime deployments request.tenantId request.projectId
    (effectiveEnvironment request policy)
    { thresholdUsd := policy.thresholdUsd
      scopeType := policy.scopeType
      scopeRef := policy.scopeRef
      resetWindow := policy.resetWindow
      actionMode := policy.actionMode } now

/-- The hit of a policy that would trigger. -/
def hitOf (preview : BudgetPreviewResult) : CostBudgetPolicyHit where
  policyId := id
  name := policy.name
  actionMode := policy.actionMode
  scopeType := policy.scopeType
  scopeRef := policy.scopeRef
  environment := policy.environment
  thresholdUsd := policy.thresholdUsd
  currentSpendUsd := preview.currentSpendUsd
  channelId := policy.channelId
  channelName := channelText channels request policy.channelId
  notificationChannel := channelText channels request policy.channelId

end

/-- A hit is a warning, or blocks if no other hit did before. -/
def addHit (decision : CostBudgetEnforcementDecision) (hit : CostBudgetPolicyHit) :
    CostBudgetEnforcementDecision :=
  if hit.actionMode = "warn" then
    { decision with warningPolicies := decision.warningPolicies ++ [hit] }
  else
    match decision.blockingPolicy with
    | none => { decision with blockingPolicy := some hit }
    | some _ => decision

/-- The loop of `evaluate_persisted_budget_policies`. -/
def evaluatePolicies (arith : Arithmetic) (channels : Table NotificationChannel)
    (runtime : CostRuntime) (deployments : Table CostDeployment) (request : BudgetRequest)
    (now : Time) :
    CostBudgetEnforcementDecision → List (Nat × CostBudgetPolicy) →
      Except BudgetError CostBudgetEnforcementDecision
  | decision, [] => .ok decision
  | decision, (id, policy) :: rest =>
      match policyPreview arith runtime deployments request now policy with
      | .error e => .error e
      | .ok preview =>
          evaluatePolicies arith channels runtime deployments request now
            (if preview.wouldTrigger then addHit decision (hitOf channels request id policy preview)
              else decision) rest

/-- `evaluate_persisted_budget_policies`; without a session there is no policy. -/
def evaluatePersistedBudgetPolicies : Except BudgetError CostBudgetEnforcementDecision :=
  match session with
  | none => .ok {}
  | some policies =>
      evaluatePolicies arith channels runtime deployments request now {}
        (selectedPolicies policies request)

end

end DimooRun.Costs
