/-
  Policy/Engine.lean --- policy rules and the decision they make together.

  Sources: policy/decisions.py and policy/engine.py.

  A denial wins over everything, a required approval over the rest, and the other rules
  that match are composed: their limits and redactions are collected, and what was
  collected decides the kind. `verdict` says that kind without the loops.
-/
import DimooRun.Foundation.Json

set_option autoImplicit false

namespace DimooRun.Policy

open Foundation

/-- A time, in microseconds. -/
abbrev Instant : Type := Int

/-! ## Decisions -/

inductive Decision where
  | allow
  | deny
  | allowWithRedaction
  | allowWithLimit
  | requireApproval
  | requireDryRun
  | fallback
  deriving DecidableEq, Repr

namespace Decision

/-- The value of the member of `StrEnum`. -/
def value : Decision → String
  | allow => "allow"
  | deny => "deny"
  | allowWithRedaction => "allow_with_redaction"
  | allowWithLimit => "allow_with_limit"
  | requireApproval => "require_approval"
  | requireDryRun => "require_dry_run"
  | fallback => "fallback"

/-- `Decision(text)`; `none` is the `ValueError`. -/
def ofText? (text : String) : Option Decision :=
  [allow, deny, allowWithRedaction, allowWithLimit, requireApproval, requireDryRun, fallback].find?
    fun decision => decision.value == text

/-- The kinds that `_compose_allow_decision` collects from, which are those that let an action
happen. -/
def allows : Decision → Bool
  | allow | allowWithRedaction | allowWithLimit => true
  | _ => false

theorem value_of_ofText? {text : String} {d : Decision} (h : ofText? text = some d) :
    text = d.value := by
  have hp := List.find?_some h
  simpa using (eq_of_beq hp).symm

end Decision

structure PolicyDecision where
  decision : Decision
  reason : Option String := none
  matchedPolicyIds : List String := []
  limits : PyDict := []
  redactions : List String := []
  approvalRequired : Bool := false
  expiresAt : Option Instant := none
  metadata : PyDict := []

namespace PolicyDecision

def allow : PolicyDecision where
  decision := .allow

variable (reason policyId : String)

/-- `tuple(filter(None, [policy_id]))`. -/
def idOf : List String := [policyId].filter (· != "")

def deny : PolicyDecision where
  decision := .deny
  reason := some reason
  matchedPolicyIds := idOf policyId

def requireApproval : PolicyDecision where
  decision := .requireApproval
  reason := some reason
  matchedPolicyIds := idOf policyId
  approvalRequired := true

end PolicyDecision

/-! ## Requests, rules and audit records -/

/-- The part of a `PolicyRequest` that is read. -/
structure PolicyRequest where
  tenantId : Int
  projectId : Option Int
  actorId : Option String
  actorType : String
  resourceType : String
  resourceId : Option Int
  action : String
  riskLevel : Option String := none
  environment : Option String := none

structure AuditRecord where
  tenantId : Int
  projectId : Option Int
  actorId : Option String
  actorType : String
  resourceType : String
  resourceId : Option Int
  action : String
  result : String
  reason : Option String := none
  matchedPolicyIds : List String := []
  metadata : PyDict := []

structure StaticPolicyRule where
  policyId : String
  resourceType : String
  action : String
  decision : Decision
  reason : String
  tenantId : Option Int := none
  projectId : Option Int := none
  environment : Option String := none
  riskLevel : Option String := none
  resourceId : Option Int := none
  expiresAt : Option Instant := none
  metadata : PyDict := []

/-- A field that is not set restricts nothing. -/
def agrees {α : Type} [DecidableEq α] (field : Option α) (value : Option α) : Bool :=
  match field with
  | none => true
  | some x => value = some x

theorem agrees_iff {α : Type} [DecidableEq α] {field value : Option α} :
    agrees field value = true ↔ ∀ x, field = some x → value = some x := by
  cases field with
  | none => simp [agrees]
  | some x => simp [agrees]

/-- `_metadata_limits`. -/
def metadataLimits (metadata : PyDict) : PyDict := ((metadata.get "limits").dict?).getD []

/-- The texts of the items of a list that are not blank. -/
def texts (py : Builtins) (items : List PyValue) : List String :=
  (items.map fun item => stripText (py.str item)).filter (· != "")

/-- `_metadata_redactions`. -/
def metadataRedactions (py : Builtins) (metadata : PyDict) : List String :=
  match metadata.get "redactions" with
  | .list items => texts py items
  | _ => []

namespace StaticPolicyRule

/-- `matches`. -/
def matchesRequest (rule : StaticPolicyRule) (request : PolicyRequest) : Bool :=
  rule.resourceType == request.resourceType && rule.action == request.action &&
    agrees rule.tenantId (some request.tenantId) && agrees rule.projectId request.projectId &&
    agrees rule.environment request.environment && agrees rule.riskLevel request.riskLevel &&
    agrees rule.resourceId request.resourceId

def toDecision (py : Builtins) (rule : StaticPolicyRule) : PolicyDecision :=
  match rule.decision with
  | .deny => PolicyDecision.deny rule.reason rule.policyId
  | .requireApproval => PolicyDecision.requireApproval rule.reason rule.policyId
  | decision =>
      { decision := decision
        reason := some rule.reason
        matchedPolicyIds := [rule.policyId]
        limits := metadataLimits rule.metadata
        redactions := metadataRedactions py rule.metadata
        expiresAt := rule.expiresAt
        metadata := rule.metadata }

end StaticPolicyRule

theorem matchesRequest_iff (rule : StaticPolicyRule) (request : PolicyRequest) :
    rule.matchesRequest request = true ↔
      rule.resourceType = request.resourceType ∧ rule.action = request.action ∧
        (∀ t, rule.tenantId = some t → request.tenantId = t) ∧
        (∀ p, rule.projectId = some p → request.projectId = some p) ∧
        (∀ e, rule.environment = some e → request.environment = some e) ∧
        (∀ r, rule.riskLevel = some r → request.riskLevel = some r) ∧
        (∀ n, rule.resourceId = some n → request.resourceId = some n) := by
  simp only [StaticPolicyRule.matchesRequest, Bool.and_eq_true, beq_iff_eq, agrees_iff, and_assoc,
    Option.some.injEq]

/-! ## The engine -/

/-- What `_compose_allow_decision` collects. -/
structure Composition where
  matchedPolicyIds : List String
  limits : PyDict
  redactions : List String
  primaryRule : StaticPolicyRule

/-- The redactions that are not there yet, in their order. -/
def addRedactions (redactions more : List String) : List String :=
  more.foldl (fun kept redaction =>
    if redaction ∈ kept then kept else kept ++ [redaction]) redactions

/-- Which of two rules leads. -/
def leadingRule (primary rule : StaticPolicyRule) : StaticPolicyRule :=
  if primary.decision ≠ .allowWithLimit ∧ rule.decision = .allowWithLimit then rule
  else if primary.decision = .allow ∧ rule.decision = .allowWithRedaction then rule
  else primary

section

variable (py : Builtins) (rules : List StaticPolicyRule) (request : PolicyRequest)

/-- One round of the loop. -/
def Composition.add (c : Composition) (rule : StaticPolicyRule) : Composition :=
  if rule.decision.allows then
    { matchedPolicyIds := c.matchedPolicyIds ++ [rule.policyId]
      limits := c.limits.update (metadataLimits rule.metadata)
      redactions := addRedactions c.redactions (metadataRedactions py rule.metadata)
      primaryRule := leadingRule c.primaryRule rule }
  else c

/-- The loop. -/
def composition (first : StaticPolicyRule) (rules : List StaticPolicyRule) :
    Composition :=
  rules.foldl (Composition.add py)
    { matchedPolicyIds := [], limits := [], redactions := [], primaryRule := first }

/-- `_compose_allow_decision`. -/
def composeAllowDecision (first : StaticPolicyRule)
    (rest : List StaticPolicyRule) : PolicyDecision :=
  let c := composition py first (first :: rest)
  { decision :=
      if !c.limits.isEmpty then .allowWithLimit
      else if !c.redactions.isEmpty then .allowWithRedaction
      else c.primaryRule.decision
    reason := some c.primaryRule.reason
    matchedPolicyIds := c.matchedPolicyIds
    limits := c.limits
    redactions := c.redactions
    expiresAt := c.primaryRule.expiresAt
    metadata := [("limits", .dict c.limits), ("redactions", .list (c.redactions.map .str))] }

/-- `_audit_when_required`: the records that are written. -/
def auditWhenRequired (decision : PolicyDecision) : List AuditRecord :=
  if decision.decision = .deny ∨ decision.decision = .requireApproval then
    [{ tenantId := request.tenantId
       projectId := request.projectId
       actorId := request.actorId
       actorType := request.actorType
       resourceType := request.resourceType
       resourceId := request.resourceId
       action := request.action
       result := decision.decision.value
       reason := decision.reason
       matchedPolicyIds := decision.matchedPolicyIds
       metadata := decision.metadata }]
  else []

/-- The rules that match a request. -/
def matching : List StaticPolicyRule :=
  rules.filter fun rule => rule.matchesRequest request

/-- `evaluate`: the decision, and the records that are written. -/
def evaluate : PolicyDecision × List AuditRecord :=
  let found := matching rules request
  match found.find? fun rule => rule.decision = .deny with
  | some rule =>
      let decision := rule.toDecision py
      (decision, auditWhenRequired request decision)
  | none =>
      match found.find? fun rule => rule.decision = .requireApproval with
      | some rule =>
          let decision := rule.toDecision py
          (decision, auditWhenRequired request decision)
      | none =>
          match found with
          | [] => (PolicyDecision.allow, [])
          | first :: rest => (composeAllowDecision py first rest, [])

/-- `record_violation`: the record that is written. -/
def violationRecord (reason : String) (metadata : PyDict) : AuditRecord where
  tenantId := request.tenantId
  projectId := request.projectId
  actorId := request.actorId
  actorType := request.actorType
  resourceType := request.resourceType
  resourceId := request.resourceId
  action := request.action
  result := "policy_violation"
  reason := some reason
  metadata := metadata

/-! ## The kind of a decision -/

/-- A rule that lets the action happen, with limits. -/
def StaticPolicyRule.limiting (rule : StaticPolicyRule) : Bool :=
  rule.decision.allows && !(metadataLimits rule.metadata).isEmpty

/-- A rule that lets the action happen, with redactions. -/
def StaticPolicyRule.redacting (rule : StaticPolicyRule) : Bool :=
  rule.decision.allows && !(metadataRedactions py rule.metadata).isEmpty

/-- Some rule is of a kind. -/
def has (decision : Decision) (rules : List StaticPolicyRule) : Bool :=
  rules.any fun rule => rule.decision = decision

/-- The kind that rules give together when none denies or wants an approval. Only the last
resort looks at their order. -/
def composedVerdict : Decision :=
  if rules.any StaticPolicyRule.limiting then .allowWithLimit
  else if rules.any (StaticPolicyRule.redacting py) then .allowWithRedaction
  else if has .allowWithLimit rules then .allowWithLimit
  else
    match rules.head? with
    | none => .allow
    | some first =>
        if first.decision = .allow ∧ has .allowWithRedaction rules then .allowWithRedaction
        else first.decision

/-- The kind that rules which match give together. -/
def verdict : Decision :=
  if has .deny rules then .deny
  else if has .requireApproval rules then .requireApproval
  else composedVerdict py rules

end

theorem mem_keys_update {d upd : PyDict} {key : String} :
    key ∈ (d.update upd).map Prod.fst ↔ key ∈ d.map Prod.fst ∨ key ∈ upd.map Prod.fst := by
  have hold : (d.lookup key).isNone = true ↔ key ∉ d.map Prod.fst := by
    simp
    grind
  simp only [PyDict.update, List.map_append, List.map_map, List.mem_append, List.mem_map,
    List.mem_filter]
  constructor
  · rintro (hmem | ⟨kv, ⟨hkv, _⟩, rfl⟩)
    · exact .inl hmem
    · exact .inr ⟨kv, hkv, rfl⟩
  · rintro (hmem | ⟨kv, hkv, rfl⟩)
    · exact .inl hmem
    · by_cases hmem : kv.1 ∈ d.map Prod.fst
      · exact .inl (List.mem_map.mp hmem)
      · exact .inr ⟨kv, ⟨hkv, hold.mpr hmem⟩, rfl⟩

theorem mem_addRedactions {redactions more : List String} {text : String} :
    text ∈ addRedactions redactions more ↔ text ∈ redactions ∨ text ∈ more := by
  unfold addRedactions
  induction more generalizing redactions with
  | nil => simp
  | cons redaction more ih =>
    rw [List.foldl_cons, ih, List.mem_cons, ← or_assoc]
    refine or_congr_left ?_
    split
    · rename_i hmem
      exact (or_iff_left_of_imp fun heq => heq ▸ hmem).symm
    · simp

section

variable (py : Builtins)

/-- What the loop collects comes from the rules that allow. -/
theorem mem_foldl_add {β : Type} (collected : Composition → List β)
    (given : StaticPolicyRule → List β)
    (hadd : ∀ c rule b, b ∈ collected (c.add py rule) ↔
      b ∈ collected c ∨ rule.decision.allows = true ∧ b ∈ given rule)
    (rules : List StaticPolicyRule) (c : Composition) (b : β) :
    b ∈ collected (rules.foldl (Composition.add py) c) ↔
      b ∈ collected c ∨ ∃ rule ∈ rules, rule.decision.allows = true ∧ b ∈ given rule := by
  induction rules generalizing c with
  | nil => simp
  | cons rule rules ih =>
    rw [List.foldl_cons, ih, hadd, or_assoc]
    simp

variable (first : StaticPolicyRule) (rules : List StaticPolicyRule)

theorem mem_limits_composition (key : String) :
    key ∈ (composition py first rules).limits.map Prod.fst ↔ ∃ rule ∈ rules,
      rule.decision.allows = true ∧ key ∈ (metadataLimits rule.metadata).map Prod.fst := by
  refine (mem_foldl_add py (fun c => c.limits.map Prod.fst)
    (fun rule => (metadataLimits rule.metadata).map Prod.fst) (fun c rule b => ?_) rules _ key).trans
      (or_iff_right List.not_mem_nil)
  unfold Composition.add
  cases rule.decision.allows <;> simp [mem_keys_update]

theorem mem_redactions_composition (text : String) :
    text ∈ (composition py first rules).redactions ↔ ∃ rule ∈ rules,
      rule.decision.allows = true ∧ text ∈ metadataRedactions py rule.metadata := by
  refine (mem_foldl_add py Composition.redactions
    (fun rule => metadataRedactions py rule.metadata) (fun c rule b => ?_) rules _ text).trans
      (or_iff_right List.not_mem_nil)
  unfold Composition.add
  cases rule.decision.allows <;> simp [mem_addRedactions]

/-- Nothing is collected if no rule that allows gives anything. -/
theorem isEmpty_of_mem_iff {β : Type} {collected : List β} {given : StaticPolicyRule → List β}
    (h : ∀ b, b ∈ collected ↔ ∃ rule ∈ rules, rule.decision.allows = true ∧ b ∈ given rule) :
    collected.isEmpty = !rules.any fun rule => rule.decision.allows && !(given rule).isEmpty := by
  rw [Bool.eq_iff_iff, List.isEmpty_iff, List.eq_nil_iff_forall_not_mem, Bool.not_eq_true',
    List.any_eq_false]
  simp only [h, Bool.and_eq_true, Bool.not_eq_true', List.isEmpty_eq_false_iff_exists_mem]
  constructor
  · rintro hnone rule hrule ⟨hallows, b, hb⟩
    exact hnone b ⟨rule, hrule, hallows, hb⟩
  · rintro hnone b ⟨rule, hrule, hallows, hb⟩
    exact hnone rule hrule ⟨hallows, b, hb⟩

theorem isEmpty_limits_composition : (composition py first rules).limits.isEmpty =
    !rules.any StaticPolicyRule.limiting := by
  have h := isEmpty_of_mem_iff rules (mem_limits_composition py first rules)
  simp only [List.isEmpty_map] at h
  exact h

theorem isEmpty_redactions_composition : (composition py first rules).redactions.isEmpty =
    !rules.any (StaticPolicyRule.redacting py) :=
  isEmpty_of_mem_iff rules (mem_redactions_composition py first rules)

/-- The kind of the rule that leads after a list of rules. -/
def leadingKind (primary : Decision) (rules : List StaticPolicyRule) : Decision :=
  if primary = .allowWithLimit ∨ has .allowWithLimit rules then .allowWithLimit
  else if primary = .allow ∧ has .allowWithRedaction rules then .allowWithRedaction
  else primary

/-- One more rule in front. -/
theorem leadingKind_cons (primary : Decision) (rule : StaticPolicyRule)
    (rules : List StaticPolicyRule) :
    leadingKind primary (rule :: rules) = leadingKind
        (if primary ≠ .allowWithLimit ∧ rule.decision = .allowWithLimit then rule.decision
          else if primary = .allow ∧ rule.decision = .allowWithRedaction then rule.decision
          else primary) rules := by
  unfold leadingKind
  have hhas : ∀ d, has d (rule :: rules) = (decide (rule.decision = d) || has d rules) :=
    fun d => List.any_cons
  simp only [hhas]
  cases primary <;> cases rule.decision <;> simp

theorem decision_primary_foldl (rules : List StaticPolicyRule) (c : Composition) :
    (rules.foldl (Composition.add py) c).primaryRule.decision =
      leadingKind c.primaryRule.decision rules := by
  induction rules generalizing c with
  | nil =>
    simp only [leadingKind, has, List.any_nil, Bool.false_eq_true, or_false, and_false, if_false]
    split
    · assumption
    · rfl
  | cons rule rules ih =>
    rw [List.foldl_cons, ih, leadingKind_cons]
    unfold Composition.add leadingRule
    cases hd : rule.decision with
    | allowWithRedaction =>
      by_cases hprimary : c.primaryRule.decision = .allow
      · simp [Decision.allows, hd, hprimary]
      · simp [Decision.allows, hprimary]
    | allowWithLimit =>
      by_cases hprimary : c.primaryRule.decision = .allowWithLimit
      · simp [Decision.allows, hprimary]
      · simp [Decision.allows, hd, hprimary]
    | _ => simp [Decision.allows]

end

section

variable {d : Decision} {rules : List StaticPolicyRule} {rule : StaticPolicyRule}

theorem has_eq_true : has d rules = true ↔ ∃ rule ∈ rules, rule.decision = d := by
  simp [has]

theorem ne_of_has_eq_false (h : has d rules = false) (hmem : rule ∈ rules) : rule.decision ≠ d := by
  intro hkind
  rw [has_eq_true.mpr ⟨rule, hmem, hkind⟩] at h
  cases h

theorem has_of_find? (h : (rules.find? fun rule => rule.decision = d) = some rule) :
    rule.decision = d ∧ has d rules = true := by
  have hkind : rule.decision = d := by simpa using List.find?_some h
  exact ⟨hkind, has_eq_true.mpr ⟨rule, List.mem_of_find?_eq_some h, hkind⟩⟩

theorem has_eq_false_of_find? (h : (rules.find? fun rule => rule.decision = d) = none) :
    has d rules = false := by
  unfold has
  rw [List.any_eq_false]
  exact List.find?_eq_none.mp h

/-- Rules that neither deny nor require approval. -/
theorem decision_composeAllowDecision (py : Builtins) (first : StaticPolicyRule)
    (rest : List StaticPolicyRule) (hdeny : has .deny (first :: rest) = false)
    (happroval : has .requireApproval (first :: rest) = false) :
    (composeAllowDecision py first rest).decision = verdict py (first :: rest) := by
  have hprimary := decision_primary_foldl py (first :: rest) ⟨[], [], [], first⟩
  simp only [composeAllowDecision, verdict, composedVerdict, hdeny, happroval, Bool.false_eq_true,
    if_false, isEmpty_limits_composition, isEmpty_redactions_composition, Bool.not_not,
    List.head?_cons]
  rw [composition, hprimary]
  dsimp only [leadingKind]
  by_cases hlimit : first.decision = .allowWithLimit
  · have hhas : has .allowWithLimit (first :: rest) = true :=
      has_eq_true.mpr ⟨first, List.mem_cons_self, hlimit⟩
    simp [hhas]
  · simp [hlimit]

/-- What `evaluate` does with the rules that match: the first one that denies decides, or the
first that wants an approval, or they are composed. -/
theorem evaluate_cases (py : Builtins) (rules : List StaticPolicyRule) (request : PolicyRequest) :
    (∃ rule : StaticPolicyRule, has .deny (matching rules request) = true ∧ rule.decision = .deny ∧
      evaluate py rules request =
        (rule.toDecision py, auditWhenRequired request (rule.toDecision py))) ∨
    (∃ rule : StaticPolicyRule, has .deny (matching rules request) = false ∧
      has .requireApproval (matching rules request) = true ∧ rule.decision = .requireApproval ∧
      evaluate py rules request =
        (rule.toDecision py, auditWhenRequired request (rule.toDecision py))) ∨
    (matching rules request = [] ∧ evaluate py rules request = (PolicyDecision.allow, [])) ∨
    ∃ first rest, matching rules request = first :: rest ∧
      has .deny (first :: rest) = false ∧ has .requireApproval (first :: rest) = false ∧
      evaluate py rules request = (composeAllowDecision py first rest, []) := by
  unfold evaluate
  dsimp only
  generalize matching rules request = found
  cases hdeny : found.find? fun rule => rule.decision = .deny with
  | some rule =>
    obtain ⟨hkind, hhas⟩ := has_of_find? hdeny
    exact .inl ⟨rule, hhas, hkind, rfl⟩
  | none =>
    have hnot := has_eq_false_of_find? hdeny
    cases happroval : found.find? fun rule => rule.decision = .requireApproval with
    | some rule =>
      obtain ⟨hkind, hhas⟩ := has_of_find? happroval
      exact .inr (.inl ⟨rule, hnot, hhas, hkind, rfl⟩)
    | none =>
      cases found with
      | nil => exact .inr (.inr (.inl ⟨rfl, rfl⟩))
      | cons first rest =>
        exact .inr (.inr (.inr ⟨first, rest, rfl, hnot, has_eq_false_of_find? happroval, rfl⟩))

/-- The engine's loops compute the kind that `verdict` says. -/
theorem decision_evaluate (py : Builtins) (rules : List StaticPolicyRule)
    (request : PolicyRequest) :
    (evaluate py rules request).1.decision = verdict py (matching rules request) := by
  rcases evaluate_cases py rules request with ⟨rule, hhas, hkind, heq⟩ |
    ⟨rule, hnot, hhas, hkind, heq⟩ | ⟨hnone, heq⟩ | ⟨first, rest, hfound, hdeny, happroval, heq⟩
  · simp [heq, verdict, hhas, StaticPolicyRule.toDecision, hkind, PolicyDecision.deny]
  · simp [heq, verdict, hnot, hhas, StaticPolicyRule.toDecision, hkind,
      PolicyDecision.requireApproval]
  · rw [heq, hnone]
    rfl
  · rw [heq, hfound]
    exact decision_composeAllowDecision py first rest hdeny happroval

end

/-! ## Stances

Of a rule that matches only its stance counts for the kind of the decision: its own
decision, and whether it brings limits or redactions. The order of the rules counts too:
where no rule says how an action is allowed, the first one that matches decides. -/

open StaticPolicyRule

/-- What a rule that matches contributes. -/
structure Stance where
  decision : Decision
  /-- it allows, with limits -/
  limiting : Bool
  /-- it allows, with redactions -/
  redacting : Bool
  deriving DecidableEq

/-- The stance of a rule. -/
def StaticPolicyRule.stance (py : Builtins) (rule : StaticPolicyRule) : Stance where
  decision := rule.decision
  limiting := rule.limiting
  redacting := rule.redacting py

variable (py : Builtins) (rules : List StaticPolicyRule)

/-- Rules with the same stances give the same kind. -/
theorem verdict_congr {rules' : List StaticPolicyRule}
    (h : rules.map (stance py) = rules'.map (stance py)) :
    verdict py rules = verdict py rules' := by
  have hany (p : Stance → Bool) :
      (rules.any fun rule => p (rule.stance py)) = rules'.any fun rule => p (rule.stance py) := by
    have hmap := congrArg (List.any · p) h
    simp only [List.any_map] at hmap
    exact hmap
  have hhas (d : Decision) : has d rules = has d rules' := hany fun x => decide (x.decision = d)
  have hlimiting : rules.any limiting = rules'.any limiting := hany Stance.limiting
  have hredacting : rules.any (redacting py) = rules'.any (redacting py) := hany Stance.redacting
  have hfirst : rules.head?.map (stance py) = rules'.head?.map (stance py) := by
    rw [← List.head?_map, h, List.head?_map]
  have hkind := congrArg (Option.map Stance.decision) hfirst
  simp only [Option.map_map] at hkind
  unfold verdict composedVerdict
  simp only [hhas, hlimiting, hredacting]
  cases hhead : rules.head? <;> cases hhead' : rules'.head? <;>
    simp_all [stance, Function.comp_def]

/-- Rules that are composed deny or want an approval only if one of them does. -/
theorem composedVerdict_ne {d : Decision} (hd : d = .deny ∨ d = .requireApproval)
    (h : has d rules = false) : composedVerdict py rules ≠ d := by
  unfold composedVerdict
  cases rules with
  | nil => rcases hd with rfl | rfl <;> simp [has]
  | cons first rest =>
    have hfirst := ne_of_has_eq_false h List.mem_cons_self
    rcases hd with rfl | rfl <;> grind

theorem verdict_eq_deny_iff : verdict py rules = .deny ↔ has .deny rules = true := by
  have hcomposed := composedVerdict_ne py rules (Or.inl rfl)
  unfold verdict
  cases hdeny : has .deny rules with
  | true => simp
  | false => cases has .requireApproval rules <;> simp [hcomposed hdeny]

theorem verdict_eq_requireApproval_iff : verdict py rules = .requireApproval ↔
      has .deny rules = false ∧ has .requireApproval rules = true := by
  have hcomposed := composedVerdict_ne py rules (Or.inr rfl)
  unfold verdict
  cases has .deny rules with
  | true => simp
  | false => cases happroval : has .requireApproval rules <;> simp [hcomposed, happroval]

/-! ## Decisions that let nothing happen -/

/-- No rule denies or wants an approval, none that allows says how, and the first wants a dry run
or a fallback. -/
structure Stalled : Prop where
  noDenial : has .deny rules = false
  noApproval : has .requireApproval rules = false
  noLimits : rules.any StaticPolicyRule.limiting = false
  noRedactions : rules.any (StaticPolicyRule.redacting py) = false
  noLimitKind : has .allowWithLimit rules = false
  first : ∃ rule, rules.head? = some rule ∧
    (rule.decision = .requireDryRun ∨ rule.decision = .fallback)

theorem stalled_iff :
    Stalled py rules ↔ verdict py rules = .requireDryRun ∨ verdict py rules = .fallback := by
  unfold verdict composedVerdict
  constructor
  · rintro ⟨hdeny, happroval, hlimits, hredactions, hlimit, rule, hhead, hkind⟩
    rcases hkind with hkind | hkind <;>
      simp [hdeny, happroval, hlimits, hredactions, hlimit, hhead, hkind]
  · intro h
    split_ifs at h with hdeny happroval hlimits hredactions hlimit
    case neg =>
      refine ⟨Bool.of_not_eq_true hdeny, Bool.of_not_eq_true happroval, Bool.of_not_eq_true hlimits,
        Bool.of_not_eq_true hredactions, Bool.of_not_eq_true hlimit, ?_⟩
      cases hhead : rules.head? with
      | none => simp [hhead] at h
      | some rule =>
        refine ⟨rule, rfl, ?_⟩
        rw [hhead] at h
        dsimp only at h
        split_ifs at h
        · simp at h
        · exact h
    all_goals simp at h

/-- A verdict that lets nothing happen: somebody denies, wants an approval, or all is stalled. -/
theorem allows_verdict_eq_false_iff : (verdict py rules).allows = false ↔
      verdict py rules = .deny ∨ verdict py rules = .requireApproval ∨ Stalled py rules := by
  rw [stalled_iff]
  cases verdict py rules <;> decide

/-! ## Rules in any order -/

/-- The decision and the audit records are those of the rules that match: a denial wins over an
approval, these two are recorded, and otherwise limits and redactions are collected from the rules
that allow. -/
structure Composed (py : Builtins) (found : List StaticPolicyRule)
    (result : PolicyDecision × List AuditRecord) : Prop where
  denied : result.1.decision = .deny ↔ ∃ rule ∈ found, rule.decision = .deny
  approval : result.1.decision ≠ .deny →
    (result.1.decision = .requireApproval ↔ ∃ rule ∈ found, rule.decision = .requireApproval)
  audited : result.2.length =
    if result.1.decision = .deny ∨ result.1.decision = .requireApproval then 1 else 0
  collected : ¬ (result.1.decision = .deny ∨ result.1.decision = .requireApproval) →
    (∀ text, text ∈ result.1.redactions ↔ ∃ rule ∈ found,
      rule.decision.allows = true ∧ text ∈ metadataRedactions py rule.metadata) ∧
    ∀ key, key ∈ result.1.limits.map Prod.fst ↔ ∃ rule ∈ found,
      rule.decision.allows = true ∧ key ∈ (metadataLimits rule.metadata).map Prod.fst

theorem composed_evaluate (py : Builtins) (rules : List StaticPolicyRule)
    (request : PolicyRequest) :
    Composed py (matching rules request) (evaluate py rules request) := by
  have hdecision := decision_evaluate py rules request
  have hdenied := verdict_eq_deny_iff py (matching rules request)
  have happroval := verdict_eq_requireApproval_iff py (matching rules request)
  rw [← hdecision] at hdenied happroval
  have hdenied' := hdenied.trans has_eq_true
  have happroval' : (evaluate py rules request).1.decision ≠ .deny →
      ((evaluate py rules request).1.decision = .requireApproval ↔
        ∃ rule ∈ matching rules request, rule.decision = .requireApproval) := by
    intro hdeny
    rw [ne_eq, hdenied, Bool.not_eq_true] at hdeny
    rw [happroval, has_eq_true, and_iff_right hdeny]
  rcases evaluate_cases py rules request with ⟨rule, _, hkind, heq⟩ | ⟨rule, _, _, hkind, heq⟩ |
    ⟨hnone, heq⟩ | ⟨first, rest, hfound, hdeny, hnot, heq⟩
  · refine ⟨hdenied', happroval', ?_, ?_⟩ <;>
      simp [heq, StaticPolicyRule.toDecision, hkind, PolicyDecision.deny, auditWhenRequired]
  · refine ⟨hdenied', happroval', ?_, ?_⟩ <;>
      simp [heq, StaticPolicyRule.toDecision, hkind, PolicyDecision.requireApproval,
        auditWhenRequired]
  · refine ⟨hdenied', happroval', ?_, ?_⟩ <;> simp [heq, hnone, PolicyDecision.allow]
  · have hneither : ¬ ((evaluate py rules request).1.decision = .deny ∨
        (evaluate py rules request).1.decision = .requireApproval) := by
      simp [hdenied, happroval, hfound, hdeny, hnot]
    refine ⟨hdenied', happroval', ?_, fun _ => ?_⟩
    · rw [if_neg hneither, heq]
      rfl
    · rw [heq, hfound]
      exact ⟨mem_redactions_composition py first (first :: rest),
        mem_limits_composition py first (first :: rest)⟩

/-- Whatever the order of the rules: the facts about the decision are those of the rules that
match. -/
theorem evaluate_composes (py : Builtins) {rules rules' : List StaticPolicyRule}
    (h : rules'.Perm rules) (request : PolicyRequest) :
    Composed py (matching rules request) (evaluate py rules' request) := by
  have hperm : (matching rules' request).Perm (matching rules request) := h.filter _
  obtain ⟨hdenied, happroval, haudited, hcollected⟩ := composed_evaluate py rules' request
  simp only [hperm.mem_iff] at hdenied happroval hcollected
  exact ⟨hdenied, happroval, haudited, hcollected⟩

/-- A rule for models that allows, with these limits and redactions. -/
def modelRule (decision : Decision) (metadata : PyDict) : StaticPolicyRule where
  policyId := decision.value
  resourceType := "model_gateway"
  action := "use"
  decision := decision
  reason := "rule"
  metadata := metadata

/-- The use of a model. -/
def modelRequest : PolicyRequest where
  tenantId := 1
  projectId := some 1
  actorId := none
  actorType := "user"
  resourceType := "model_gateway"
  resourceId := some 1
  action := "use"

/-- Limits are there, whatever the place of their rule. -/
theorem evaluate_composes_reversed :
    let limited := modelRule .allow [("limits", .dict [("tokens", .int 9)])]
    [modelRule .allow [], limited].Perm [limited, modelRule .allow []] ∧
      "tokens" ∈ (evaluate Builtins.simple [modelRule .allow [], limited]
        modelRequest).1.limits.map Prod.fst := by
  intro limited
  have hperm : [modelRule .allow [], limited].Perm [limited, modelRule .allow []] := .swap _ _ _
  have hcollected := (evaluate_composes Builtins.simple hperm modelRequest).collected (by decide)
  exact ⟨hperm, (hcollected.2 "tokens").mpr ⟨limited, .head _, rfl, .head _⟩⟩

/-- With more rules a denial stays one, a wanted approval stays or becomes a denial, and what is
neither keeps all redactions and has a limit, if perhaps another one, for everything that the fewer
rules limit. -/
theorem more_rules_keep_denials (py : Builtins) {rules rules' : List StaticPolicyRule}
    (h : rules ⊆ rules') (request : PolicyRequest) :
    let fewer := (evaluate py rules request).1
    let more := (evaluate py rules' request).1
    (fewer.decision = .deny → more.decision = .deny) ∧
      (fewer.decision = .requireApproval → more.decision ≠ .deny →
        more.decision = .requireApproval) ∧
      (¬ (more.decision = .deny ∨ more.decision = .requireApproval) →
        fewer.redactions ⊆ more.redactions ∧
          fewer.limits.map Prod.fst ⊆ more.limits.map Prod.fst) := by
  intro fewer more
  have hfewer := composed_evaluate py rules request
  have hmore := composed_evaluate py rules' request
  have hfound {p : StaticPolicyRule → Prop} :
      (∃ rule ∈ matching rules request, p rule) → ∃ rule ∈ matching rules' request, p rule :=
    fun ⟨rule, hrule, hp⟩ => ⟨rule, List.filter_subset _ h hrule, hp⟩
  have hdeny (hd : fewer.decision = .deny) : more.decision = .deny :=
    hmore.denied.mpr (hfound (hfewer.denied.mp hd))
  have happroval (hd : fewer.decision = .requireApproval) (hnot : more.decision ≠ .deny) :
      more.decision = .requireApproval :=
    (hmore.approval hnot).mpr (hfound ((hfewer.approval fun h => hnot (hdeny h)).mp hd))
  refine ⟨hdeny, happroval, fun hmild => ?_⟩
  obtain ⟨hredactions, hlimits⟩ := hfewer.collected (by tauto)
  obtain ⟨hredactions', hlimits'⟩ := hmore.collected hmild
  exact ⟨fun text ht => (hredactions' text).mpr (hfound ((hredactions text).mp ht)),
    fun key hkey => (hlimits' key).mpr (hfound ((hlimits key).mp hkey))⟩

/-- A denial is met by a rule that allows. -/
theorem more_rules_keep_denials_denied :
    let denial := modelRule .deny []
    (evaluate Builtins.simple [denial] modelRequest).1.decision = .deny ∧
      (evaluate Builtins.simple [modelRule .allow [], denial] modelRequest).1.decision = .deny :=
  ⟨by decide, (more_rules_keep_denials _ (List.subset_cons_self _ _) modelRequest).1 (by decide)⟩

end DimooRun.Policy
