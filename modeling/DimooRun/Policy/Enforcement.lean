/-
  Policy/Enforcement.lean --- what the gateways make of a decision.

  A handler should run, and a secret should be returned, only under a decision that allows
  it. The tool gateway runs the handler under `require_dry_run` and `fallback`; the
  secret providers return the secret under these and under `require_approval`.
-/
import DimooRun.Secrets.Provider

set_option autoImplicit false

namespace DimooRun.Policy

open Foundation Hitl Tools Secrets

/-- What is decided allows what is asked for. -/
def Permitted (py : Builtins) (rules : List StaticPolicyRule) (request : PolicyRequest) : Prop :=
  (evaluate py rules request).1.decision.allows = true

/-- No rule denies, and some rule wants an approval. -/
def WantsApproval (rules : List StaticPolicyRule) : Prop :=
  has .deny rules = false ∧ has .requireApproval rules = true

section

variable (py : Builtins) (rules : List StaticPolicyRule) (request : PolicyRequest)

theorem stalled_ne (h : Stalled py (matching rules request)) :
    (evaluate py rules request).1.decision ≠ .deny ∧
      (evaluate py rules request).1.decision ≠ .requireApproval := by
  rw [decision_evaluate]
  rcases (stalled_iff py _).mp h with hkind | hkind
  · rw [hkind]
    decide
  · rw [hkind]
    decide

/-- What is neither denied nor to be approved is permitted unless all is stalled. -/
theorem permitted_unless_refused_iff : ((evaluate py rules request).1.decision ≠ .deny →
        (evaluate py rules request).1.decision ≠ .requireApproval → Permitted py rules request) ↔
      ¬ Stalled py (matching rules request) := by
  have hfalse := allows_verdict_eq_false_iff py (matching rules request)
  have hne := stalled_ne py rules request
  unfold Permitted
  rw [decision_evaluate] at hne ⊢
  rw [← Bool.not_eq_false]
  tauto

/-- What is not denied is permitted unless an approval is wanted or all is stalled. -/
theorem permitted_unless_denied_iff :
    ((evaluate py rules request).1.decision ≠ .deny → Permitted py rules request) ↔
      ¬ WantsApproval (matching rules request) ∧ ¬ Stalled py (matching rules request) := by
  have hfalse := allows_verdict_eq_false_iff py (matching rules request)
  have hne := stalled_ne py rules request
  unfold Permitted WantsApproval
  rw [decision_evaluate] at hne ⊢
  rw [← Bool.not_eq_false, ← verdict_eq_requireApproval_iff py (matching rules request)]
  have happroval : verdict py (matching rules request) = .requireApproval →
      verdict py (matching rules request) ≠ .deny := fun h => h ▸ nofun
  tauto

end

/-! ## The secret providers -/

variable {now : Instant} {query : SecretQuery}

/-- The provider in memory returns a value. -/
theorem getSecret_memory_ok_iff {py : Builtins} {rules : List StaticPolicyRule} {s : SecretStore} :
    (∃ value, (s.getSecret py rules now query).1 = .ok value) ↔
      query.inScope = true ∧ (∃ record, s.secrets.get? query.key = some record) ∧
        (evaluate py rules (query.request none none)).1.decision ≠ .deny := by
  unfold SecretStore.getSecret
  cases query.inScope with
  | false => simp
  | true =>
    cases s.secrets.get? query.key with
    | none => simp
    | some record =>
      simp only [Bool.not_true, Bool.false_eq_true, if_false]
      split <;> simp_all

/-- The durable provider returns a reference. -/
theorem getSecret_durable_ok_iff {py : Builtins} {rules : List StaticPolicyRule} {s : SecretTable} :
    (∃ value, (s.getSecret py rules now query).1 = .ok value) ↔
      query.inScope = true ∧ ∃ id row, s.secretRecord query = some (id, row) ∧
        (evaluate py rules (query.request (some id) query.context.environment)).1.decision ≠ .deny ∧
        ∃ ref, query.context.secrets.get? query.secretName = some ref := by
  unfold SecretTable.getSecret
  cases query.inScope with
  | false => simp
  | true =>
    cases hrecord : s.secretRecord query with
    | none => simp
    | some found =>
      obtain ⟨id, row⟩ := found
      simp only [Bool.not_true, Bool.false_eq_true, if_false]
      split
      · rename_i hdeny
        simp [hdeny]
      · rename_i hallowed
        cases query.context.secrets.get? query.secretName with
        | none => simp
        | some ref => simp [hallowed]

/-! ## Decisions are honoured -/

section

variable {σ : Type} (py : Builtins) (createApproval : CreateApproval → σ → HumanTaskRecord × σ)
  (rules : List StaticPolicyRule)

/-- The handler runs only if that is permitted. -/
def ToolHonoured (tools : Dict Int ToolDefinition) (toolId : Int) (arguments : PyDict)
    (context : RuntimeContext) (actorId : Option String) (s : Effects σ) : Prop :=
  ∀ tool, tools.get? toolId = some tool →
    (call py createApproval rules tools toolId arguments context actorId s).2.handled ≠ s.handled →
    Permitted py rules (toolRequest tool context actorId)

/-- The provider in memory returns a value only if that is permitted. -/
def SecretHonoured (now : Instant) (query : SecretQuery) (s : SecretStore) : Prop :=
  (∃ value, (s.getSecret py rules now query).1 = .ok value) →
    Permitted py rules (query.request none none)

/-- The durable provider returns a reference only if that is permitted. -/
def SecretRefHonoured (now : Instant) (query : SecretQuery) (s : SecretTable) : Prop :=
  ∀ id row, s.secretRecord query = some (id, row) →
    (∃ ref, (s.getSecret py rules now query).1 = .ok ref) →
    Permitted py rules (query.request (some id) query.context.environment)

/-- The gateways honour every decision unless all is stalled, and the secret providers unless an
approval is wanted. -/
theorem gateways_honour_decisions_iff (tools : Dict Int ToolDefinition) (toolId : Int)
    (arguments : PyDict) (context : RuntimeContext) (actorId : Option String) (s : Effects σ)
    (now : Instant) (query : SecretQuery) (store : SecretStore) (table : SecretTable) :
    (ToolHonoured py createApproval rules tools toolId arguments context actorId s ↔
      ∀ tool, tools.get? toolId = some tool → tool.inScope context = true →
        ¬ Stalled py (matching rules (toolRequest tool context actorId))) ∧
    (SecretHonoured py rules now query store ↔
      (query.inScope = true → (∃ record, store.secrets.get? query.key = some record) →
        ¬ WantsApproval (matching rules (query.request none none)) ∧
          ¬ Stalled py (matching rules (query.request none none)))) ∧
    (SecretRefHonoured py rules now query table ↔
      (query.inScope = true → (∃ ref, query.context.secrets.get? query.secretName = some ref) →
        ∀ id row, table.secretRecord query = some (id, row) →
          ¬ WantsApproval (matching rules (query.request (some id) query.context.environment)) ∧
          ¬ Stalled py (matching rules (query.request (some id) query.context.environment)))) := by
  refine ⟨⟨?_, ?_⟩, ⟨?_, ?_⟩, ⟨?_, ?_⟩⟩
  · intro hhonoured tool hget hscope
    refine (permitted_unless_refused_iff py rules _).mp fun hdeny happroval => ?_
    refine hhonoured tool hget ?_
    unfold call
    rw [hget]
    exact (handled_callTool_ne_iff py createApproval rules arguments actorId s).mpr
      ⟨hscope, hdeny, happroval⟩
  · intro hclear tool hget hruns
    unfold call at hruns
    rw [hget] at hruns
    obtain ⟨hscope, hdeny, happroval⟩ :=
      (handled_callTool_ne_iff py createApproval rules arguments actorId s).mp hruns
    exact (permitted_unless_refused_iff py rules _).mpr (hclear tool hget hscope) hdeny happroval
  · intro hhonoured hscope hrecord
    refine (permitted_unless_denied_iff py rules _).mp fun hdeny => ?_
    exact hhonoured (getSecret_memory_ok_iff.mpr ⟨hscope, hrecord, hdeny⟩)
  · intro hclear hvalue
    obtain ⟨hscope, hrecord, hdeny⟩ := getSecret_memory_ok_iff.mp hvalue
    exact (permitted_unless_denied_iff py rules _).mpr (hclear hscope hrecord) hdeny
  · intro hhonoured hscope href id row hrecord
    refine (permitted_unless_denied_iff py rules _).mp fun hdeny => ?_
    exact hhonoured id row hrecord
      (getSecret_durable_ok_iff.mpr ⟨hscope, id, row, hrecord, hdeny, href⟩)
  · intro hclear id row hrecord hvalue
    obtain ⟨hscope, id', row', hrecord', hdeny, href⟩ := getSecret_durable_ok_iff.mp hvalue
    rw [hrecord] at hrecord'
    obtain ⟨rfl, rfl⟩ := Prod.mk.inj (Option.some.inj hrecord')
    exact (permitted_unless_denied_iff py rules _).mpr (hclear hscope href id row hrecord) hdeny

end

/-! ### A fallback and an approval that nobody waits for -/

/-- A rule for tool calls. -/
def toolRule (decision : Decision) : StaticPolicyRule where
  policyId := "1"
  resourceType := "tool"
  action := "call"
  decision := decision
  reason := "tools"

/-- A rule for secrets. -/
def secretRule (decision : Decision) : StaticPolicyRule where
  policyId := "2"
  resourceType := "secret"
  action := "read"
  decision := decision
  reason := "secrets"

/-- A run of tenant 1 and project 1. -/
def sampleContext : RuntimeContext where
  tenantId := 1
  projectId := some 1
  runId := 1

/-- A tool of the same scope. -/
def sampleTool : ToolDefinition where
  id := 1
  tenantId := 1
  projectId := some 1
  name := "search"
  riskLevel := "read"
  handler _ := .ok []

/-- A query for a secret of the same scope. -/
def sampleQuery : SecretQuery where
  tenantId := 1
  projectId := some 1
  secretName := "token"
  context := sampleContext

/-- The handler runs under a fallback, and the secret is returned although an approval is
required. -/
theorem gateways_ignore_decisions : ¬ ToolHonoured .simple (HumanTaskService.createApproval 0)
        [toolRule .fallback, secretRule .requireApproval]
        (Dict.empty.set 1 sampleTool) 1 [] sampleContext none ⟨[], {}, []⟩ ∧
      ¬ SecretHonoured .simple [toolRule .fallback, secretRule .requireApproval] 0 sampleQuery
        (SecretStore.putSecret ⟨Dict.empty, []⟩ 1 (some 1) "token" "s3cret") := by
  constructor
  · intro h
    have hpermitted := h sampleTool (Dict.get?_set_self _ _ _) (by
      unfold call
      exact (handled_callTool_ne_iff _ _ _ _ _ _).mpr ⟨rfl, by decide +kernel, by decide +kernel⟩)
    revert hpermitted
    unfold Permitted
    decide +kernel
  · intro h
    have hpermitted := h (getSecret_memory_ok_iff.mpr
      ⟨rfl, ⟨_, Dict.get?_set_self _ _ _⟩, by decide +kernel⟩)
    revert hpermitted
    unfold Permitted
    decide +kernel

end DimooRun.Policy
