/-
  Costs/Attribution.lean --- the breakdown of the spend loses and doubles nothing.

  Sources: costs/attribution.py.

  The usage of a store is said without the loader: what each run or snapshot recorded, and
  whether it is of the project, the environment and the window. The rows of a summary are
  those of the usage, and its groups are a partition of them. Amounts are those before
  rounding.
-/
import Mathlib.Data.List.Perm.Subperm
import DimooRun.Costs.Budgets

set_option autoImplicit false

namespace DimooRun.Costs

open Foundation
open Scheduler (Time)

/-! ## Usage -/

/-- The usage of a run. -/
structure Usage where
  run : CostRun
  tenantId : Int
  projectId : Option Int
  provider : Option String
  model : Option String
  cost : ℚ
  tokens : Int
  recordedAt : Time

/-- All usage in a store. -/
def usages (arith : Arithmetic) : CostRuntime → List Usage
  | .memory history =>
      history.runs.filterMap fun run =>
        (outputRow arith run).map fun row =>
          { run := run
            tenantId := run.tenantId
            projectId := some run.projectId
            provider := row.provider
            model := row.model
            cost := row.costUsd
            tokens := row.totalTokens
            recordedAt := run.createdAt }
  | .database history snapshots =>
      snapshots.filterMap fun snapshot =>
        (history.runs.find? fun run => run.id == snapshot.runId).map fun run =>
          { run := run
            tenantId := snapshot.tenantId
            projectId := snapshot.projectId
            provider := snapshot.provider
            model := some snapshot.model
            cost := snapshot.cost
            tokens := snapshot.totalTokens
            recordedAt := snapshot.createdAt }

section

variable (arith : Arithmetic) (runtime : CostRuntime) (deployments : Table CostDeployment)
  (tenantId projectId : Int) (environment : String) (windowStart : Time)

/-- The run is bound to no deployment, or to one of the project in the environment. -/
def runsIn (run : CostRun) : Bool :=
  run.deploymentId.all fun id =>
    (scopedDeployments deployments tenantId projectId environment).contains id

/-- A run of the window, its deployment included. -/
def runInWindow (run : CostRun) : Bool :=
  run.tenantId == tenantId && run.projectId == projectId &&
    decide (windowStart ≤ run.createdAt) && runsIn deployments tenantId projectId environment run

/-- The usage is of the project and environment and of the window. -/
def inWindow (usage : Usage) : Bool :=
  (usage.tenantId == tenantId && usage.projectId == some projectId &&
      decide (windowStart ≤ usage.recordedAt)) &&
    runInWindow deployments tenantId projectId environment windowStart usage.run

end

/-! ## Rows and usage -/

/-- The row of a usage. -/
def rowOf (usage : Usage) : CostUsageRow where
  runId := usage.run.id
  agentId := usage.run.agentId
  deploymentId := usage.run.deploymentId
  provider := usage.provider
  model := usage.model
  costUsd := usage.cost
  totalTokens := usage.tokens
  status := usage.run.status
  createdAt := usage.recordedAt

section

variable {runs : List CostRun} (hnodup : (runs.map CostRun.id).Nodup) {id : Nat}
include hnodup

theorem find?_id_eq_some_iff {run : CostRun} :
    runs.find? (fun run => run.id == id) = some run ↔ run ∈ runs ∧ run.id = id := by
  constructor
  · exact fun h => ⟨List.mem_of_find?_eq_some h, by simpa using List.find?_some h⟩
  · rintro ⟨hmem, rfl⟩
    cases hfind : runs.find? fun other => other.id == run.id with
    | none => simpa using List.find?_eq_none.mp hfind run hmem
    | some other =>
      have hid : other.id = run.id := by simpa using List.find?_some hfind
      rw [List.inj_on_of_nodup_map hnodup (List.mem_of_find?_eq_some hfind) hmem hid]

/-- With distinct ids, to look up among some of the runs is to look up and then to check. -/
theorem find?_filter_runs (p : CostRun → Bool) : (runs.filter p).find? (fun run => run.id == id) =
      (runs.find? fun run => run.id == id).filter p := by
  ext run
  rw [find?_id_eq_some_iff (hnodup.sublist (List.filter_sublist.map _)), Option.filter_eq_some_iff,
    find?_id_eq_some_iff hnodup, List.mem_filter, and_right_comm]

end

section

variable {deployments : Table CostDeployment} {tenantId projectId : Int} {environment : String}
  {windowStart : Time}

theorem outputRow_fields {arith : Arithmetic} {run : CostRun} {row : CostUsageRow}
    (h : outputRow arith run = some row) :
    row = ⟨run.id, run.agentId, run.deploymentId, row.provider, row.model, row.costUsd,
      row.totalTokens, run.status, run.createdAt⟩ := by
  unfold outputRow at h
  split at h
  · dsimp only at h
    split at h
    · cases h
    · rw [← Option.some.inj h]
  · cases h

/-- The rows of the in-memory store. -/
theorem memoryRows_eq (arith : Arithmetic) (history : RunHistory) : (history.runs.filter
        (runInWindow deployments tenantId projectId environment windowStart)).filterMap
        (outputRow arith) =
      ((usages arith (.memory history)).filter
        (inWindow deployments tenantId projectId environment windowStart)).map rowOf := by
  simp only [usages]
  rw [List.filterMap_filter, List.filter_filterMap, List.map_filterMap]
  refine List.filterMap_congr fun run _ => ?_
  cases h : outputRow arith run with
  | none => simp
  | some row =>
    have hrow := outputRow_fields h
    cases hrun : runInWindow deployments tenantId projectId environment windowStart run with
    | false => simp [inWindow, hrun]
    | true =>
      have hparts := hrun
      simp only [runInWindow, Bool.and_eq_true, beq_iff_eq] at hparts
      simp [Option.filter, inWindow, hrun, hparts, rowOf, ← hrow]

/-- The rows of the database. -/
theorem databaseRows_eq (arith : Arithmetic) (history : RunHistory)
    (snapshots : List UsageSnapshot) :
    (snapshots.filter fun snapshot =>
        snapshot.tenantId == tenantId && snapshot.projectId == some projectId &&
          decide (windowStart ≤ snapshot.createdAt)).filterMap
        (snapshotRow (history.runs.filter
          (runInWindow deployments tenantId projectId environment windowStart))) =
      ((usages arith (.database history snapshots)).filter
        (inWindow deployments tenantId projectId environment windowStart)).map rowOf := by
  simp only [usages]
  rw [List.filterMap_filter, List.filter_filterMap, List.map_filterMap]
  refine List.filterMap_congr fun snapshot _ => ?_
  unfold snapshotRow
  rw [find?_filter_runs history.nodup]
  cases hfind : history.runs.find? fun run => run.id == snapshot.runId with
  | none => simp
  | some run =>
    have hid : run.id = snapshot.runId := by simpa using List.find?_some hfind
    cases hrun : runInWindow deployments tenantId projectId environment windowStart run with
    | false => simp [Option.filter, inWindow, hrun]
    | true =>
      cases hsnapshot : (snapshot.tenantId == tenantId && snapshot.projectId == some projectId &&
          decide (windowStart ≤ snapshot.createdAt)) with
      | false => simp [Option.filter, inWindow, hsnapshot]
      | true => simp [Option.filter, inWindow, hsnapshot, rowOf, hid]

end

/-- The rows are those of the usage of the window. -/
theorem loadCostRows_eq (arith : Arithmetic) (runtime : CostRuntime)
    (deployments : Table CostDeployment) (tenantId projectId : Int) (environment : String)
    (windowDays : Nat) (now : Time) :
    loadCostRows arith runtime deployments tenantId projectId environment windowDays now =
      ((usages arith runtime).filter
        (inWindow deployments tenantId projectId environment (now - days windowDays))).map
          rowOf := by
  cases runtime with
  | memory history => exact memoryRows_eq arith history
  | database history snapshots => exact databaseRows_eq arith history snapshots

/-! ## Groups -/

section

variable {α : Type} {key : α → String} {k : String} {row : α} {rows : List α}
  {groups groups' : List (String × List α)}

/-- Every row is in a group, once, and a group is the rows with its key, in order. -/
structure Grouped (key : α → String) (rows : List α) (groups : List (String × List α)) : Prop where
  perm : (groups.flatMap Prod.snd).Perm rows
  keys : (groups.map Prod.fst).Nodup
  parts : ∀ g ∈ groups, g.2 = rows.filter fun row => key row == g.1

theorem perm_addToGroup :
    ((addToGroup k row groups).flatMap Prod.snd).Perm (groups.flatMap Prod.snd ++ [row]) := by
  induction groups with
  | nil => rfl
  | cons g rest ih =>
    unfold addToGroup
    split
    · simpa using (List.perm_append_singleton row _).symm.append_left g.2
    · simpa using ih.append_left g.2

theorem keys_addToGroup : (addToGroup k row groups).map Prod.fst =
      groups.map Prod.fst ++ if k ∈ groups.map Prod.fst then [] else [k] := by
  induction groups with
  | nil => rfl
  | cons g rest ih =>
    unfold addToGroup
    by_cases hkey : g.1 = k
    · simp [hkey]
    · simp only [if_neg hkey, List.map_cons, ih, List.mem_cons, Ne.symm hkey, false_or,
        List.cons_append]

theorem forall_addToGroup {P : String × List α → Prop} (hkeys : (groups.map Prod.fst).Nodup)
    (hold : ∀ g ∈ groups, g.1 ≠ k → P g)
    (hmore : ∀ rows, (k, rows) ∈ groups → P (k, rows ++ [row]))
    (hnew : k ∉ groups.map Prod.fst → P (k, [row])) : ∀ g ∈ addToGroup k row groups, P g := by
  induction groups with
  | nil => exact List.forall_mem_singleton.mpr (hnew List.not_mem_nil)
  | cons g rest ih =>
    obtain ⟨hfirst, hrest⟩ := List.forall_mem_cons.mp hold
    obtain ⟨hnotin, hnodup⟩ := List.nodup_cons.mp hkeys
    unfold addToGroup
    split
    · next hkey =>
      subst hkey
      refine List.forall_mem_cons.mpr ⟨hmore g.2 List.mem_cons_self, fun other hother => ?_⟩
      exact hrest other hother fun hsame => hnotin (hsame ▸ List.mem_map_of_mem hother)
    · next hkey =>
      refine List.forall_mem_cons.mpr ⟨hfirst hkey, ih hnodup hrest ?_ fun hnone => hnew ?_⟩
      · exact fun rows hmem => hmore rows (List.mem_cons_of_mem g hmem)
      · simpa [Ne.symm hkey] using hnone

theorem Grouped.key_eq (h : Grouped key rows groups) {g : String × List α} (hg : g ∈ groups)
    (hrow : row ∈ g.2) : key row = g.1 := by
  rw [h.parts g hg, List.mem_filter, beq_iff_eq] at hrow
  exact hrow.2

theorem Grouped.exists_key_eq (h : Grouped key rows groups) (hrow : row ∈ rows) :
    ∃ g ∈ groups, key row = g.1 := by
  obtain ⟨g, hg, hin⟩ := List.mem_flatMap.mp (h.perm.mem_iff.mpr hrow)
  exact ⟨g, hg, h.key_eq hg hin⟩

theorem Grouped.add (h : Grouped key rows groups) (row : α) :
    Grouped key (rows ++ [row]) (addToGroup (key row) row groups) where
  perm := perm_addToGroup.trans (h.perm.append_right [row])
  keys := by
    rw [keys_addToGroup]
    split
    · simpa using h.keys
    · next hnew => exact List.nodup_append_comm.mp (List.nodup_cons.mpr ⟨hnew, h.keys⟩)
  parts := by
    refine forall_addToGroup h.keys (fun g hg hother => ?_) (fun part hpart => ?_) fun hnew => ?_
    · simpa [Ne.symm hother] using h.parts g hg
    · simpa using h.parts _ hpart
    · have hnone : rows.filter (fun other => key other == key row) = [] := by
        refine List.filter_eq_nil_iff.mpr fun other hother hsame => hnew ?_
        obtain ⟨g, hg, hkey⟩ := h.exists_key_eq hother
        exact List.mem_map.mpr ⟨g, hg, hkey.symm.trans (beq_iff_eq.mp hsame)⟩
      simp [hnone]

theorem grouped_groupRows (key : α → String) (rows : List α) :
    Grouped key rows (groupRows key rows) := by
  induction rows using List.reverseRecOn with
  | nil => exact ⟨.refl _, List.nodup_nil, nofun⟩
  | append_singleton rows row ih =>
    rw [groupRows, List.foldl_append]
    exact ih.add row

theorem Grouped.of_perm (h : Grouped key rows groups) (hperm : groups'.Perm groups) :
    Grouped key rows groups' where
  perm := (hperm.flatMap_right _).trans h.perm
  keys := (hperm.map _).nodup_iff.mpr h.keys
  parts g hg := h.parts g (hperm.mem_iff.mp hg)

/-- The sum over the groups with a key is the sum over the rows with such a key. -/
theorem Grouped.sum {M : Type} [AddCommMonoid M] (h : Grouped key rows groups) (weight : α → M)
    (p : String → Bool) :
    ((groups.filter fun g => p g.1).map fun g => (g.2.map weight).sum).sum =
      ((rows.filter fun row => p (key row)).map weight).sum := by
  rw [← ((h.perm.filter _).map weight).sum_eq]
  have hkeys : ∀ g ∈ groups, ∀ row ∈ g.2, key row = g.1 := fun g hg row => h.key_eq hg
  clear h
  induction groups with
  | nil => rfl
  | cons g rest ih =>
    obtain ⟨hkeyed, hrest⟩ := List.forall_mem_cons.mp hkeys
    have hrows : (g.2.filter fun row => p (key row)) = if p g.1 then g.2 else [] := by
      split
      · next hp => exact List.filter_eq_self.mpr fun row hrow => by rw [hkeyed row hrow, hp]
      · next hp => exact List.filter_eq_nil_iff.mpr fun row hrow => by rwa [hkeyed row hrow]
    rw [List.flatMap_cons, List.filter_append, List.map_append, List.sum_append, hrows,
      ← ih hrest, List.filter_cons]
    split <;> simp

end

/-! ## The summary -/

theorem countRuns_le {part rows : List CostUsageRow} (h : part.Sublist rows) :
    countRuns part ≤ countRuns rows := by
  refine ((List.nodup_dedup _).subperm fun id hid => ?_).length_le
  rw [List.mem_dedup] at hid ⊢
  exact (h.map _).subset hid

theorem grouped_sortedGroups (groupBy : CostGroupBy) (rows : List CostUsageRow) :
    Grouped (groupKey groupBy) rows (sortedGroups groupBy rows) :=
  (grouped_groupRows _ _).of_perm (List.perm_insertionSort _ _)

/-- Whatever is added up over the rows of the groups is added up over all rows. -/
theorem sum_sortedGroups {M : Type} [AddCommMonoid M] (groupBy : CostGroupBy)
    (rows : List CostUsageRow) (weight : CostUsageRow → M) :
    ((sortedGroups groupBy rows).map fun g => (g.2.map weight).sum).sum =
      (rows.map weight).sum := by
  simpa using (grouped_sortedGroups groupBy rows).sum weight fun _ => true

end DimooRun.Costs
