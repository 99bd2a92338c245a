/-
  Runtime/BatchRuns.lean --- the items of a batch, their numbers and their summary.

  Source: runtime/batch_runs.py, and the loop of `create_batch_run`
  in api/admin/batches.py.

  Every writer of an item gives it the status of a task, so the default for an item
  without one and the text `completed` are left out. What `create_task_run` does to the
  store and which ids it returns is a parameter.
-/
import DimooRun.Foundation.Json
import DimooRun.Runtime.StateMachine

set_option autoImplicit false

namespace DimooRun.Runtime

open Foundation

/-- An item of a batch, as it is stored with the record. -/
structure BatchItem where
  index : Nat
  status : TaskStatus
  input : PyValue
  runId : Option Int := none
  taskId : Option Int := none
  errorCode : Option String := none
  message : Option String := none

/-! ## The summary of a batch -/

/-- `BatchProgressSummary`. -/
structure BatchProgressSummary where
  totalItems : Nat
  queuedItems : Nat
  runningItems : Nat
  retryingItems : Nat
  failedItems : Nat
  deadLetterItems : Nat
  cancelledItems : Nat
  completedItems : Nat
  terminalItems : Nat

section

variable (items : List BatchItem) (statuses : List TaskStatus)

/-- How many items have one of the statuses. -/
def countItems : Nat :=
  items.countP fun item => item.status ∈ statuses

/-- `summarize_batch_items`. -/
def summarizeBatchItems : BatchProgressSummary :=
  let failed := countItems items [.failed]
  let deadLetter := countItems items [.deadLetter]
  let cancelled := countItems items [.cancelled]
  let completed := countItems items [.succeeded]
  { totalItems := items.length
    queuedItems := countItems items [.queued]
    runningItems := countItems items [.leased, .running]
    retryingItems := countItems items [.retrying]
    failedItems := failed
    deadLetterItems := deadLetter
    cancelledItems := cancelled
    completedItems := completed
    terminalItems := failed + deadLetter + cancelled + completed }

/-- The statuses of a batch. -/
inductive BatchStatus where
  | empty
  | cancelled
  | failed
  | completed
  | running
  | partialFailed
  | queued
  deriving DecidableEq

/-- `overall_batch_status`. -/
def overallBatchStatus (summary : BatchProgressSummary) : BatchStatus :=
  if summary.totalItems = 0 then .empty
  else if summary.cancelledItems = summary.totalItems then .cancelled
  else if summary.failedItems + summary.deadLetterItems = summary.totalItems then .failed
  else if summary.completedItems = summary.totalItems then .completed
  else if summary.runningItems > 0 ∨ summary.retryingItems > 0 then .running
  else if summary.failedItems > 0 ∨ summary.deadLetterItems > 0 then .partialFailed
  else .queued

/-- The sum of the seven counts. -/
def BatchProgressSummary.counted (summary : BatchProgressSummary) : Nat :=
  summary.queuedItems + summary.runningItems + summary.retryingItems + summary.failedItems +
    summary.deadLetterItems + summary.cancelledItems + summary.completedItems

/-- The statuses that say that no work remains. -/
def BatchStatus.Closed (status : BatchStatus) : Prop :=
  status ∈ [.completed, .failed, .cancelled, .partialFailed]

/-- The statuses that `terminal_items` counts. -/
def BatchItem.Terminal (item : BatchItem) : Prop :=
  item.status ∈ [.failed, .deadLetter, .cancelled, .succeeded]

/-- An item with one of the statuses is there. -/
def Occurs : Prop :=
  ∃ item ∈ items, item.status ∈ statuses

theorem countItems_cons (item : BatchItem) (items : List BatchItem) (statuses : List TaskStatus) :
    countItems (item :: items) statuses =
      countItems items statuses + if item.status ∈ statuses then 1 else 0 := by
  simp [countItems, List.countP_cons]

theorem counted_summarizeBatchItems : (summarizeBatchItems items).counted = items.length := by
  induction items with
  | nil => rfl
  | cons item items ih =>
    simp only [summarizeBatchItems, BatchProgressSummary.counted, countItems_cons] at ih ⊢
    cases item.status <;> simp <;> omega

end

section

variable (items : List BatchItem)

theorem not_occurs_nil : ¬ Occurs items [] := by
  simp [Occurs]

theorem occurs_cons (status : TaskStatus) (rest : List TaskStatus) :
    Occurs items (status :: rest) ↔ 0 < countItems items [status] ∨ Occurs items rest := by
  simp only [Occurs, countItems, List.countP_pos_iff, decide_eq_true_eq, List.mem_cons,
    List.not_mem_nil, or_false, and_or_left, exists_or]

theorem countItems_running : countItems items [.leased, .running] =
      countItems items [.leased] + countItems items [.running] := by
  induction items with
  | nil => rfl
  | cons item items ih =>
    simp only [countItems_cons]
    cases item.status <;> simp <;> omega

/-- Every item is terminal if none is queued, at work or waiting for a retry. -/
theorem forall_terminal_iff :
    (∀ item ∈ items, item.Terminal) ↔ ¬ Occurs items [.queued, .leased, .running, .retrying] := by
  simp only [Occurs, not_exists, not_and]
  refine forall₂_congr fun item _ => ?_
  unfold BatchItem.Terminal
  cases item.status <;> decide

end

/-- The status of a batch says whether work remains unless it has failed items, queued
ones and none at work, or cancelled items, finished ones and no others. -/
theorem batch_status_tells_iff (items : List BatchItem) :
    ((summarizeBatchItems items).counted = items.length ∧
      ((overallBatchStatus (summarizeBatchItems items)).Closed ↔
        items ≠ [] ∧ ∀ item ∈ items, item.Terminal)) ↔
      ¬ (Occurs items [.failed, .deadLetter] ∧ Occurs items [.queued] ∧
          ¬ Occurs items [.leased, .running, .retrying]) ∧
        ¬ (Occurs items [.cancelled] ∧ Occurs items [.succeeded] ∧
          ¬ Occurs items [.queued, .leased, .running, .retrying, .failed, .deadLetter]) := by
  have hcounted := counted_summarizeBatchItems items
  rw [and_iff_right hcounted, forall_terminal_iff, ← List.length_pos_iff]
  simp only [BatchProgressSummary.counted, summarizeBatchItems, countItems_running] at hcounted
  simp only [occurs_cons, not_occurs_nil, overallBatchStatus, BatchStatus.Closed,
    summarizeBatchItems, countItems_running]
  -- the cascade decides by counts, and the counts add up to the length
  split_ifs <;> simp <;> omega

/-- A finished item and a cancelled one, and the batch is queued; a failed item and a
queued one, and the batch has partly failed. -/
theorem batch_status_misleads : overallBatchStatus (summarizeBatchItems
        [⟨0, .succeeded, .dict [], none, none, none, none⟩,
          ⟨1, .cancelled, .dict [], none, none, none, none⟩]) = .queued ∧
      overallBatchStatus (summarizeBatchItems [⟨0, .failed, .none, none, none, none, none⟩,
          ⟨1, .queued, .dict [], none, none, none, none⟩]) = .partialFailed := by
  decide

/-! ## The items of a new batch -/

/-- `PartialFailurePolicy`. -/
inductive PartialFailurePolicy where
  | continues
  | aborts
  deriving DecidableEq

/-- The record of an input that is not an object. -/
def invalidItem (index : Nat) (input : PyValue) : BatchItem where
  index := index
  status := .failed
  input := input
  errorCode := some "batch_item_invalid"
  message := some "Batch input item must be an object."

/-- `isinstance(item, dict)`, with the dictionary. -/
def object? : PyValue → Option PyDict
  | .dict items => some items
  | _ => none

/-- The loop of `normalize_batch_items`, from an index on. -/
def normalizeFrom (policy : PartialFailurePolicy) :
    Nat → List PyValue → Except String (List PyDict × List BatchItem)
  | _, [] => .ok ([], [])
  | index, item :: items =>
      match object? item with
      | some object => do
          let (accepted, failed) ← normalizeFrom policy (index + 1) items
          return (object :: accepted, failed)
      | none => do
          if policy = .aborts then
            throw "batch_item_invalid"
          let (accepted, failed) ← normalizeFrom policy (index + 1) items
          return (accepted, invalidItem index item :: failed)

/-- `normalize_batch_items`. -/
def normalizeBatchItems (policy : PartialFailurePolicy) (items : List PyValue) :
    Except String (List PyDict × List BatchItem) :=
  normalizeFrom policy 0 items

section

variable {ε σ : Type} (createTaskRun : Nat → PyDict → EStateM ε σ (Int × Int))

/-- The loop of `create_batch_run` over the accepted items, from an index on. -/
def createItems : Nat → List PyDict → EStateM ε σ (List BatchItem)
  | _, [] => pure []
  | index, item :: items => do
      let (runId, taskId) ← createTaskRun index item
      let rest ← createItems (index + 1) items
      return { index := index, status := .queued, input := .dict item, runId := some runId
               taskId := some taskId } :: rest

/-- The items that `create_batch_run` stores, or the code of the error it answers with. -/
def createBatchItems (policy : PartialFailurePolicy) (inputs : List PyValue) :
    EStateM ε σ (Except String (List BatchItem)) :=
  match normalizeBatchItems policy inputs with
  | .error code => pure (.error code)
  | .ok (accepted, failed) => do
      let created ← createItems createTaskRun 0 accepted
      return .ok ((failed ++ created).insertionSort fun a b => a.index ≤ b.index)

variable {createTaskRun}

/-- The accepted items are numbered among themselves. -/
theorem createItems_spec (accepted : List PyDict) :
    ∀ (index : Nat) (s s' : σ) (items : List BatchItem),
      (createItems createTaskRun index accepted).run s = .ok items s' →
        items.map BatchItem.index = List.range' index accepted.length ∧
          ∀ item ∈ items, item.status = .queued ∧
            ∃ object, item.input = .dict object ∧ (object, item.index) ∈ accepted.zipIdx index := by
  induction accepted with
  | nil =>
    intro index s s' items h
    cases h
    exact ⟨rfl, nofun⟩
  | cons object accepted ih =>
    intro index s s' items h
    obtain ⟨ids, t, _, h⟩ := run_bind_eq_ok h
    obtain ⟨rest, t', hrest, h⟩ := run_bind_eq_ok h
    obtain ⟨hindices, hitems⟩ := ih (index + 1) t t' rest hrest
    cases h
    refine ⟨congrArg (index :: ·) hindices, ?_⟩
    intro item hmem
    rcases List.mem_cons.mp hmem with rfl | hmem
    · exact ⟨rfl, object, rfl, List.mem_cons_self⟩
    · obtain ⟨hstatus, other, hinput, hzip⟩ := hitems item hmem
      exact ⟨hstatus, other, hinput, List.mem_cons_of_mem _ hzip⟩

/-- The records of the inputs that are no objects. -/
def invalidItems (index : Nat) (inputs : List PyValue) : List BatchItem :=
  ((inputs.zipIdx index).filter fun input => (object? input.1).isNone).map
    fun input => invalidItem input.2 input.1

/-- Inputs that are no objects keep their positions. -/
theorem normalizeFrom_continues (inputs : List PyValue) :
    ∀ index, normalizeFrom .continues index inputs =
      .ok (inputs.filterMap object?, invalidItems index inputs) := by
  induction inputs with
  | nil => intro index; rfl
  | cons input inputs ih =>
    cases hobject : object? input with
    | some object => simp [normalizeFrom, invalidItems, hobject, ih]
    | none => simp [normalizeFrom, invalidItems, hobject, ih]

/-- What is stored, up to its order. -/
theorem createBatchItems_spec {inputs : List PyValue} {s s' : σ} {items : List BatchItem}
    (h : (createBatchItems createTaskRun .continues inputs).run s = .ok (.ok items) s') :
    ∃ created, items.Perm (invalidItems 0 inputs ++ created) ∧
      created.map BatchItem.index = List.range (inputs.filterMap object?).length ∧
      ∀ item ∈ created, item.status = .queued ∧ ∃ object, item.input = .dict object ∧
          (inputs.filterMap object?)[item.index]? = some object := by
  simp only [createBatchItems, normalizeBatchItems, normalizeFrom_continues] at h
  obtain ⟨created, t, hcreated, h⟩ := run_bind_eq_ok h
  cases h
  obtain ⟨hindices, hitems⟩ := createItems_spec _ _ _ _ _ hcreated
  refine ⟨created, List.perm_insertionSort _ _, hindices.trans List.range_eq_range'.symm, ?_⟩
  intro item hmem
  obtain ⟨hstatus, object, hinput, hzip⟩ := hitems item hmem
  exact ⟨hstatus, object, hinput, List.mk_mem_zipIdx_iff_getElem?.mp hzip⟩

/-- No object after an input that is none: the objects come first. -/
theorem objects_first (inputs : List PyValue)
    (h : inputs.Pairwise fun a b => (object? b).isSome → (object? a).isSome) :
    ∃ (objects : List PyDict) (others : List PyValue), inputs = objects.map .dict ++ others ∧
      ∀ other ∈ others, object? other = none := by
  induction inputs with
  | nil => exact ⟨[], [], rfl, nofun⟩
  | cons input inputs ih =>
    obtain ⟨hinput, hrest⟩ := List.pairwise_cons.mp h
    cases hobject : object? input with
    | some object =>
      obtain ⟨objects, others, heq, hothers⟩ := ih hrest
      refine ⟨object :: objects, others, ?_, hothers⟩
      cases input <;> cases hobject
      rw [heq]
      rfl
    | none =>
      refine ⟨[], input :: inputs, rfl, List.forall_mem_cons.mpr ⟨hobject, ?_⟩⟩
      intro other hmem
      simpa [hobject] using hinput other hmem

theorem invalidItems_append (objects : List PyDict) (others : List PyValue)
    (h : ∀ other ∈ others, object? other = none) :
    invalidItems 0 (objects.map .dict ++ others) =
      (others.zipIdx objects.length).map fun other => invalidItem other.2 other.1 := by
  unfold invalidItems
  rw [List.zipIdx_append, List.filter_append, List.filter_eq_nil_iff.mpr, List.nil_append,
    List.filter_eq_self.mpr, List.length_map, Nat.zero_add]
  · intro other hmem
    rw [h other.1 (List.fst_mem_of_mem_zipIdx hmem)]
    rfl
  · intro object hmem
    obtain ⟨items, _, heq⟩ := List.mem_map.mp (List.fst_mem_of_mem_zipIdx hmem)
    rw [← heq]
    exact Bool.false_ne_true

end

/-- The stored items keep the positions of the inputs exactly if no object comes after an
input that is none. -/
theorem batch_items_keep_positions_iff {ε σ : Type}
    (createTaskRun : Nat → PyDict → EStateM ε σ (Int × Int)) (inputs : List PyValue) (s s' : σ)
    (items : List BatchItem)
    (h : (createBatchItems createTaskRun .continues inputs).run s = .ok (.ok items) s') :
    ((items.map BatchItem.index).Perm (List.range inputs.length) ∧
      ∀ item ∈ items, inputs[item.index]? = some item.input ∧
        item.status = if (object? item.input).isSome then .queued else .failed) ↔
      inputs.Pairwise fun a b => (object? b).isSome → (object? a).isSome := by
  obtain ⟨created, hperm, hindices, hcreated⟩ := createBatchItems_spec h
  constructor
  · rintro ⟨hrange, hitems⟩
    have hlt : ∀ item ∈ created, item.index < (inputs.filterMap object?).length := by
      intro item hmem
      rw [← List.mem_range, ← hindices]
      exact List.mem_map_of_mem hmem
    rw [List.pairwise_iff_getElem]
    intro i j hi hj hij hobject
    -- the record of the object at `j` is one of the accepted, so there is one for `i` too
    obtain ⟨item, hitem, rfl⟩ : ∃ item ∈ items, item.index = j :=
      List.mem_map.mp (hrange.mem_iff.mpr (List.mem_range.mpr hj))
    obtain ⟨hinput, hstatus⟩ := hitems item hitem
    rw [List.getElem?_eq_getElem hj, Option.some.injEq] at hinput
    rw [← hinput, if_pos hobject] at hstatus
    rcases List.mem_append.mp (hperm.mem_iff.mp hitem) with hinvalid | hmem
    · obtain ⟨_, _, rfl⟩ := List.mem_map.mp hinvalid
      cases hstatus
    · have hi' : i ∈ created.map BatchItem.index := by
        rw [hindices, List.mem_range]
        exact hij.trans (hlt item hmem)
      obtain ⟨other, hother, rfl⟩ := List.mem_map.mp hi'
      obtain ⟨_, object, hobject, _⟩ := hcreated other hother
      obtain ⟨hinput, -⟩ := hitems other (hperm.mem_iff.mpr (List.mem_append_right _ hother))
      rw [List.getElem?_eq_getElem hi, Option.some.injEq] at hinput
      rw [hinput, hobject]
      rfl
  · intro hfirst
    obtain ⟨objects, others, rfl, hothers⟩ := objects_first inputs hfirst
    have hobjects : (objects.map PyValue.dict ++ others).filterMap object? = objects := by
      rw [List.filterMap_append, List.filterMap_eq_nil_iff.mpr hothers, List.append_nil,
        List.filterMap_map]
      exact List.filterMap_some
    rw [hobjects] at hindices hcreated
    rw [invalidItems_append objects others hothers] at hperm
    refine ⟨?_, ?_⟩
    · refine (hperm.map _).trans ?_
      have hothers' : (others.zipIdx objects.length).map
          (BatchItem.index ∘ fun other => invalidItem other.2 other.1) =
            List.range' objects.length others.length := List.zipIdx_map_snd ..
      rw [List.map_append, hindices, List.map_map, hothers', List.length_append, List.length_map,
        List.range_add, List.range'_eq_map_range]
      exact List.perm_append_comm
    · intro item hitem
      rcases List.mem_append.mp (hperm.mem_iff.mp hitem) with hinvalid | hmem
      · obtain ⟨other, hother, rfl⟩ := List.mem_map.mp hinvalid
        obtain ⟨hle, hget⟩ := List.mem_zipIdx_iff_le_and_getElem?_sub.mp hother
        have hnone := hothers other.1 (List.mem_of_getElem? hget)
        refine ⟨?_, ?_⟩
        · rw [List.getElem?_append_right (by rwa [List.length_map]), List.length_map]
          exact hget
        · simp [invalidItem, hnone]
      · obtain ⟨hstatus, object, hinput, hget⟩ := hcreated item hmem
        obtain ⟨hlt, -⟩ := List.getElem?_eq_some_iff.mp hget
        rw [hinput, hstatus, List.getElem?_append_left (by rwa [List.length_map]),
          List.getElem?_map, hget]
        exact ⟨rfl, rfl⟩

/-- A store that hands out ids in order. -/
def counting (_ : Nat) (_ : PyDict) : EStateM Unit Int (Int × Int) := do
  let id ← getModify (· + 1)
  return (id, id)

theorem batch_items_keep_positions_object_first :
    ([⟨0, .queued, .dict [], some 7, some 7, none, none⟩, invalidItem 1 .none].map
        BatchItem.index).Perm (List.range 2) :=
  ((batch_items_keep_positions_iff counting [.dict [], .none] 7 8 _ rfl).mpr (by simp [object?])).1

/-- With the object second, both records are numbered 0. -/
theorem batch_items_lose_positions :
    (createBatchItems counting .continues [.none, .dict []]).run 7 =
      .ok (.ok [invalidItem 0 .none, ⟨0, .queued, .dict [], some 7, some 7, none, none⟩]) 8 := by
  rfl

end DimooRun.Runtime
