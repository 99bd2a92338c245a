/-
  Catalog/AssetLifecycle.lean --- `catalog/asset_lifecycle.py`: the versions of one asset,
  oldest first, and the six lifecycle operations on them.

  What the validation finds and where a version is used are inputs of the calls.
-/
import DimooRun.Foundation.Trace
import Mathlib.Data.List.Nodup

set_option autoImplicit false

namespace DimooRun.Catalog

open Foundation (Entry entry trace final forall_mem_trace forall_mem_trace_iff admitted_true)

inductive AssetStatus where
  | draft | validated | approved | published | deprecated | archived
  /-- another text; a catalog item is created with the status "active" -/
  | other (text : String)
  deriving DecidableEq

inductive AssetAction where
  | validate | approve | publish | deprecate | archive | rollback
  deriving DecidableEq

structure HistoryEntry where
  action : AssetAction
  fromStatus : AssetStatus
  toStatus : AssetStatus
  deriving DecidableEq

/-- One version. `status` is what `_status` reads: the column of a catalog item, and the status in
the metadata for the other kinds. `lifecycle` is the status in the metadata, and `validationPassed`
says whether the status of the stored validation is "passed". -/
structure AssetRecord where
  id : Nat
  version : String
  status : AssetStatus := .draft
  lifecycle : Option AssetStatus := none
  validationPassed : Bool := false
  history : List HistoryEntry := []
  deriving DecidableEq

structure AssetLifecycleError where
  code : String
  message : String
  statusCode : Nat := 400
  deriving DecidableEq

/-- What `_usage_entries` says of one user of the version. -/
structure UsageEntry where
  deployment : Bool
  active : Bool

def AssetRecord.previousStatus (record : AssetRecord) : AssetStatus :=
  record.lifecycle.getD record.status

def AssetRecord.setLifecycle (record : AssetRecord) (status : AssetStatus) (action : AssetAction) :
    AssetRecord :=
  { record with
    status := status
    lifecycle := some status
    history := record.history ++ [⟨action, record.previousStatus, status⟩] }

def setLifecycle (group : List AssetRecord) (id : Nat) (status : AssetStatus)
    (action : AssetAction) : List AssetRecord :=
  group.map fun a => if a.id = id then a.setLifecycle status action else a

def AssetRecord.validate (record : AssetRecord) (passed : Bool) : AssetRecord :=
  { record.setLifecycle (if passed then .validated else record.status) .validate with
    validationPassed := passed }

section

variable (group : List AssetRecord) (record : AssetRecord)

def validateAsset (passed : Bool) : List AssetRecord :=
  group.map fun a => if a.id = record.id then a.validate passed else a

def approveAsset : Except AssetLifecycleError (List AssetRecord) :=
  if record.validationPassed then .ok (setLifecycle group record.id .approved .approve)
  else .error ⟨"asset_validation_required", "Asset validation must pass before approval.", 400⟩

/-- The published siblings are superseded first. -/
def publishAsset : Except AssetLifecycleError (List AssetRecord) :=
  if record.status = .approved ∨ record.status = .published then
    let siblings := group.map fun sibling =>
      if sibling.id = record.id ∨ sibling.status ≠ .published then sibling
      else sibling.setLifecycle .deprecated .deprecate
    .ok (setLifecycle siblings record.id .published .publish)
  else .error ⟨"asset_approval_required", "Asset must be approved before publish.", 400⟩

variable (usedBy : List UsageEntry)

def usedByActiveDeployment : Bool :=
  usedBy.any fun entry => entry.deployment && entry.active

def deprecateAsset : Except AssetLifecycleError (List AssetRecord) :=
  if usedByActiveDeployment usedBy then
    .error ⟨"asset_in_use_by_active_deployment",
      "Asset is still referenced by an active deployment.", 409⟩
  else .ok (setLifecycle group record.id .deprecated .deprecate)

def archiveAsset : Except AssetLifecycleError (List AssetRecord) :=
  if usedBy.any UsageEntry.active then
    .error ⟨"asset_still_referenced",
      "Asset still has active references and cannot be archived.", 409⟩
  else .ok (setLifecycle group record.id .archived .archive)

/-- The first part of `rollback_asset`: the version it goes back to. -/
def rollbackTarget (targetVersion : Option String) : Except AssetLifecycleError AssetRecord :=
  let target : Option AssetRecord := match targetVersion.filter (· ≠ "") with
    | some version => group.find? (·.version = version)
    | none => (group.filter (·.id ≠ record.id)).getLast?
  match target with
  | none => .error ⟨"rollback_target_not_found", "Rollback target version was not found.", 404⟩
  | some target =>
    if target.id = record.id then
      .error ⟨"rollback_target_invalid", "Rollback target must be a different version.", 400⟩
    else .ok target

def rollbackAsset (targetVersion : Option String) :
    Except AssetLifecycleError (List AssetRecord) := do
  let target ← rollbackTarget group record targetVersion
  return setLifecycle (setLifecycle group record.id .deprecated .rollback) target.id
    .published .publish

end

inductive AssetCall where
  | validate (id : Nat) (passed : Bool)
  | approve (id : Nat)
  | publish (id : Nat)
  | deprecate (id : Nat) (usedBy : List UsageEntry)
  | archive (id : Nat) (usedBy : List UsageEntry)
  | rollback (id : Nat) (targetVersion : Option String)

def AssetCall.id : AssetCall → Nat
  | .validate id _ | .approve id | .publish id | .deprecate id _ | .archive id _
  | .rollback id _ => id

def perform (group : List AssetRecord) (record : AssetRecord) :
    AssetCall → Except AssetLifecycleError (List AssetRecord)
  | .validate _ passed => .ok (validateAsset group record passed)
  | .approve _ => approveAsset group record
  | .publish _ => publishAsset group record
  | .deprecate _ usedBy => deprecateAsset group record usedBy
  | .archive _ usedBy => archiveAsset group record usedBy
  | .rollback _ targetVersion => rollbackAsset group record targetVersion

/-- A request: no reply of the operation for an unknown version, and no change after an error. -/
def exec (group : List AssetRecord) (call : AssetCall) :
    Option (Except AssetLifecycleError Unit) × List AssetRecord :=
  match group.find? (·.id = call.id) with
  | none => (none, group)
  | some record =>
    match perform group record call with
    | .error error => (some (.error error), group)
    | .ok group' => (some (.ok ()), group')

variable {group group' : List AssetRecord} {record target : AssetRecord} {call : AssetCall}
variable {targetVersion : Option String}

@[simp] theorem AssetRecord.id_setLifecycle (status : AssetStatus) (action : AssetAction) :
    (record.setLifecycle status action).id = record.id := rfl

@[simp] theorem AssetRecord.status_setLifecycle (status : AssetStatus) (action : AssetAction) :
    (record.setLifecycle status action).status = status := rfl

theorem rollbackTarget_ok (h : rollbackTarget group record targetVersion = .ok target) :
    target ∈ group ∧ target.id ≠ record.id := by
  unfold rollbackTarget at h
  dsimp only at h
  split at h
  · cases h
  · rename_i found hfound
    split at h
    · cases h
    · rename_i hne
      cases h
      refine ⟨?_, hne⟩
      split at hfound
      · exact List.mem_of_find?_eq_some hfound
      · exact (List.mem_filter.mp (List.mem_of_getLast? hfound)).1

/-- When the operation is carried out. -/
def Guard (group : List AssetRecord) (record : AssetRecord) : AssetCall → Prop
  | .validate _ _ => True
  | .approve _ => record.validationPassed = true
  | .publish _ => record.status = .approved ∨ record.status = .published
  | .deprecate _ usedBy => ¬ usedByActiveDeployment usedBy = true
  | .archive _ usedBy => ¬ usedBy.any UsageEntry.active = true
  | .rollback _ targetVersion => ∃ target, rollbackTarget group record targetVersion = .ok target

/-- What the operation, once carried out, makes of each version of the group. -/
def effect (group : List AssetRecord) (record : AssetRecord) (call : AssetCall)
    (a : AssetRecord) : AssetRecord :=
  match call with
  | .validate _ passed => if a.id = record.id then a.validate passed else a
  | .approve _ => if a.id = record.id then a.setLifecycle .approved .approve else a
  | .publish _ =>
    if a.id = record.id then a.setLifecycle .published .publish
    else if a.status = .published then a.setLifecycle .deprecated .deprecate else a
  | .deprecate _ _ => if a.id = record.id then a.setLifecycle .deprecated .deprecate else a
  | .archive _ _ => if a.id = record.id then a.setLifecycle .archived .archive else a
  | .rollback _ targetVersion =>
    if a.id = record.id then a.setLifecycle .deprecated .rollback
    else if (rollbackTarget group record targetVersion).toOption.map AssetRecord.id = some a.id then
      a.setLifecycle .published .publish
    else a

theorem ite_ok_iff {ε α : Type} {p : Prop} [Decidable p] {e : ε} {x y : α} :
    (if p then Except.ok x else .error e) = .ok y ↔ p ∧ y = x := by
  by_cases hp : p <;> simp [hp, eq_comm]

theorem ite_error_iff {ε α : Type} {p : Prop} [Decidable p] {e : ε} {x y : α} :
    (if p then Except.error e else .ok x) = .ok y ↔ ¬ p ∧ y = x := by
  by_cases hp : p <;> simp [hp, eq_comm]

theorem perform_ok_iff : perform group record call = .ok group' ↔
    Guard group record call ∧ group' = group.map (effect group record call) := by
  cases call with
  | validate id passed =>
    simp only [perform, Guard, true_and, Except.ok.injEq]
    exact eq_comm
  | approve id => exact ite_ok_iff
  | publish id =>
    refine ite_ok_iff.trans (and_congr_right fun _ => Eq.congr_right ?_)
    rw [setLifecycle, List.map_map]
    refine List.map_congr_left fun a _ => ?_
    by_cases ha : a.id = record.id <;> by_cases hp : a.status = .published <;>
      simp [effect, ha, hp]
  | «deprecate» id usedBy | archive id usedBy => exact ite_error_iff
  | rollback id targetVersion =>
    simp only [perform, rollbackAsset, Guard]
    cases htarget : rollbackTarget group record targetVersion with
    | error error => simp [bind, Except.bind]
    | ok target =>
      have hne := (rollbackTarget_ok htarget).2
      simp only [bind, Except.bind, pure, Except.pure, Except.ok.injEq, exists_eq', true_and,
        setLifecycle, List.map_map]
      rw [eq_comm]
      refine Eq.congr_right (List.map_congr_left fun a _ => ?_)
      by_cases ha : a.id = record.id
      · simp [effect, ha, hne.symm]
      · simp [effect, ha, htarget, Except.toOption, @eq_comm _ a.id target.id]

@[simp] theorem id_effect (a : AssetRecord) : (effect group record call a).id = a.id := by
  cases call <;> simp only [effect] <;> (repeat' split) <;> rfl

def DistinctIds (group : List AssetRecord) : Prop := (group.map AssetRecord.id).Nodup

theorem DistinctIds.eq (hids : DistinctIds group) {a b : AssetRecord} (ha : a ∈ group)
    (hb : b ∈ group) (h : a.id = b.id) : a = b :=
  List.inj_on_of_nodup_map hids ha hb h

theorem DistinctIds.map (hids : DistinctIds group) :
    DistinctIds (group.map (effect group record call)) := by
  simpa only [DistinctIds, List.map_map, Function.comp_def, id_effect] using hids

theorem exec_cases (hids : DistinctIds group) (call : AssetCall) :
    (∃ record ∈ group, record.id = call.id ∧ Guard group record call ∧
        (exec group call).2 = group.map (effect group record call)) ∨
      (exec group call).2 = group ∧
        ∀ record ∈ group, record.id = call.id → ¬ Guard group record call := by
  unfold exec
  cases hfind : group.find? (·.id = call.id) with
  | none =>
    refine .inr ⟨rfl, fun record hmem hid _ => ?_⟩
    exact List.find?_eq_none.mp hfind record hmem (decide_eq_true hid)
  | some record =>
    have hmem := List.mem_of_find?_eq_some hfind
    have hid : record.id = call.id := of_decide_eq_true (List.find?_some hfind :)
    cases hdone : perform group record call with
    | ok group' =>
      simp only [hdone]
      exact .inl ⟨record, hmem, hid, perform_ok_iff.mp hdone⟩
    | error error =>
      simp only [hdone]
      refine .inr ⟨trivial, fun record' hmem' hid' hguard => ?_⟩
      cases hids.eq hmem hmem' (hid.trans hid'.symm)
      cases hdone.symm.trans (perform_ok_iff.mpr ⟨hguard, rfl⟩)

/-! ## At most one published version -/

def AtMostOnePublished (group : List AssetRecord) : Prop :=
  ∀ a ∈ group, ∀ b ∈ group, a.status = .published → b.status = .published → a.id = b.id

/-- Nothing but the version that a rollback leaves and the version it goes back to is published. -/
def ReplacesPublished (group : List AssetRecord) (call : AssetCall) : Prop :=
  ∀ record ∈ group, record.id = call.id →
    match call with
    | .rollback _ targetVersion => ∀ target, rollbackTarget group record targetVersion = .ok target →
        ∀ a ∈ group, a.status = .published → a.id = record.id ∨ a.id = target.id
    | _ => True

theorem atMostOnePublished_rollback_iff {id : Nat}
    (h : rollbackTarget group record targetVersion = .ok target) :
    AtMostOnePublished (group.map (effect group record (.rollback id targetVersion))) ↔
      ∀ a ∈ group, a.status = .published → a.id = record.id ∨ a.id = target.id := by
  obtain ⟨hmem, hne⟩ := rollbackTarget_ok h
  simp only [AtMostOnePublished, List.forall_mem_map, id_effect]
  have hstatus : ∀ a, (effect group record (.rollback id targetVersion) a).status = .published ↔
      a.id = target.id ∨ a.id ≠ record.id ∧ a.status = .published := by
    intro a
    by_cases har : a.id = record.id
    · simp [effect, har, hne.symm]
    · by_cases hat : a.id = target.id <;>
        simp [effect, har, hat, hne, h, Except.toOption, @eq_comm _ target.id]
  simp only [hstatus]
  constructor
  · intro hall a ha hp
    by_contra hother
    obtain ⟨har, hat⟩ := not_or.mp hother
    exact hat (hall a ha target hmem (.inr ⟨har, hp⟩) (.inl rfl))
  · have hid : ∀ a ∈ group, (∀ b ∈ group, b.status = .published →
        b.id = record.id ∨ b.id = target.id) →
        a.id = target.id ∨ a.id ≠ record.id ∧ a.status = .published → a.id = target.id := by
      rintro a ha hall (hat | ⟨har, hp⟩)
      · exact hat
      · exact (hall a ha hp).resolve_left har
    exact fun hall a ha b hb hpa hpb => (hid a ha hall hpa).trans (hid b hb hall hpb).symm

theorem AtMostOnePublished.map (hone : AtMostOnePublished group)
    (h : ∀ a, (effect group record call a).status = .published → a.status = .published) :
    AtMostOnePublished (group.map (effect group record call)) := by
  simp only [AtMostOnePublished, List.forall_mem_map, id_effect]
  exact fun a ha b hb hpa hpb => hone a ha b hb (h a hpa) (h b hpb)

theorem atMostOnePublished_exec_iff (hids : DistinctIds group) (hone : AtMostOnePublished group)
    (call : AssetCall) :
    AtMostOnePublished (exec group call).2 ↔ ReplacesPublished group call := by
  rcases exec_cases hids call with ⟨record, hmem, hid, hguard, heq⟩ | ⟨heq, hno⟩
  · rw [heq]
    cases call with
    | rollback id targetVersion =>
      obtain ⟨target, htarget⟩ := hguard
      rw [atMostOnePublished_rollback_iff htarget]
      constructor
      · intro h record' hrecord' hid' target' htarget'
        cases hids.eq hmem hrecord' (hid.trans hid'.symm)
        cases htarget.symm.trans htarget'
        exact h
      · exact fun h => h record hmem hid target htarget
    | publish id =>
      refine iff_of_true ?_ fun _ _ _ => trivial
      simp only [AtMostOnePublished, List.forall_mem_map, id_effect]
      have hid : ∀ a ∈ group, (effect group record (.publish id) a).status = .published →
          a.id = record.id := by
        intro a _ hp
        by_contra ha
        by_cases hpa : a.status = .published <;> simp [effect, ha, hpa] at hp
      exact fun a ha b hb hpa hpb => (hid a ha hpa).trans (hid b hb hpb).symm
    | validate id passed =>
      refine iff_of_true (hone.map fun a => ?_) fun _ _ _ => trivial
      by_cases ha : a.id = record.id <;> cases passed <;> simp [effect, ha, AssetRecord.validate]
    | _ =>
      refine iff_of_true (hone.map fun a => ?_) fun _ _ _ => trivial
      by_cases ha : a.id = record.id <;> simp [effect, ha]
  · rw [heq]
    refine iff_of_true hone fun record hmem hid => ?_
    cases call with
    | rollback id targetVersion =>
      exact fun target htarget => absurd ⟨target, htarget⟩ (hno record hmem hid)
    | _ => trivial

theorem distinctIds_exec (hids : DistinctIds group) (call : AssetCall) :
    DistinctIds (exec group call).2 := by
  rcases exec_cases hids call with ⟨record, -, -, -, heq⟩ | ⟨heq, -⟩ <;> rw [heq]
  · exact hids.map
  · exact hids

/-- From a group with at most one published version, every state of a run has at most one if and
only if every rollback finds nothing else published than the two versions it changes. -/
theorem at_most_one_published_iff (hids : DistinctIds group) (hone : AtMostOnePublished group)
    (calls : List AssetCall) :
    (∀ e ∈ trace exec group calls, AtMostOnePublished e.after) ↔
      ∀ e ∈ trace exec group calls, ReplacesPublished e.before e.call := by
  refine forall_mem_trace_iff exec (I := fun group => DistinctIds group ∧ AtMostOnePublished group)
    (P := fun e => AtMostOnePublished e.after) (fun group call h => ?_) calls group ⟨hids, hone⟩
  have hiff := atMostOnePublished_exec_iff h.1 h.2 call
  exact ⟨hiff, fun hadm => ⟨distinctIds_exec h.1 call, hiff.mpr hadm⟩⟩

def draftVersions : List AssetRecord :=
  [{ id := 1, version := "1.0" }, { id := 2, version := "2.0" }, { id := 3, version := "3.0" }]

theorem distinctIds_draftVersions : DistinctIds draftVersions := by
  unfold DistinctIds
  decide

/-- A rollback from the second draft to the first, with nothing published before. -/
theorem at_most_one_published_iff_republish :
    DistinctIds draftVersions ∧ AtMostOnePublished draftVersions ∧
      ((∀ e ∈ trace exec draftVersions [.rollback 2 (some "1.0")], AtMostOnePublished e.after) ↔
        ∀ e ∈ trace exec draftVersions [.rollback 2 (some "1.0")],
          ReplacesPublished e.before e.call) := by
  have hone : AtMostOnePublished draftVersions := by
    unfold AtMostOnePublished
    decide
  exact ⟨distinctIds_draftVersions, hone,
    at_most_one_published_iff distinctIds_draftVersions hone _⟩

/-- The first version is published in the regular way, and a rollback from the draft second
version to the third publishes that one as well. -/
theorem rollback_leaves_two_published :
    let calls := [.validate 1 true, .approve 1, .publish 1, .rollback 2 (some "3.0")]
    (final exec draftVersions calls).map AssetRecord.status =
      [.published, .deprecated, .published] := by
  decide +kernel

/-! ## Publication needs validation and approval, and archived is final -/

/-- The version was validated and, after that, approved. -/
def Vetted (a : AssetRecord) : Prop :=
  ∃ before after, a.history = before ++ after ∧
    (∃ e ∈ before, e.action = .validate ∧ e.toStatus = .validated) ∧
      ∃ e ∈ after, e.action = .approve

/-- What a step may do to one version: it is published only when vetted, and archived for good. -/
structure Lawful (a b : AssetRecord) : Prop where
  vetted : b.status = .published → Vetted b
  archived : a.status = .archived → b.status = .archived

/-- A call that is carried out keeps away from archived versions, and a rollback goes back to a
vetted version. -/
def OrderlyOn (group : List AssetRecord) (record : AssetRecord) : AssetCall → Prop
  | .validate _ passed => passed = true → record.status ≠ .archived
  | .approve _ | .deprecate _ _ => record.status ≠ .archived
  | .publish _ | .archive _ _ => True
  | .rollback _ targetVersion => record.status ≠ .archived ∧
      ∀ target, rollbackTarget group record targetVersion = .ok target →
        target.status ≠ .archived ∧ Vetted target

def Orderly (group : List AssetRecord) (call : AssetCall) : Prop :=
  ∀ record ∈ group, record.id = call.id → Guard group record call → OrderlyOn group record call

/-- What the stored fields of a version say of its history. -/
structure Sound (a : AssetRecord) : Prop where
  validated : a.validationPassed = true →
    ∃ e ∈ a.history, e.action = .validate ∧ e.toStatus = .validated
  vetted : a.status = .approved ∨ a.status = .published → Vetted a

section

variable {a : AssetRecord} {status : AssetStatus} {action : AssetAction}

theorem Vetted.of_history {b : AssetRecord} (ha : Vetted a) {new : List HistoryEntry}
    (hb : b.history = a.history ++ new) : Vetted b := by
  obtain ⟨before, after, heq, hvalidated, e, he, happroved⟩ := ha
  refine ⟨before, after ++ new, ?_, hvalidated, e, List.mem_append_left _ he, happroved⟩
  rw [hb, heq, List.append_assoc]

theorem vetted_setLifecycle_iff (h : action ≠ .approve) :
    Vetted (a.setLifecycle status action) ↔ Vetted a := by
  refine ⟨?_, fun ha => ha.of_history rfl⟩
  rintro ⟨before, after, heq, hvalidated, e, he, happroved⟩
  obtain rfl | ⟨after, last, rfl⟩ := List.eq_nil_or_concat after
  · cases he
  · rw [List.concat_eq_append, ← List.append_assoc] at heq
    obtain ⟨heq, hlast⟩ := List.append_inj' heq rfl
    refine ⟨before, after, heq, hvalidated, e, ?_, happroved⟩
    refine (List.mem_append.mp (List.concat_eq_append ▸ he)).resolve_right fun he => h ?_
    cases List.mem_singleton.mp he
    cases hlast
    exact happroved

theorem lawful_setLifecycle_iff (hpublished : status ≠ .published) (harchived : status ≠ .archived) :
    Lawful a (a.setLifecycle status action) ↔ a.status ≠ .archived :=
  ⟨fun h ha => harchived (h.archived ha), fun h => ⟨fun hb => absurd hb hpublished,
    fun ha => absurd ha h⟩⟩

theorem Sound.lawful (hs : Sound a) : Lawful a a := ⟨fun h => hs.vetted (.inr h), fun h => h⟩

theorem lawful_validate_iff (hs : Sound a) (passed : Bool) :
    Lawful a (a.validate passed) ↔ (passed = true → a.status ≠ .archived) := by
  cases passed with
  | false =>
    refine iff_of_true ⟨fun h => (hs.lawful.vetted h).of_history rfl, fun h => h⟩ fun h => ?_
    cases h
  | true =>
    refine ⟨fun h _ ha => ?_, fun h => ⟨fun hp => ?_, fun ha => absurd ha (h rfl)⟩⟩
    · cases h.archived ha
    · cases hp

theorem lawful_publish_iff :
    Lawful a (a.setLifecycle .published .publish) ↔ a.status ≠ .archived ∧ Vetted a := by
  have hiff : Vetted (a.setLifecycle .published .publish) ↔ Vetted a :=
    vetted_setLifecycle_iff (by decide)
  rw [← hiff]
  refine ⟨fun h => ⟨fun ha => ?_, h.vetted rfl⟩, fun h => ⟨fun _ => h.2, fun ha => absurd ha h.1⟩⟩
  cases h.archived ha

theorem Sound.setLifecycle (hs : Sound a) (hl : Lawful a (a.setLifecycle status action))
    (h : status = .approved → action = .approve ∧ a.validationPassed = true) :
    Sound (a.setLifecycle status action) := by
  constructor
  · intro hpassed
    obtain ⟨e, he, hvalidated⟩ := hs.validated hpassed
    exact ⟨e, List.mem_append_left _ he, hvalidated⟩
  · rintro (happroved | hpublished)
    · obtain ⟨haction, hpassed⟩ := h happroved
      exact ⟨a.history, _, rfl, hs.validated hpassed, _, List.mem_singleton_self _, haction⟩
    · exact hl.vetted hpublished

theorem Sound.validate (hs : Sound a) (passed : Bool) : Sound (a.validate passed) := by
  cases passed with
  | false =>
    refine ⟨fun h => ?_, fun h => (hs.vetted h).of_history rfl⟩
    cases h
  | true =>
    refine ⟨fun _ => ⟨_, List.mem_append_right _ (List.mem_singleton_self _), rfl, rfl⟩, ?_⟩
    rintro (h | h) <;> cases h

variable (hids : DistinctIds group) (hsound : ∀ a ∈ group, Sound a) (hmem : record ∈ group)
include hids hsound hmem

theorem forall_lawful_iff (g : AssetRecord → AssetRecord) :
    (∀ a ∈ group, Lawful a (if a.id = record.id then g a else a)) ↔ Lawful record (g record) := by
  constructor
  · intro h
    simpa only [if_true] using h record hmem
  · intro h a ha
    split
    · cases hids.eq ha hmem ‹_›
      exact h
    · exact (hsound a ha).lawful

theorem lawful_effect_iff (hguard : Guard group record call) :
    (∀ a ∈ group, Lawful a (effect group record call a)) ↔ OrderlyOn group record call := by
  have hone := forall_lawful_iff hids hsound hmem
  cases call with
  | validate id passed => exact (hone _).trans (lawful_validate_iff (hsound record hmem) passed)
  | approve id | «deprecate» id usedBy =>
    exact (hone _).trans (lawful_setLifecycle_iff (by decide) (by decide))
  | publish id =>
    refine iff_of_true (fun a ha => ?_) trivial
    simp only [effect]
    split
    · cases hids.eq ha hmem ‹_›
      refine lawful_publish_iff.mpr ⟨fun h => ?_, (hsound record hmem).vetted hguard⟩
      rcases hguard with hstatus | hstatus <;> cases h.symm.trans hstatus
    · split
      · refine (lawful_setLifecycle_iff (by decide) (by decide)).mpr fun h => ?_
        cases h.symm.trans ‹a.status = .published›
      · exact (hsound a ha).lawful
  | archive id usedBy =>
    refine iff_of_true ((hone _).mpr ⟨fun h => ?_, fun _ => rfl⟩) trivial
    cases h
  | rollback id targetVersion =>
    obtain ⟨target, htarget⟩ := hguard
    obtain ⟨hmem', hne⟩ := rollbackTarget_ok htarget
    simp only [OrderlyOn, htarget, Except.ok.injEq, forall_eq']
    have hleft : Lawful record (record.setLifecycle .deprecated .rollback) ↔ _ :=
      lawful_setLifecycle_iff (by decide) (by decide)
    rw [← lawful_publish_iff, ← hleft]
    constructor
    · intro h
      have hrecord := h record hmem
      have hgoal := h target hmem'
      simp only [effect] at hrecord
      simp only [effect, hne, htarget, Except.toOption, Option.map_some, if_true] at hgoal
      exact ⟨hrecord, hgoal⟩
    · rintro ⟨hrecord, hgoal⟩ a ha
      simp only [effect, htarget, Except.toOption, Option.map_some, Option.some.injEq]
      split
      · cases hids.eq ha hmem ‹_›
        exact hrecord
      · split
        · cases hids.eq hmem' ha ‹_›
          exact hgoal
        · exact (hsound a ha).lawful

theorem sound_effect (hguard : Guard group record call) (ha : a ∈ group)
    (hl : Lawful a (effect group record call a)) : Sound (effect group record call a) := by
  have hs := hsound a ha
  cases call with
  | validate id passed =>
    simp only [effect]
    split
    · exact hs.validate passed
    · exact hs
  | approve id =>
    simp only [effect] at hl ⊢
    split at hl <;> simp only [*, if_false]
    cases hids.eq ha hmem ‹_›
    exact hs.setLifecycle hl fun _ => ⟨rfl, hguard⟩
  | _ =>
    simp only [effect] at hl ⊢
    repeat' split at hl
    all_goals simp only [*, if_false]
    all_goals exact hs.setLifecycle hl fun h => by cases h

end

theorem lawful_exec_iff (hids : DistinctIds group) (hsound : ∀ a ∈ group, Sound a)
    (call : AssetCall) :
    (List.Forall₂ Lawful group (exec group call).2 ↔ Orderly group call) ∧
      (Orderly group call → ∀ a ∈ (exec group call).2, Sound a) := by
  rcases exec_cases hids call with ⟨record, hmem, hid, hguard, heq⟩ | ⟨heq, hno⟩ <;>
    rw [heq]
  · have hiff : Orderly group call ↔ OrderlyOn group record call := by
      refine ⟨fun h => h record hmem hid hguard, fun h record' hmem' hid' _ => ?_⟩
      cases hids.eq hmem hmem' (hid.trans hid'.symm)
      exact h
    rw [hiff, List.forall₂_map_right_iff, List.forall₂_same,
      ← lawful_effect_iff hids hsound hmem hguard, List.forall_mem_map]
    exact ⟨Iff.rfl, fun h a ha => sound_effect hids hsound hmem hguard ha (h a ha)⟩
  · refine ⟨iff_of_true ?_ fun record hmem hid hguard => absurd hguard (hno record hmem hid),
      fun _ => hsound⟩
    exact List.forall₂_same.mpr fun a ha => (hsound a ha).lawful

/-- A version as it is created. -/
def AssetRecord.Fresh (a : AssetRecord) : Prop :=
  (a.status = .draft ∨ a.status = .other "active") ∧ a.validationPassed = false ∧ a.history = []

theorem AssetRecord.Fresh.sound {a : AssetRecord} (h : a.Fresh) : Sound a := by
  obtain ⟨hstatus, hpassed, -⟩ := h
  constructor
  · intro h
    cases hpassed.symm.trans h
  · rintro (h | h) <;> rcases hstatus with hs | hs <;> cases hs.symm.trans h

/-- From fresh versions, whatever is published was validated and after that approved, and archived
is final, if and only if every call is orderly. -/
theorem published_vetted_and_archived_final_iff (hids : DistinctIds group)
    (hfresh : ∀ a ∈ group, a.Fresh) (calls : List AssetCall) :
    (∀ e ∈ trace exec group calls, List.Forall₂ Lawful e.before e.after) ↔
      ∀ e ∈ trace exec group calls, Orderly e.before e.call := by
  refine forall_mem_trace_iff exec (I := fun group => DistinctIds group ∧ ∀ a ∈ group, Sound a)
    (P := fun e => List.Forall₂ Lawful e.before e.after) (fun group call h => ?_) calls group
    ⟨hids, fun a ha => (hfresh a ha).sound⟩
  obtain ⟨hiff, hkeep⟩ := lawful_exec_iff h.1 h.2 call
  exact ⟨hiff, fun hadm => ⟨distinctIds_exec h.1 call, hkeep hadm⟩⟩

theorem published_vetted_and_archived_final_iff_drafts :
    let calls := [.validate 1 true, .approve 1, .publish 1]
    DistinctIds draftVersions ∧ (∀ a ∈ draftVersions, a.Fresh) ∧
      ((∀ e ∈ trace exec draftVersions calls, List.Forall₂ Lawful e.before e.after) ↔
        ∀ e ∈ trace exec draftVersions calls, Orderly e.before e.call) := by
  intro calls
  have hfresh : ∀ a ∈ draftVersions, a.Fresh := by
    unfold AssetRecord.Fresh
    decide
  exact ⟨distinctIds_draftVersions, hfresh,
    published_vetted_and_archived_final_iff distinctIds_draftVersions hfresh calls⟩

/-- A rollback publishes a draft that nobody validated or approved, and approving an archived
version takes it out of the archive. -/
theorem rollback_publishes_draft_and_approve_revives :
    (let first := (final exec draftVersions [.rollback 2 (some "1.0")]).head?
     first.map AssetRecord.status = some .published ∧
       first.map (fun a => a.history.map HistoryEntry.action) = some [.publish]) ∧
    let archived := final exec draftVersions [.validate 1 true, .archive 1 []]
    archived.head?.map AssetRecord.status = some .archived ∧
      ((exec archived (.approve 1)).2.head?).map AssetRecord.status = some .approved := by
  decide +kernel

/-! ## Rollback without a target -/

section

variable {before after : List AssetRecord}

/-- A rollback without a target publishes the version created just before, if there is one, and
never a later or an archived version. -/
structure ToPredecessor (before : List AssetRecord) (record : AssetRecord)
    (after : List AssetRecord) : Prop where
  refused : before = [] →
    ∃ error, rollbackAsset (before ++ record :: after) record none = .error error
  previous : ∀ previous, before.getLast? = some previous →
    rollbackAsset (before ++ record :: after) record none =
      .ok (setLifecycle (setLifecycle (before ++ record :: after) record.id .deprecated .rollback)
        previous.id .published .publish)
  never : ∀ target, rollbackTarget (before ++ record :: after) record none = .ok target →
    target ∉ after ∧ target.status ≠ .archived

theorem rollbackTarget_none_iff (hids : DistinctIds (before ++ record :: after)) :
    rollbackTarget (before ++ record :: after) record none = .ok target ↔
      (before ++ after).getLast? = some target := by
  have hfresh : ∀ a ∈ before ++ after, a.id ≠ record.id := by
    rw [DistinctIds, List.map_append, List.map_cons, List.nodup_middle, ← List.map_append] at hids
    intro a ha heq
    exact (List.nodup_cons.mp hids).1 (heq ▸ List.mem_map_of_mem ha)
  have hothers : (before ++ record :: after).filter (·.id ≠ record.id) = before ++ after := by
    rw [List.filter_append, List.filter_cons_of_neg (by simp), ← List.filter_append]
    exact List.filter_eq_self.mpr fun a ha => decide_eq_true (hfresh a ha)
  simp only [rollbackTarget, hothers]
  cases hlast : (before ++ after).getLast? with
  | none => simp
  | some last => simp [hfresh last (List.mem_of_getLast? hlast)]

/-- A rollback without a target goes to the predecessor exactly from the newest version, unless the
predecessor is archived. -/
theorem default_rollback_to_predecessor_iff (hids : DistinctIds (before ++ record :: after)) :
    ToPredecessor before record after ↔
      after = [] ∧ ∀ previous, before.getLast? = some previous → previous.status ≠ .archived := by
  constructor
  · intro h
    have hafter : after = [] := by
      by_contra hne
      have hlast := List.getLast?_eq_some_getLast hne
      refine (h.never _ ?_).1 (List.mem_of_getLast? hlast)
      rw [rollbackTarget_none_iff hids, List.getLast?_append, hlast, Option.some_or]
    subst hafter
    refine ⟨rfl, fun previous hprevious => (h.never previous ?_).2⟩
    rwa [rollbackTarget_none_iff hids, List.append_nil]
  · rintro ⟨rfl, hstatus⟩
    have htarget : ∀ target, rollbackTarget (before ++ [record]) record none = .ok target ↔
        before.getLast? = some target := fun target => by
      rw [rollbackTarget_none_iff hids, List.append_nil]
    refine ⟨?_, fun previous hprevious => ?_, fun target h => ⟨List.not_mem_nil, ?_⟩⟩
    · rintro rfl
      cases h : rollbackTarget ([] ++ [record]) record none with
      | error error => exact ⟨error, by rw [rollbackAsset, h]; rfl⟩
      | ok target => cases (htarget target).mp h
    · rw [rollbackAsset, (htarget previous).mpr hprevious]
      rfl
    · exact hstatus target ((htarget target).mp h)

end

theorem default_rollback_to_predecessor_iff_third :
    ToPredecessor (draftVersions.take 2) { id := 3, version := "3.0" } [] := by
  refine (default_rollback_to_predecessor_iff ?_).mpr ⟨rfl, by decide⟩
  exact distinctIds_draftVersions

/-- A rollback of the first version publishes the newest. -/
theorem default_rollback_goes_forward :
    (final exec draftVersions [.rollback 1 none]).map AssetRecord.status =
      [.deprecated, .draft, .published] := by
  decide +kernel

/-! ## Histories -/

/-- The entries lead from one status to the other, each from where the one before it ended. -/
def Chained : AssetStatus → List HistoryEntry → AssetStatus → Prop
  | initial, [], status => status = initial
  | initial, e :: rest, status => e.fromStatus = initial ∧ Chained e.toStatus rest status

theorem Chained.append {e : HistoryEntry} : ∀ {initial : AssetStatus} {history : List HistoryEntry},
      Chained initial history e.fromStatus → Chained initial (history ++ [e]) e.toStatus
  | _, [], h => ⟨h, rfl⟩
  | _, _ :: _, h => ⟨h.1, h.2.append⟩

section

variable (group record call)

/-- The version is the one that the call is about, or one that it supersedes or goes back to. -/
def Touches (a : AssetRecord) : Prop :=
  a.id = record.id ∨ match call with
    | .publish _ => a.status = .published
    | .rollback _ targetVersion =>
      (rollbackTarget group record targetVersion).toOption.map AssetRecord.id = some a.id
    | _ => False

/-- The call is carried out, and records the lifecycle of the version. -/
def Records (a : AssetRecord) : Prop :=
  ∃ record ∈ group, record.id = call.id ∧ Guard group record call ∧ Touches group record call a

/-- A version whose lifecycle is recorded gets one more entry, and its status in both places; the
others stay as they are. -/
def Logs (recorded : Prop) (a b : AssetRecord) : Prop :=
  (recorded ∧ b.lifecycle = some b.status ∧
    ∃ action, b.history = a.history ++ [⟨action, a.previousStatus, b.status⟩]) ∨
    ¬ recorded ∧ b = a

theorem logs_effect (a : AssetRecord) :
    Logs (Touches group record call a) a (effect group record call a) := by
  by_cases ha : a.id = record.id
  · refine .inl ⟨.inl ha, ?_⟩
    cases call <;> simp only [effect, if_pos ha] <;> exact ⟨rfl, _, rfl⟩
  · simp only [Touches, effect, ha, false_or, if_false]
    cases call with
    | publish id | rollback id targetVersion =>
      dsimp only
      split
      · exact .inl ⟨‹_›, rfl, _, rfl⟩
      · exact .inr ⟨‹_›, rfl⟩
    | _ => exact .inr ⟨not_false, rfl⟩

/-- A call changes each version on its own. -/
theorem exec_eq_map (hids : DistinctIds group) :
    ∃ f : AssetRecord → AssetRecord, (exec group call).2 = group.map f ∧
      ∀ a, Logs (Records group call a) a (f a) ∧ (f a).id = a.id := by
  rcases exec_cases hids call with ⟨record, hmem, hid, hguard, heq⟩ | ⟨heq, hno⟩
  · refine ⟨_, heq, fun a => ⟨?_, id_effect a⟩⟩
    have hiff : Records group call a ↔ Touches group record call a := by
      refine ⟨?_, fun h => ⟨record, hmem, hid, hguard, h⟩⟩
      rintro ⟨record', hmem', hid', _, h⟩
      cases hids.eq hmem hmem' (hid.trans hid'.symm)
      exact h
    rw [hiff]
    exact logs_effect group record call a
  · refine ⟨id, heq.trans group.map_id.symm, fun a => ⟨.inr ⟨?_, rfl⟩, rfl⟩⟩
    rintro ⟨record, hmem, hid, hguard, _⟩
    exact hno record hmem hid hguard

/-- From versions without a history whose two statuses agree, every call adds one entry to each
version whose lifecycle it records and leaves the others alone, and every history leads, entry by
entry, from the first status of the version to the present one. The calls may be about any asset:
those about versions outside the group are the unknown ones. -/
theorem histories_are_chains (hids : DistinctIds group)
    (hnew : ∀ a ∈ group, a.history = [] ∧ a.previousStatus = a.status) (calls : List AssetCall) :
    ∀ e ∈ trace exec group calls,
      List.Forall₂ (fun a => Logs (Records e.before e.call a) a) e.before e.after ∧
      ∀ b ∈ e.after, b.previousStatus = b.status ∧
        ∃ a ∈ group, a.id = b.id ∧ Chained a.status b.history b.status := by
  refine forall_mem_trace exec (I := fun group' => DistinctIds group' ∧
    ∀ b ∈ group', b.previousStatus = b.status ∧
      ∃ a ∈ group, a.id = b.id ∧ Chained a.status b.history b.status) (fun group' call _ h => ?_)
    calls group ⟨hids, fun a ha => ⟨(hnew a ha).2, a, ha, rfl, ?_⟩⟩ (admitted_true ..)
  · have hkept := distinctIds_exec h.1 call
    obtain ⟨f, heq, hf⟩ := exec_eq_map group' call h.1
    simp only [entry, heq, List.forall₂_map_right_iff, List.forall₂_same, List.forall_mem_map]
      at hkept ⊢
    have hchained : ∀ b ∈ group', (f b).previousStatus = (f b).status ∧
        ∃ a ∈ group, a.id = (f b).id ∧ Chained a.status (f b).history (f b).status := by
      intro b hb
      obtain ⟨hsame, a, ha, hid, hchain⟩ := h.2 b hb
      rw [(hf b).2]
      rcases (hf b).1 with ⟨_, hboth, action, hlog⟩ | ⟨_, hb⟩
      · rw [hlog, hsame, AssetRecord.previousStatus, hboth]
        exact ⟨rfl, a, ha, hid, hchain.append⟩
      · rw [hb]
        exact ⟨hsame, a, ha, hid, hchain⟩
    exact ⟨⟨fun a _ => (hf a).1, hchained⟩, hkept, hchained⟩
  · rw [(hnew a ha).1]
    rfl

end

/-- A rollback publishes the first version, and the last one is archived. -/
theorem histories_are_chains_drafts : DistinctIds draftVersions ∧
    ∀ e ∈ trace exec draftVersions [.validate 1 true, .rollback 2 (some "1.0"), .archive 3 []],
      List.Forall₂ (fun a => Logs (Records e.before e.call a) a) e.before e.after ∧
      ∀ b ∈ e.after, b.previousStatus = b.status ∧
        ∃ a ∈ draftVersions, a.id = b.id ∧ Chained a.status b.history b.status :=
  ⟨distinctIds_draftVersions,
    histories_are_chains draftVersions distinctIds_draftVersions (by decide) _⟩

end DimooRun.Catalog
