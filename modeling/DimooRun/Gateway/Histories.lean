/-
  Gateway/Histories.lean --- the two copies of the histories.

  The numbers that the database has for a surface are one to `n`, and what a process has
  itself is among its rows. The merged history is then what the database has, also after
  the process has lost its copy, and the next number is free.
-/
import DimooRun.Gateway.Steps

set_option autoImplicit false

namespace DimooRun.Gateway

open Foundation Policy
open Scheduler (Time)

/-! ## Stored rows -/

/-- The rows of a surface. -/
def rolloutRow (db : GatewayDb) (surfaceId : Int) (number : Nat) : Option Rollout :=
  db.rollouts.get? (surfaceId, number)

theorem mem_persistedRollouts_iff (db : GatewayDb) (surfaceId : Int) (rollout : Rollout) :
    rollout ∈ persistedRollouts db surfaceId ↔
      ∃ number, rolloutRow db surfaceId number = some rollout := by
  unfold persistedRollouts rolloutRow
  simp only [List.mem_map, List.mem_insertionSort, List.mem_filter, beq_iff_eq,
    Dict.get?_eq_some_iff]
  constructor
  · rintro ⟨⟨⟨_, number⟩, _⟩, ⟨hmem, rfl⟩, rfl⟩
    exact ⟨number, hmem⟩
  · rintro ⟨number, hmem⟩
    exact ⟨((surfaceId, number), rollout), ⟨hmem, rfl⟩, rfl⟩

section

variable {surfaceId : Int} {surface : Surface} {rollout : Rollout}

/-- Distinct rows have distinct numbers. -/
theorem nodup_persistedRollouts {db : GatewayDb}
    (hkeyed : ∀ number rollout, rolloutRow db surfaceId number = some rollout → rollout.id = number) :
    ((persistedRollouts db surfaceId).map Rollout.id).Nodup := by
  -- the numbers are the second parts of keys that have the first part in common
  have hnumbers : (persistedRollouts db surfaceId).map Rollout.id =
      ((db.rollouts.entries.filter fun row => row.1.1 == surfaceId).insertionSort
        fun x y => x.1.2 ≤ y.1.2).map fun row => row.1.2 := by
    unfold persistedRollouts
    rw [List.map_map]
    refine List.map_congr_left fun row hrow => ?_
    obtain ⟨hmem, hsurface⟩ := List.mem_filter.mp ((List.mem_insertionSort _).mp hrow)
    refine hkeyed row.1.2 row.2 ?_
    rw [rolloutRow, Dict.get?_eq_some_iff, ← beq_iff_eq.mp hsurface]
    exact hmem
  rw [hnumbers, ((List.perm_insertionSort _ _).map _).nodup_iff]
  have hkeys : ((db.rollouts.entries.filter fun row => row.1.1 == surfaceId).map
      Prod.fst).Nodup := db.rollouts.nodup.sublist (List.filter_sublist.map _)
  refine List.Nodup.of_map (fun number => (surfaceId, number)) ?_
  rw [List.map_map]
  refine (List.map_congr_left fun row hrow => ?_).symm ▸ hkeys
  have hsurface := beq_iff_eq.mp (List.mem_filter.mp hrow).2
  rw [Function.comp_apply, ← hsurface]

/-! ## Both copies -/

/-- The rows of each surface have the numbers one to `n`, and the process has nothing else. -/
structure Numbered (gateway : GatewayState) : Prop where
  rows : ∀ surfaceId, ∃ n, NumberedRows Rollout.id (rolloutRow gateway.db surfaceId) n
  own : ∀ surfaceId, ∀ rollout ∈ processRollouts gateway.process surfaceId,
    rolloutRow gateway.db surfaceId rollout.id = some rollout
  nodup : ∀ surfaceId, ((processRollouts gateway.process surfaceId).map Rollout.id).Nodup

namespace Numbered

variable {gateway : GatewayState}

theorem initial : Numbered {} where
  rows _ := ⟨0, fun _ _ h => (by cases h), fun k => ⟨fun h => (by cases h), fun h => by omega⟩⟩
  own _ _ h := by cases h
  nodup _ := List.nodup_nil

section

variable (h : Numbered gateway)
include h

/-- The merged history is what the database has. -/
theorem history_eq {n : Nat} (hrows : NumberedRows Rollout.id (rolloutRow gateway.db surfaceId) n) :
    surfaceRolloutHistory gateway surfaceId = numberedLog (rolloutRow gateway.db surfaceId) n := by
  refine hrows.mergeByNumber_eq ?_ (nodup_persistedRollouts hrows.number_eq) (h.own surfaceId)
    (h.nodup surfaceId)
  intro rollout
  rw [mem_persistedRollouts_iff]
  constructor
  · rintro ⟨number, hrow⟩
    rw [hrows.number_eq number rollout hrow]
    exact hrow
  · intro hrow
    exact ⟨rollout.id, hrow⟩

section

variable (surfaceId rollout)

theorem map_id_history : (surfaceRolloutHistory gateway surfaceId).map Rollout.id =
      List.range' 1 (surfaceRolloutHistory gateway surfaceId).length := by
  obtain ⟨n, hrows⟩ := h.rows surfaceId
  rw [h.history_eq hrows, hrows.map_number_numberedLog, hrows.length_numberedLog]

theorem mem_history_iff : rollout ∈ surfaceRolloutHistory gateway surfaceId ↔
      rolloutRow gateway.db surfaceId rollout.id = some rollout := by
  obtain ⟨n, hrows⟩ := h.rows surfaceId
  rw [h.history_eq hrows, hrows.mem_numberedLog]

theorem rows_length : NumberedRows Rollout.id (rolloutRow gateway.db surfaceId)
      (surfaceRolloutHistory gateway surfaceId).length := by
  obtain ⟨n, hrows⟩ := h.rows surfaceId
  rw [h.history_eq hrows, hrows.length_numberedLog]
  exact hrows

end

/-- What the process has lost of its copy changes nothing. -/
theorem of_kept {gateway' : GatewayState} (hrows : gateway'.db.rollouts = gateway.db.rollouts)
    (hown : ∀ surfaceId, processRollouts gateway'.process surfaceId =
        processRollouts gateway.process surfaceId ∨
      processRollouts gateway'.process surfaceId = []) :
    Numbered gateway' ∧ ∀ surfaceId,
      surfaceRolloutHistory gateway' surfaceId = surfaceRolloutHistory gateway surfaceId := by
  have hrow : rolloutRow gateway'.db = rolloutRow gateway.db := by
    unfold rolloutRow
    rw [hrows]
  have hkept : Numbered gateway' := by
    refine ⟨hrow.symm ▸ h.rows, fun surfaceId rollout hmem => ?_, fun surfaceId => ?_⟩
    · rcases hown surfaceId with hsame | hnone
      · rw [hrow]
        exact h.own surfaceId rollout (hsame ▸ hmem)
      · rw [hnone] at hmem
        cases hmem
    · rcases hown surfaceId with hsame | hnone
      · rw [hsame]
        exact h.nodup surfaceId
      · rw [hnone]
        exact List.nodup_nil
  refine ⟨hkept, fun surfaceId => ?_⟩
  obtain ⟨n, hnumbered⟩ := h.rows surfaceId
  rw [h.history_eq hnumbered, hkept.history_eq (hrow.symm ▸ hnumbered), hrow]

/-- A rollout with the next number goes to the end of the history of its surface. -/
theorem of_recorded {gateway' : GatewayState} (hid : rollout.id = nextRolloutId gateway surfaceId)
    (hrows : gateway'.db.rollouts = gateway.db.rollouts.set (surfaceId, rollout.id) rollout)
    (hown : gateway'.process.rolloutHistory = gateway.process.rolloutHistory.set surfaceId
      (processRollouts gateway.process surfaceId ++ [rollout])) :
    Numbered gateway' ∧ ∀ other, surfaceRolloutHistory gateway' other =
      if other = surfaceId then surfaceRolloutHistory gateway surfaceId ++ [rollout]
      else surfaceRolloutHistory gateway other := by
  have hnumbered := h.rows_length surfaceId
  have hrow : ∀ other number, rolloutRow gateway'.db other number =
      if other = surfaceId ∧ number = rollout.id then some rollout
      else rolloutRow gateway.db other number := by
    intro other number
    unfold rolloutRow
    rw [hrows, Dict.get?_set]
    simp only [Prod.mk.injEq]
  have hfree : rolloutRow gateway.db surfaceId rollout.id = none := by
    rw [← Option.not_isSome_iff_eq_none, hnumbered.isSome_iff, hid, nextRolloutId]
    omega
  have hnew : rolloutRow gateway'.db surfaceId
      ((surfaceRolloutHistory gateway surfaceId).length + 1) = some rollout := by
    rw [hrow, if_pos ⟨rfl, hid.symm⟩]
  obtain ⟨hnext, hlog⟩ := hnumbered.append hid hnew fun k hk => by
    rw [hrow, if_neg fun hboth => hk (hboth.2.trans hid)]
  have hother : ∀ other, other ≠ surfaceId →
      rolloutRow gateway'.db other = rolloutRow gateway.db other := by
    intro other hne
    funext number
    rw [hrow, if_neg fun hboth => hne hboth.1]
  have hmine : ∀ other, processRollouts gateway'.process other =
      if other = surfaceId then processRollouts gateway.process surfaceId ++ [rollout]
      else processRollouts gateway.process other := by
    intro other
    unfold processRollouts
    rw [hown, Dict.get?_set]
    split
    · rfl
    · rfl
  have hkept : Numbered gateway' := by
    refine ⟨fun other => ?_, fun other entry hmem => ?_, fun other => ?_⟩
    · by_cases hsurface : other = surfaceId
      · exact hsurface ▸ ⟨_, hnext⟩
      · rw [hother other hsurface]
        exact h.rows other
    · rw [hmine] at hmem
      by_cases hsurface : other = surfaceId
      · subst hsurface
        rw [if_pos rfl, List.mem_append, List.mem_singleton] at hmem
        rcases hmem with hold | rfl
        · have hentry := h.own other entry hold
          -- the number of an old entry is not free
          have hne : entry.id ≠ rollout.id := fun hsame => by
            rw [hsame, hfree] at hentry
            cases hentry
          rw [hrow, if_neg fun hboth => hne hboth.2]
          exact hentry
        · rw [hrow, if_pos ⟨rfl, rfl⟩]
      · rw [if_neg hsurface] at hmem
        rw [hother other hsurface]
        exact h.own other entry hmem
    · rw [hmine]
      by_cases hsurface : other = surfaceId
      · rw [if_pos hsurface, List.map_append, List.nodup_append]
        refine ⟨h.nodup surfaceId, List.nodup_singleton _, ?_⟩
        intro number hnumber number' hnumber' hsame
        obtain ⟨entry, hmem, rfl⟩ := List.mem_map.mp hnumber
        have hentry := h.own surfaceId entry hmem
        rw [hsame, List.mem_singleton.mp hnumber', hfree] at hentry
        cases hentry
      · rw [if_neg hsurface]
        exact h.nodup other
  refine ⟨hkept, fun other => ?_⟩
  by_cases hsurface : other = surfaceId
  · rw [if_pos hsurface, hsurface, hkept.history_eq hnext, hlog, ← h.history_eq hnumbered]
  · obtain ⟨n, hn⟩ := h.rows other
    rw [if_neg hsurface, h.history_eq hn, ← hother other hsurface,
      hkept.history_eq (hother other hsurface ▸ hn)]

end

end Numbered

/-! ## Steps -/

theorem Operation.text_of_ofText? {text : String} {operation : Operation}
    (h : Operation.ofText? text = some operation) : operation.text = text := by
  exact beq_iff_eq.mp (List.find?_some h :)

theorem Makes.id_eq {py : Builtins} {gateway : GatewayState} {call : GatewayCall}
    (h : Makes py gateway call surfaceId surface rollout) :
    rollout.id = nextRolloutId gateway surfaceId := by
  cases h with
  | publish | rollout => rfl

/-- No rollout is taken for a publication. -/
theorem Makes.version_eq {py : Builtins} {gateway : GatewayState} {call : GatewayCall}
    (h : Makes py gateway call surfaceId surface rollout) (hpublish : rollout.operation = "publish") :
    rollout.version = some rollout.id := by
  cases h with
  | publish => rfl
  | @rollout _ _ _ _ _ _ operation _ _ hoperation =>
    have htext : operation.text = "publish" := (Operation.text_of_ofText? hoperation).trans hpublish
    cases operation <;> exact absurd htext (by decide)

/-- The histories are as they were, or a surface was made and its history has an entry more. -/
def Extends (py : Builtins) (gateway : GatewayState) (call : GatewayCall)
    (gateway' : GatewayState) : Prop :=
  (∀ other, surfaceRolloutHistory gateway' other = surfaceRolloutHistory gateway other) ∨
    ∃ surfaceId surface rollout, Makes py gateway call surfaceId surface rollout ∧
      surfaceOf gateway' surfaceId = surface ∧ ∀ other, surfaceRolloutHistory gateway' other =
        if other = surfaceId then surfaceRolloutHistory gateway surfaceId ++ [rollout]
        else surfaceRolloutHistory gateway other

section

variable {py : Builtins} {gateway : GatewayState} {call : GatewayCall}
  {next : GatewayReply × GatewayState}

theorem Numbered.of_makes (h : Numbered gateway) {gateway' : GatewayState}
    (hmakes : Makes py gateway call surfaceId surface rollout)
    (hrows : gateway'.db.rollouts = gateway.db.rollouts.set (surfaceId, rollout.id) rollout)
    (hown : gateway'.process.rolloutHistory = gateway.process.rolloutHistory.set surfaceId
      (processRollouts gateway.process surfaceId ++ [rollout]))
    (hcopy : gateway'.process.surfaces = gateway.process.surfaces.set surfaceId surface) :
    Numbered gateway' ∧ Extends py gateway call gateway' := by
  have hsurface : surfaceOf gateway' surfaceId = surface := by
    unfold surfaceOf
    rw [hcopy, Dict.get?_set_self]
  exact (h.of_recorded hmakes.id_eq hrows hown).imp_right fun hhistory =>
    Or.inr ⟨surfaceId, surface, rollout, hmakes, hsurface, hhistory⟩

theorem Step.history (h : Step py gateway call next) (hnumbered : Numbered gateway) :
    Numbered next.2 ∧ Extends py gateway call next.2 := by
  cases h with
  | reads _ hreads _ =>
    refine (hnumbered.of_kept hreads.rollouts fun _ => Or.inl ?_).imp_right Or.inl
    unfold processRollouts
    rw [hreads.history]
  | copies | binds =>
    refine And.imp_right Or.inl (hnumbered.of_kept ?_ fun _ => Or.inl ?_)
    · rfl
    · rfl
  | records hmakes | unstored hmakes | stored hmakes => exact hnumbered.of_makes hmakes rfl rfl rfl
  | restarts =>
    refine And.imp_right Or.inl (hnumbered.of_kept ?_ fun _ => Or.inr ?_)
    · rfl
    · rfl

/-- Nothing that was recorded is altered or removed. -/
theorem Step.history_prefix (h : Step py gateway call next) (hnumbered : Numbered gateway)
    (surfaceId : Int) :
    surfaceRolloutHistory gateway surfaceId <+: surfaceRolloutHistory next.2 surfaceId := by
  rcases (h.history hnumbered).2 with hsame | ⟨recordedId, _, _, _, _, hhistory⟩
  · rw [hsame]
  · rw [hhistory]
    split
    · rename_i hsurface
      rw [hsurface]
      exact List.prefix_append _ _
    · exact List.prefix_rfl

end

end

/-! ## Surfaces under their ids

A surface is kept and stored under its own id, belongs to a deployment, and one that was
published can be stored. So do the snapshots that a rollback may restore. -/

/-- A surface as it is kept under an id. -/
structure Proper (surfaceId : Int) (surface : Surface) : Prop where
  id_eq : surface.id = surfaceId
  deployment_pos : 0 < surface.deploymentId
  id_pos : surface.publishedAt.isSome = true → 0 < surfaceId

/-- A snapshot as it is kept in the history of an id. -/
structure ProperSnapshot (surfaceId : Int) (snapshot : SurfaceSnapshot) : Prop where
  id_eq : snapshot.id = surfaceId
  deployment_pos : 0 < snapshot.deploymentId
  id_pos : 0 < surfaceId

section

variable (surfaceId : Int)

theorem Proper.default : Proper surfaceId { id := surfaceId } :=
  ⟨rfl, (by decide : (0 : Int) < 10), fun h => by cases h⟩

/-- Only a surface with an id that is not positive cannot be stored. -/
theorem Proper.unstorable_iff {surfaceId : Int} {surface : Surface} (h : Proper surfaceId surface) :
    (surface.id ≤ 0 ∨ surface.deploymentId ≤ 0) ↔ surfaceId ≤ 0 := by
  have := h.deployment_pos
  rw [h.id_eq]
  omega

theorem rolloutSurfaceSnapshot_eq_some {history : List Rollout} {version : Nat}
    {snapshot : SurfaceSnapshot} (h : rolloutSurfaceSnapshot history version = some snapshot) :
    ∃ rollout ∈ history, rollout.id = version ∧ rollout.surfaceSnapshot = some snapshot := by
  obtain ⟨rollout, hmem, hsome⟩ := List.exists_of_findSome?_eq_some h
  split at hsome
  · rename_i hversion
    exact ⟨rollout, hmem, hversion, hsome⟩
  · cases hsome

/-- The snapshots of a history are kept as those of an id. -/
def ProperHistory (surfaceId : Int) (history : List Rollout) : Prop :=
  ∀ rollout ∈ history, ∀ snapshot, rollout.surfaceSnapshot = some snapshot →
    ProperSnapshot surfaceId snapshot

theorem Changed.proper {payload : PyDict} {surfaceId : Int} {surface changed : Surface}
    {history : List Rollout} {operation : Operation} {restored : Option Nat}
    (h : Changed payload surface history operation changed restored)
    (hproper : Proper surfaceId surface) (hhistory : ProperHistory surfaceId history) :
    Proper surfaceId changed := by
  obtain ⟨hid, hdeployment, hpos⟩ := hproper
  cases h with
  | restored version snapshot _ hsnapshot =>
    obtain ⟨rollout, hmem, _, hsome⟩ := rolloutSurfaceSnapshot_eq_some hsnapshot
    have hkept := hhistory rollout hmem snapshot hsome
    exact ⟨hkept.id_eq, hkept.deployment_pos, fun _ => hkept.id_pos⟩
  | _ => exact ⟨hid, hdeployment, hpos⟩

theorem proper_publishedSurface (py : Builtins) (now : Time) (audit : AuditScope)
    (payload : PyDict) {surfaceId : Nat} (hpos : 0 < surfaceId) (current : Surface) :
    Proper surfaceId (publishedSurface py now audit payload surfaceId current) where
  id_eq := rfl
  deployment_pos := publishedSurface_deploymentId_pos py now audit payload surfaceId current
  id_pos _ := Int.natCast_pos.mpr hpos

/-! ## Processes and the database -/

structure ProperProcess (process : GatewayProcess) : Prop where
  surfaces : ∀ surfaceId surface, process.surfaces.get? surfaceId = some surface →
    Proper surfaceId surface
  histories : ∀ surfaceId, ProperHistory surfaceId (processRollouts process surfaceId)

structure ProperDb (db : GatewayDb) : Prop where
  bindings : ∀ surfaceId surface, db.bindings.get? surfaceId = some surface →
    Proper surfaceId surface ∧ 0 < surfaceId
  rows : ∀ surfaceId number rollout, rolloutRow db surfaceId number = some rollout →
    ∀ snapshot, rollout.surfaceSnapshot = some snapshot → ProperSnapshot surfaceId snapshot

structure ProperState (gateway : GatewayState) : Prop where
  process : ProperProcess gateway.process
  db : ProperDb gateway.db

theorem ProperProcess.initial : ProperProcess {} where
  surfaces _ _ h := by cases h
  histories _ _ h := by cases h

theorem ProperDb.initial : ProperDb {} where
  bindings _ _ h := by cases h
  rows _ _ _ h := by cases h

namespace ProperState

variable {gateway : GatewayState}

theorem initial : ProperState {} := ⟨.initial, .initial⟩

section

variable (h : ProperState gateway)
include h

theorem surfaceOf : Proper surfaceId (surfaceOf gateway surfaceId) := by
  unfold Gateway.surfaceOf
  split
  · rename_i surface hcopy
    exact h.process.surfaces surfaceId surface hcopy
  · split
    · rename_i surface hbinding
      exact (h.db.bindings surfaceId surface hbinding).1
    · exact .default surfaceId

theorem history : ProperHistory surfaceId (surfaceRolloutHistory gateway surfaceId) := by
  intro rollout hmem
  rcases mem_or_mem_of_mem_mergeByNumber hmem with hown | hstored
  · exact h.process.histories surfaceId rollout hown
  · obtain ⟨number, hrow⟩ := (mem_persistedRollouts_iff _ _ _).mp hstored
    exact h.db.rows surfaceId number rollout hrow

variable {surfaceId : Int} {surface : Surface} {rollout : Rollout} {py : Builtins}
  {call : GatewayCall}

theorem putSurface (hproper : Proper surfaceId surface) :
    ProperState (putSurface gateway surfaceId surface) :=
  ⟨⟨Dict.forall_get?_set hproper h.process.surfaces, h.process.histories⟩, h.db⟩

theorem storeBinding (hproper : Proper surfaceId surface) (hpos : 0 < surfaceId) :
    ProperState (storeBinding gateway surface) := by
  refine ⟨h.process, ⟨Dict.forall_get?_set ?_ h.db.bindings, h.db.rows⟩⟩
  rw [hproper.id_eq]
  exact ⟨hproper, hpos⟩

theorem recordRollout (hproper : ∀ snapshot, rollout.surfaceSnapshot = some snapshot →
      ProperSnapshot surfaceId snapshot) :
    ProperState (recordRollout gateway surfaceId rollout) := by
  refine ⟨⟨h.process.surfaces, fun other entry hmem => ?_⟩,
    ⟨h.db.bindings, fun other number entry hrow => ?_⟩⟩
  · unfold processRollouts at hmem
    replace hmem : entry ∈ ((gateway.process.rolloutHistory.set surfaceId
      (processRollouts gateway.process surfaceId ++ [rollout])).get? other).getD [] := hmem
    rw [Dict.get?_set] at hmem
    split at hmem
    · rename_i hother
      subst hother
      exact List.forall_mem_append.mpr ⟨h.process.histories _, by simpa using hproper⟩ entry hmem
    · exact h.process.histories other entry hmem
  · rcases Dict.get?_set_cases hrow with ⟨hkey, rfl⟩ | ⟨_, hold⟩
    · cases hkey
      exact hproper
    · exact h.db.rows other number entry hold

theorem makes (hmakes : Makes py gateway call surfaceId surface rollout) :
    Proper surfaceId surface ∧ ∀ snapshot, rollout.surfaceSnapshot = some snapshot →
      ProperSnapshot surfaceId snapshot := by
  cases hmakes with
  | @publish _ now _ audit payload _ surfaceId _ hpos hsurface =>
    have hproper := proper_publishedSurface py now audit payload hpos
      (Gateway.surfaceOf gateway surfaceId)
    rw [← hsurface] at hproper
    refine ⟨hproper, fun snapshot hsnapshot => ?_⟩
    rw [← Option.some.inj hsnapshot]
    exact ⟨hproper.id_eq, hproper.deployment_pos, Int.natCast_pos.mpr hpos⟩
  | @rollout _ _ _ _ surfaceId _ _ _ _ _ hchanged =>
    exact ⟨hchanged.proper (h.surfaceOf surfaceId) (h.history surfaceId), fun _ hnone => by
      cases hnone⟩

theorem step {next : GatewayReply × GatewayState} (hstep : Step py gateway call next) :
    ProperState next.2 := by
  cases hstep with
  | reads _ hreads _ =>
    obtain ⟨hbindings, hrollouts, hhistory, hsurfaces⟩ := hreads
    refine ⟨⟨?_, ?_⟩, ⟨hbindings.symm ▸ h.db.bindings, ?_⟩⟩
    · rcases hsurfaces with hsame | ⟨surfaceId, surface, hset, hfrom⟩
      · exact hsame.symm ▸ h.process.surfaces
      · rw [hset]
        refine (h.putSurface ?_).process.surfaces
        rcases hfrom with hcopy | ⟨hstored, hid⟩
        · exact hcopy ▸ h.surfaceOf surfaceId
        · obtain ⟨key, hbinding⟩ := (Dict.mem_values_iff _).mp hstored
          have hproper := (h.db.bindings key surface hbinding).1
          rw [← hid, hproper.id_eq]
          exact hproper
    · unfold processRollouts
      rw [hhistory]
      exact h.process.histories
    · unfold rolloutRow
      rw [hrollouts]
      exact h.db.rows
  | copies hmakes => exact h.putSurface (h.makes hmakes).1
  | binds hmakes _ _ hstorable =>
    have hproper := (h.makes hmakes).1
    rw [hproper.unstorable_iff, not_le] at hstorable
    exact (h.putSurface hproper).storeBinding hproper hstorable
  | records hmakes | unstored hmakes =>
    obtain ⟨hproper, hsnapshot⟩ := h.makes hmakes
    exact (h.putSurface hproper).recordRollout hsnapshot
  | stored hmakes _ hstorable =>
    obtain ⟨hproper, hsnapshot⟩ := h.makes hmakes
    rw [hproper.unstorable_iff, not_le] at hstorable
    exact ((h.putSurface hproper).recordRollout hsnapshot).storeBinding hproper hstorable
  | restarts => exact ⟨.initial, h.db⟩

end

end ProperState

end

/-! ## What a rollback brings back

A publication keeps a snapshot of the surface, without its allowed origins; the other
entries keep none. A rollback to a publication brings everything back but the origins, and
a rollback to another entry is answered like one that succeeds and changes nothing. -/

section

variable (py : Builtins) (e e' : GatewayEntry)

/-- Requests to both surfaces are treated alike. -/
structure SameTreatment (surface surface' : Surface) : Prop where
  serves : ∀ path, surface.serves path = surface'.serves path
  verdict : ∀ policies recentAllowed request,
    testRoute py policies surface recentAllowed request =
      testRoute py policies surface' recentAllowed request
  preflight : ∀ headers, preflight surface headers = preflight surface' headers

/-- Both surfaces allow the same origins. -/
def SameOrigins (surface surface' : Surface) : Prop :=
  ∀ origin, origin ≠ "" → surface.corsAllowedOrigins.contains origin =
    surface'.corsAllowedOrigins.contains origin

theorem corsDecision_congr {surface surface' : Surface} (h : SameOrigins surface surface')
    (headers : List (String × PyValue)) :
    corsDecision surface headers = corsDecision surface' headers := by
  unfold corsDecision
  cases horigin : headerValue headers "origin" with
  | none => rfl
  | some origin =>
    obtain ⟨header, _, hvalue⟩ := List.exists_of_findSome?_eq_some horigin
    split at hvalue
    · have hne : origin ≠ "" := by simpa using (Option.filter_eq_some_iff.mp hvalue).2
      dsimp only
      rw [h origin hne]
    · cases hvalue

/-- A snapshot brings everything back but the origins. -/
theorem sameTreatment_update_iff (surface snapped : Surface) :
    SameTreatment py (surface.update snapped.snapshot) snapped ↔ SameOrigins surface snapped := by
  constructor
  · intro h origin hne
    have hheader : headerValue [("origin", .str origin)] "origin" = some origin := by
      simp only [headerValue, List.findSome?_cons]
      rw [if_pos (by decide)]
      simp [PyValue.str?, Option.filter, hne]
    obtain ⟨_, _, _, hone⟩ := preflight_eq (surface.update snapped.snapshot)
      [("origin", .str origin)]
    obtain ⟨_, _, _, htwo⟩ := preflight_eq snapped [("origin", .str origin)]
    have hsame := (IngressReply.preflight.inj (hone.symm.trans ((h.preflight _).trans htwo))).2.2.1
    unfold corsDecision at hsame
    rw [hheader] at hsame
    exact Option.some.inj (CorsDecision.mk.inj hsame).2
  · intro h
    have hcors : ∀ headers, corsDecision (surface.update snapped.snapshot) headers =
        corsDecision snapped headers := corsDecision_congr h
    have hlimit : rateLimitOf (surface.update snapped.snapshot) = rateLimitOf snapped := by
      show rateLimitOf { snapped with requestsPerMinute := some (snapped.requestsPerMinute.getD 120) }
        = _
      unfold rateLimitOf
      cases snapped.requestsPerMinute <;> rfl
    refine ⟨fun _ => rfl, fun policies recentAllowed request => ?_, fun headers => ?_⟩
    · unfold testRoute
      rw [hcors, hlimit]
      rfl
    · unfold preflight
      rw [hcors]

/-! ## Versions -/

def GatewayCall.publishes : GatewayCall → Bool
  | .publish .. => true
  | _ => false

/-- The call has recorded a version of the surface. -/
def Records (surfaceId : Int) (version : Nat) : Prop :=
  (surfaceRolloutHistory e.before surfaceId).length + 1 = version ∧
    (surfaceRolloutHistory e.after surfaceId).length = version

/-- The call is a rollback of the surface to a version and has succeeded. -/
def RollsBack (surfaceId : Int) (version : Nat) : Prop :=
  ∃ now requestId audit payload refused,
    e.call = .rollout now requestId audit surfaceId payload refused ∧
    Operation.ofText? (textOf py payload "operation") = some .rollback ∧
    positiveInt (payload.get "rollback_to_version") = some version ∧
    e.reply.made?.isSome = true

/-- A rollback to a version makes ingress treat requests as right after the version was
recorded. -/
def Restores : Prop :=
  ∀ surfaceId version, Records e surfaceId version → RollsBack py e' surfaceId version →
    SameTreatment py (surfaceOf e'.after surfaceId) (surfaceOf e.after surfaceId)

/-- Before a rollback to a publication the surface allows the origins that were published, and
before one to another entry it is already treated as it was. -/
def Preserved : Prop :=
  ∀ surfaceId version, Records e surfaceId version → RollsBack py e' surfaceId version →
    if e.call.publishes then SameOrigins (surfaceOf e'.before surfaceId) (surfaceOf e.after surfaceId)
    else SameTreatment py (surfaceOf e'.before surfaceId) (surfaceOf e.after surfaceId)

end

variable {gateway : GatewayState} {py : Builtins} {tr : List GatewayEntry}

/-- The snapshot of a version. -/
theorem rolloutSurfaceSnapshot_eq (h : Numbered gateway) {surfaceId : Int} {rollout : Rollout}
    (hmem : rollout ∈ surfaceRolloutHistory gateway surfaceId) :
    rolloutSurfaceSnapshot (surfaceRolloutHistory gateway surfaceId) rollout.id =
      rollout.surfaceSnapshot := by
  have honly : ∀ other ∈ surfaceRolloutHistory gateway surfaceId, other.id = rollout.id →
      other = rollout := by
    intro other hother hid
    rw [h.mem_history_iff, hid] at hother
    exact Option.some.inj (hother.symm.trans ((h.mem_history_iff _ _).mp hmem))
  cases hsnapshot : rolloutSurfaceSnapshot (surfaceRolloutHistory gateway surfaceId) rollout.id with
  | some snapshot =>
    obtain ⟨other, hother, hid, hsome⟩ := rolloutSurfaceSnapshot_eq_some hsnapshot
    rw [← honly other hother hid, hsome]
  | none =>
    have hnone := List.findSome?_eq_none_iff.mp hsnapshot rollout hmem
    rw [if_pos rfl] at hnone
    exact hnone.symm

/-- What the history has of the versions that a run has recorded. -/
structure Remembers (py : Builtins) (tr : List GatewayEntry) (gateway : GatewayState) : Prop where
  numbered : Numbered gateway
  versions : ∀ e ∈ tr, ∀ surfaceId version, Records e surfaceId version →
    ∃ rollout ∈ surfaceRolloutHistory gateway surfaceId, rollout.id = version ∧
      rollout.surfaceSnapshot =
        if e.call.publishes then some (surfaceOf e.after surfaceId).snapshot else none

theorem Remembers.exec (h : Remembers py tr gateway) (call : GatewayCall) :
    Remembers py (tr ++ [entry (exec py) gateway call]) (exec py gateway call).2 := by
  have hstep := step_exec py gateway call
  obtain ⟨hnumbered, hextends⟩ := hstep.history h.numbered
  refine ⟨hnumbered, fun e he surfaceId version hrecords => ?_⟩
  rcases List.mem_append.mp he with hold | hnew
  · obtain ⟨rollout, hmem, hrest⟩ := h.versions e hold surfaceId version hrecords
    exact ⟨rollout, (hstep.history_prefix h.numbered surfaceId).subset hmem, hrest⟩
  · rw [List.mem_singleton.mp hnew] at hrecords ⊢
    obtain ⟨hbefore, hafter⟩ := hrecords
    replace hafter : (surfaceRolloutHistory (Gateway.exec py gateway call).2 surfaceId).length =
      version := hafter
    rcases hextends with hsame | ⟨madeId, surface, rollout, hmakes, hsurface, hmore⟩
    · rw [hsame, ← hbefore] at hafter
      exact absurd hafter.symm (Nat.succ_ne_self _)
    · rw [hmore] at hafter
      split at hafter
      · rename_i hid
        subst hid
        refine ⟨rollout, ?_, hmakes.id_eq.trans hbefore, ?_⟩
        · rw [hmore, if_pos rfl]
          exact List.mem_append_right _ (List.mem_singleton.mpr rfl)
        · show _ = if call.publishes then
            some (surfaceOf (Gateway.exec py gateway call).2 surfaceId).snapshot else none
          rw [hsurface]
          cases hmakes with
          | publish | rollout => rfl
      · rw [← hbefore] at hafter
        exact absurd hafter.symm (Nat.succ_ne_self _)

theorem Step.made {call : GatewayCall} {next : GatewayReply × GatewayState}
    (h : Step py gateway call next) (hmade : next.1.made?.isSome = true) :
    ∃ surfaceId surface rollout, Makes py gateway call surfaceId surface rollout ∧
      surfaceOf next.2 surfaceId = surface := by
  have hcopy : ∀ {g : GatewayState} {surfaceId surface}, g.process.surfaces =
      gateway.process.surfaces.set surfaceId surface → surfaceOf g surfaceId = surface := by
    intro g surfaceId surface hset
    unfold surfaceOf
    rw [hset, Dict.get?_set_self]
  cases h with
  | reads hreply =>
    rw [hreply] at hmade
    cases hmade
  | copies | binds | records => cases hmade
  | unstored hmakes | stored hmakes => exact ⟨_, _, _, hmakes, hcopy rfl⟩
  | restarts => cases hmade

theorem restores_iff_preserved (h : Remembers py tr gateway) {e : GatewayEntry} (he : e ∈ tr)
    (call : GatewayCall) :
    Restores py e (entry (exec py) gateway call) ↔ Preserved py e (entry (exec py) gateway call) := by
  refine forall_congr' fun surfaceId => forall_congr' fun version => forall_congr' fun hrecords =>
    forall_congr' fun hback => ?_
  obtain ⟨rollout, hmem, hid, hsnapshot⟩ := h.versions e he surfaceId version hrecords
  obtain ⟨now, requestId, audit, payload, refused, hcall, hoperation, hversion, hmade⟩ := hback
  obtain rfl : call = .rollout now requestId audit surfaceId payload refused := hcall
  obtain ⟨madeId, changed, _, hmakes, hsurface⟩ := (step_exec py gateway _).made hmade
  show SameTreatment py (surfaceOf (exec py gateway _).2 surfaceId) _ ↔
    if e.call.publishes then SameOrigins (surfaceOf gateway surfaceId) _
    else SameTreatment py (surfaceOf gateway surfaceId) _
  have hfound := rolloutSurfaceSnapshot_eq h.numbered hmem
  rw [hid] at hfound
  cases hmakes with
  | @rollout _ _ _ _ _ _ operation _ _ hoperation' hchanged =>
    cases hoperation.symm.trans hoperation'
    rw [hsurface]
    cases hchanged with
    | restored version' snapshot hversion' hsome =>
      cases hversion.symm.trans hversion'
      rw [hsome, hsnapshot] at hfound
      split at hfound
      · rename_i hpublishes
        rw [if_pos hpublishes, Option.some.inj hfound]
        exact sameTreatment_update_iff py _ _
      · cases hfound
    | unrestored version' hversion' hnone =>
      cases hversion.symm.trans hversion'
      rw [hnone, hsnapshot] at hfound
      split at hfound
      · cases hfound
      · rename_i hpublishes
        rw [if_neg hpublishes]

/-- Every rollback restores, if and only if every one finds preserved what it does not restore. -/
theorem rollbacks_restore_iff (py : Builtins) (calls : List GatewayCall) :
    (trace (exec py) {} calls).Pairwise (Restores py) ↔
      (trace (exec py) {} calls).Pairwise (Preserved py) := by
  have hpairs := history_induction (exec py) (J := fun tr gateway => Remembers py tr gateway ∧
      tr.Pairwise fun e e' => Restores py e e' ↔ Preserved py e e')
    (fun tr gateway call _ h => ⟨h.1.exec call, List.pairwise_append.mpr ⟨h.2,
      List.pairwise_singleton _ _, fun e he e' he' => by
        rw [List.mem_singleton.mp he']
        exact restores_iff_preserved h.1 he call⟩⟩)
    calls [] {} ⟨⟨.initial, fun _ he => by cases he⟩, .nil⟩ (admitted_true (exec py) calls _)
  constructor
  · intro h
    exact (hpairs.2.and h).imp fun hboth => hboth.1.mp hboth.2
  · intro h
    exact (hpairs.2.and h).imp fun hboth => hboth.1.mpr hboth.2

/-- A surface is published for one shop and then for another, and the first version is brought
back. -/
def restoredOrders : List GatewayCall :=
  [publishKeyed 501 "/orders" ["https://shop.example"],
    publishKeyed 501 "/orders" ["https://store.example"],
    .rollout 2 none {} 501 [("operation", .str "rollback"), ("audit_reason", .str "incident"),
      ("rollback_to_version", .int 1)]]

/-- The first shop is refused after the rollback to its version. -/
theorem rollback_keeps_origins :
    ¬ (trace (exec .simple) {} restoredOrders).Pairwise (Restores .simple) := by
  intro h
  have hsame := (List.pairwise_cons.mp h).1 _ (List.mem_cons_of_mem _ List.mem_cons_self) 501 1
    ⟨by decide +kernel, by decide +kernel⟩
    ⟨2, none, {}, _, none, rfl, by decide +kernel, by decide +kernel, by decide +kernel⟩
  have hstatus := congrArg Verdict.httpStatus (hsame.verdict ⟨[]⟩ 0
    { bareRequest "orders" with headers := [("origin", .str "https://shop.example")] })
  exact absurd hstatus (by decide +kernel)

end DimooRun.Gateway
