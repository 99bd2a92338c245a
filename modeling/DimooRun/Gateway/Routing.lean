/-
  Gateway/Routing.lean --- copies, bindings and the owners of paths.

  As long as no commit fails, a copy is what the database has, no two bindings share a
  path, and a request is decided by the surface that the database has for its path. A
  commit that fails leaves a changed copy or an entry behind.
-/
import DimooRun.Gateway.Histories

set_option autoImplicit false

namespace DimooRun.Gateway

open Foundation Policy
open Scheduler (Time)

/-! ## Copies and bindings -/

theorem taken_eq_false_iff (db : GatewayDb) (surface : Surface) :
    taken db surface = false ↔ ∀ surfaceId other, db.bindings.get? surfaceId = some other →
      surfaceId ≠ surface.id → other.routePath ≠ surface.routePath := by
  unfold taken
  simp only [List.any_eq_false, Bool.and_eq_true, bne_iff_ne, beq_iff_eq, not_and,
    Dict.get?_eq_some_iff, Prod.forall]

/-- A copy is what the database has, and no two bindings share a path. -/
structure Synced (gateway : GatewayState) : Prop where
  proper : ProperState gateway
  copies : ∀ surfaceId surface, 0 < surfaceId →
    gateway.process.surfaces.get? surfaceId = some surface →
      surface = (gateway.db.bindings.get? surfaceId).getD { id := surfaceId }
  paths : ∀ surfaceId surfaceId' surface surface',
    gateway.db.bindings.get? surfaceId = some surface →
    gateway.db.bindings.get? surfaceId' = some surface' →
    surface.routePath = surface'.routePath → surfaceId = surfaceId'

namespace Synced

variable {gateway : GatewayState}

theorem initial : Synced {} where
  proper := .initial
  copies _ _ _ h := by cases h
  paths _ _ _ _ h := by cases h

variable {surfaceId : Int} {surface : Surface} {path : String}

section

variable (h : Synced gateway)
include h

theorem surfaceOf_eq (hpos : 0 < surfaceId) :
    surfaceOf gateway surfaceId = (gateway.db.bindings.get? surfaceId).getD { id := surfaceId } := by
  unfold surfaceOf
  split
  · rename_i surface hcopy
    exact h.copies surfaceId surface hpos hcopy
  · split
    · rename_i surface hbinding
      rw [hbinding]
      rfl
    · rename_i hnone
      rw [hnone]
      rfl

theorem step {py : Builtins} {call : GatewayCall} {next : GatewayReply × GatewayState}
    (hstep : Step py gateway call next) (hfree : commitFails py gateway call = false) :
    Synced next.2 := by
  have hproper := h.proper.step hstep
  cases hstep with
  | reads _ hreads _ =>
    refine ⟨hproper, fun other kept hpos hcopy => ?_, hreads.bindings.symm ▸ h.paths⟩
    rw [hreads.bindings]
    rcases hreads.surfaces with hsame | ⟨surfaceId, surface, hset, hfrom⟩
    · exact h.copies other kept hpos (hsame ▸ hcopy)
    · rw [hset] at hcopy
      rcases Dict.get?_set_cases hcopy with ⟨rfl, rfl⟩ | ⟨_, hcopy⟩
      · rcases hfrom with hread | ⟨hstored, hid⟩
        · rw [hread, h.surfaceOf_eq hpos]
        · obtain ⟨key, hbinding⟩ := (Dict.mem_values_iff _).mp hstored
          rw [← hid, (h.proper.db.bindings key surface hbinding).1.id_eq, hbinding]
          rfl
      · exact h.copies other kept hpos hcopy
  | copies _ hmaking hfails | binds _ hmaking hfails | records _ hmaking hfails =>
    rw [commitFails, hmaking, Option.any_some, hfails] at hfree
    cases hfree
  | unstored hmakes _ hstorable =>
    rw [(h.proper.makes hmakes).1.unstorable_iff] at hstorable
    refine ⟨hproper, fun other kept hpos hcopy => ?_, h.paths⟩
    replace hcopy := (Dict.get?_set_ne _ _ (by omega)).symm.trans hcopy
    exact h.copies other kept hpos hcopy
  | @stored surfaceId surface _ hmakes _ _ htaken =>
    have hid := (h.proper.makes hmakes).1.id_eq
    rw [taken_eq_false_iff] at htaken
    refine ⟨hproper, fun other kept hpos hcopy => ?_, fun id id' kept kept' hget hget' hpath => ?_⟩
    · show kept = ((gateway.db.bindings.set surface.id surface).get? other).getD _
      rw [hid, Dict.get?_set]
      rcases Dict.get?_set_cases hcopy with ⟨hother, rfl⟩ | ⟨hother, hcopy⟩
      · rw [if_pos hother]
        rfl
      · rw [if_neg hother]
        exact h.copies other kept hpos hcopy
    · rcases Dict.get?_set_cases hget with ⟨hone, rfl⟩ | ⟨hone, hget⟩ <;>
        rcases Dict.get?_set_cases hget' with ⟨htwo, rfl⟩ | ⟨htwo, hget'⟩
      · exact hone.trans htwo.symm
      · exact absurd hpath.symm (htaken id' kept' hget' (hid ▸ htwo))
      · exact absurd hpath (htaken id kept hget (hid ▸ hone))
      · exact h.paths id id' kept kept' hget hget' hpath
  | restarts =>
    refine ⟨hproper, fun _ _ _ hcopy => ?_, h.paths⟩
    cases hcopy

/-- A copy that can be found by its route is what the database has. -/
theorem binding_of_serves (hcopy : gateway.process.surfaces.get? surfaceId = some surface)
    (hserves : surface.serves path = true) : gateway.db.bindings.get? surfaceId = some surface := by
  have hpublished := (Bool.and_eq_true_iff.mp hserves).2
  have hsurface := h.copies surfaceId surface
    ((h.proper.process.surfaces surfaceId surface hcopy).id_pos hpublished) hcopy
  cases hbinding : gateway.db.bindings.get? surfaceId with
  | none =>
    rw [hsurface, hbinding] at hpublished
    cases hpublished
  | some binding =>
    rw [hsurface, hbinding]
    rfl

/-- The binding that can be found by a route is the only one. -/
theorem find?_bindings (hbinding : gateway.db.bindings.get? surfaceId = some surface)
    (hserves : surface.serves path = true) :
    gateway.db.bindings.values.find? (Surface.serves path) = some surface := by
  cases hfind : gateway.db.bindings.values.find? (Surface.serves path) with
  | none =>
    exact absurd hserves (List.find?_eq_none.mp hfind surface
      ((Dict.mem_values_iff _).mpr ⟨surfaceId, hbinding⟩))
  | some found =>
    obtain ⟨foundId, hfound⟩ := (Dict.mem_values_iff _).mp (List.mem_of_find?_eq_some hfind)
    have hpath : ∀ {s : Surface}, s.serves path = true → s.routePath = path := fun hs =>
      beq_iff_eq.mp (Bool.and_eq_true_iff.mp hs).1
    have hsame := h.paths foundId surfaceId found surface hfound hbinding
      ((hpath (List.find?_some hfind)).trans (hpath hserves).symm)
    rw [hsame, hbinding] at hfound
    exact hfound.symm

/-- A request goes to the surface that the database has for its path. -/
theorem route_eq (path : String) : (surfaceForPublishedRoute gateway path).map Prod.fst =
      gateway.db.bindings.values.find? (Surface.serves path) := by
  unfold surfaceForPublishedRoute
  cases hown : gateway.process.surfaces.values.find? (Surface.serves path) with
  | some surface =>
    obtain ⟨surfaceId, hcopy⟩ := (Dict.mem_values_iff _).mp (List.mem_of_find?_eq_some hown)
    have hserves := List.find?_some hown
    exact (h.find?_bindings (h.binding_of_serves hcopy hserves) hserves).symm
  | none =>
    cases gateway.db.bindings.values.find? (Surface.serves path) with
    | none => rfl
    | some surface => rfl

end

end Synced

/-! ## One owner for each path -/

/-- What reading a surface, the bindings and the histories shows is the same. -/
structure SameView (gateway gateway' : GatewayState) : Prop where
  surfaces : ∀ surfaceId, surfaceOf gateway' surfaceId = surfaceOf gateway surfaceId
  bindings : gateway'.db.bindings = gateway.db.bindings
  histories : ∀ surfaceId,
    surfaceRolloutHistory gateway' surfaceId = surfaceRolloutHistory gateway surfaceId

/-- A call that was rejected has changed nothing, no two published copies share a path, and a
request goes to the surface that the database has for its path. -/
structure Consistent (e : GatewayEntry) : Prop where
  rejected : e.reply.rejected = true → SameView e.before e.after
  owner : ∀ surfaceId surfaceId' surface surface' path,
    e.after.process.surfaces.get? surfaceId = some surface →
    e.after.process.surfaces.get? surfaceId' = some surface' →
    surface.serves path = true → surface'.serves path = true → surfaceId = surfaceId'
  route : ∀ path, (surfaceForPublishedRoute e.after path).map Prod.fst =
    e.after.db.bindings.values.find? (Surface.serves path)

theorem surfaceOf_putSurface (gateway : GatewayState) (surfaceId other : Int) (surface : Surface) :
    surfaceOf (putSurface gateway surfaceId surface) other =
      if other = surfaceId then surface else surfaceOf gateway other := by
  unfold surfaceOf putSurface
  rw [Dict.get?_set]
  by_cases hother : other = surfaceId
  · rw [if_pos hother, if_pos hother]
  · rw [if_neg hother, if_neg hother]

variable {py : Builtins} {call : GatewayCall} {next : GatewayReply × GatewayState}
  {gateway : GatewayState}

theorem Step.sameView (h : Step py gateway call next) (hfree : commitFails py gateway call = false)
    (hrejected : next.1.rejected = true) : SameView gateway next.2 := by
  cases h with
  | reads _ _ hkept =>
    rcases hkept hrejected with rfl | ⟨surfaceId, rfl⟩
    · exact ⟨fun _ => rfl, rfl, fun _ => rfl⟩
    · refine ⟨fun other => ?_, rfl, fun _ => rfl⟩
      rw [surfaceOf_putSurface]
      split
      · rename_i hother
        rw [hother]
      · rfl
  | copies _ hmaking hfails | binds _ hmaking hfails | records _ hmaking hfails =>
    rw [commitFails, hmaking, Option.any_some, hfails] at hfree
    cases hfree
  | unstored | stored | restarts => cases hrejected

theorem Step.logs_of_rejected (h : Step py gateway call next) (hrejected : next.1.rejected = true) :
    (∀ surfaceId, recentAllowed next.2 surfaceId = recentAllowed gateway surfaceId) ∧
      next.2.process.requestLogSequence = gateway.process.requestLogSequence := by
  cases h with
  | reads _ _ hkept =>
    rcases hkept hrejected with rfl | ⟨surfaceId, rfl⟩
    · exact ⟨fun _ => rfl, rfl⟩
    · exact ⟨fun _ => rfl, rfl⟩
  | copies | binds | records => exact ⟨fun _ => rfl, rfl⟩
  | _ => cases hrejected

/-- Whether ingress answers alike is a matter of the routes and the logs. -/
theorem reply_handleLiveIngress_congr {gateway' : GatewayState}
    (hroute : ∀ path, (surfaceForPublishedRoute gateway' path).map Prod.fst =
      (surfaceForPublishedRoute gateway path).map Prod.fst)
    (hlogs : ∀ surfaceId, recentAllowed gateway' surfaceId = recentAllowed gateway surfaceId)
    (hsequence : gateway'.process.requestLogSequence = gateway.process.requestLogSequence)
    (py : Builtins) (policies : Table PolicyRow) (now : Time) (request : LiveRequest) :
    (handleLiveIngress py policies now request gateway').1 =
      (handleLiveIngress py policies now request gateway).1 := by
  -- reading a surface leaves the logs alone
  have hread : ∀ {g found : GatewayState} {surface : Surface},
      surfaceForPublishedRoute g request.routePath = some (surface, found) →
      (∀ surfaceId, recentAllowed found surfaceId = recentAllowed g surfaceId) ∧
        found.process.requestLogSequence = g.process.requestLogSequence := by
    intro g found surface hfound
    obtain ⟨_, ⟨_, rfl⟩ | ⟨_, rfl⟩⟩ := surfaceForPublishedRoute_cases hfound
    · exact ⟨fun _ => rfl, rfl⟩
    · exact ⟨fun _ => rfl, rfl⟩
  have hpath := hroute request.routePath
  unfold handleLiveIngress
  cases hnew : surfaceForPublishedRoute gateway' request.routePath with
  | none =>
    rw [hnew] at hpath
    rw [Option.map_eq_none_iff.mp hpath.symm]
  | some found' =>
    rw [hnew] at hpath
    obtain ⟨⟨surface, loaded⟩, hold, rfl⟩ := Option.map_eq_some_iff.mp hpath.symm
    rw [hold]
    dsimp only
    rw [(hread hnew).1, (hread hold).1, (hread hnew).2, (hread hold).2, hlogs, hsequence]
    split <;> rfl

/-- The numbers of the histories are one to `n` in this order, those of publications are their
versions, nothing recorded is altered, and a call that is rejected changes no binding, no history
and no answer of ingress. -/
structure GapFree (py : Builtins) (e : GatewayEntry) : Prop where
  numbers : ∀ surfaceId, (surfaceRolloutHistory e.after surfaceId).map Rollout.id =
    List.range' 1 (surfaceRolloutHistory e.after surfaceId).length
  versions : ∀ surfaceId, ∀ rollout ∈ surfaceRolloutHistory e.after surfaceId,
    rollout.operation = "publish" → rollout.version = some rollout.id
  kept : ∀ surfaceId,
    surfaceRolloutHistory e.before surfaceId <+: surfaceRolloutHistory e.after surfaceId
  rejected : e.reply.rejected = true → SameView e.before e.after ∧
    ∀ policies now request, (handleLiveIngress py policies now request e.after).1 =
      (handleLiveIngress py policies now request e.before).1

/-- What a run without failing commits keeps. -/
structure Orderly (gateway : GatewayState) : Prop where
  synced : Synced gateway
  numbered : Numbered gateway
  versions : ∀ surfaceId, ∀ rollout ∈ surfaceRolloutHistory gateway surfaceId,
    rollout.operation = "publish" → rollout.version = some rollout.id

theorem Orderly.exec (h : Orderly gateway) (hfree : commitFails py gateway call = false) :
    Orderly (exec py gateway call).2 := by
  have hstep := step_exec py gateway call
  obtain ⟨hnumbered, hextends⟩ := hstep.history h.numbered
  refine ⟨h.synced.step hstep hfree, hnumbered, fun surfaceId rollout hmem => ?_⟩
  rcases hextends with hsame | ⟨recordedId, _, entry, hmakes, _, hmore⟩
  · rw [hsame] at hmem
    exact h.versions surfaceId rollout hmem
  · rw [hmore] at hmem
    split at hmem
    · rcases List.mem_append.mp hmem with hold | hnew
      · exact h.versions recordedId rollout hold
      · rw [List.mem_singleton.mp hnew]
        exact hmakes.version_eq
    · exact h.versions surfaceId rollout hmem

/-- In every run in which no commit fails, restarts included, the histories are logs without
gaps. -/
theorem histories_gap_free (py : Builtins) (calls : List GatewayCall)
    (hcommits : ∀ e ∈ trace (exec py) {} calls, commitFails py e.before e.call = false) :
    ∀ e ∈ trace (exec py) {} calls, GapFree py e := by
  have hadmitted : Admitted (exec py) (fun gateway call => commitFails py gateway call = false) {}
      calls := (admitted_iff_forall_mem_trace (exec py) calls {}).mpr hcommits
  have hinitial : Orderly {} := ⟨.initial, .initial, fun _ _ hmem => by cases hmem⟩
  refine forall_mem_trace (exec py) (I := Orderly) ?_ calls {} hinitial hadmitted
  intro gateway call hfree h
  have hstep := step_exec py gateway call
  have hafter := h.exec hfree
  refine ⟨⟨hafter.numbered.map_id_history, hafter.versions, hstep.history_prefix h.numbered, ?_⟩,
    hafter⟩
  intro hrejected
  have hview := hstep.sameView hfree hrejected
  refine ⟨hview, fun policies now request => ?_⟩
  have hroute : ∀ path, (surfaceForPublishedRoute (exec py gateway call).2 path).map Prod.fst =
      (surfaceForPublishedRoute gateway path).map Prod.fst := fun path => by
    rw [hafter.synced.route_eq, h.synced.route_eq, hview.bindings]
  obtain ⟨hlogs, hsequence⟩ := hstep.logs_of_rejected hrejected
  exact reply_handleLiveIngress_congr hroute hlogs hsequence py policies now request

/-- A surface is published in two lives of the process. -/
theorem histories_gap_free_restarted :
    let calls := [publishKeyed 501 "/orders" ["https://shop.example"], .restart,
      publishKeyed 501 "/orders" ["https://shop.example"]]
    (∀ e ∈ trace (exec .simple) {} calls, commitFails .simple e.before e.call = false) ∧
      ∀ e ∈ trace (exec .simple) {} calls, GapFree .simple e := by
  intro calls
  have hcommits : ∀ e ∈ trace (exec .simple) {} calls,
      commitFails .simple e.before e.call = false := by decide +kernel
  exact ⟨hcommits, histories_gap_free .simple calls hcommits⟩

end DimooRun.Gateway
