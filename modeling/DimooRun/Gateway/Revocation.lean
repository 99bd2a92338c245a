/-
  Gateway/Revocation.lean --- how long a revocation holds.

  A revoked surface may be disabled, and a disabled one enabled. A process serves from its
  own copies, which nothing refreshes, so it does not see what another process has revoked.
  Apart from this, and from commits that fail, a revocation holds in every process until the
  surface is published again or rolled back to a published version.
-/
import DimooRun.Gateway.Histories

set_option autoImplicit false

namespace DimooRun.Gateway

open Foundation Policy
open Scheduler (Time)

/-! ## Revoked surfaces -/

section

variable (py : Builtins) (surfaceId : Int) (gateway : GatewayState)

/-- Whether a surface is revoked after a reply: a revocation was carried out, and since then no
publication and no rollback that restored a version. -/
def revokedAfter (revoked : Bool) (reply : GatewayReply) : Bool :=
  match reply.made? with
  | some (surface, rollout) =>
      if surface.id = surfaceId then
        rollout.operation == "revoke" ||
          revoked && rollout.version.isNone && rollout.restoredVersion.isNone
      else revoked
  | none => revoked

def revokedBy (replies : List GatewayReply) : Bool :=
  replies.foldl (revokedAfter surfaceId) false

/-- The call is an operation on the surface, and is not refused. -/
def carriesOut (operation : Operation) (call : GatewayCall) : Bool :=
  (making py gateway call).isSome &&
    match call with
    | .rollout _ _ _ other payload _ =>
        other == surfaceId && Operation.ofText? (textOf py payload "operation") == some operation
    | _ => false

/-- The call disables the surface, which is revoked. -/
def disablesRevoked (call : GatewayCall) : Bool :=
  carriesOut py surfaceId gateway .disable call &&
    (surfaceOf gateway surfaceId).status == .revoked

/-- A commit of a call that makes the surface fails. -/
def failsOn (call : GatewayCall) : Bool :=
  (making py gateway call).any fun surface =>
    surface.id == surfaceId && refusedCommit gateway call surface

/-- The copy of the surface in a process is revoked. -/
def CopyRevoked (process : GatewayProcess) : Prop :=
  ∀ surface, process.surfaces.get? surfaceId = some surface → surface.status = .revoked

/-- The binding of the surface is revoked. -/
def BindingRevoked (db : GatewayDb) : Prop :=
  ∃ surface, db.bindings.get? surfaceId = some surface ∧ surface.status = .revoked

/-- The surface cannot be served: it is never published, or copy and binding are revoked. -/
def Shut : Prop :=
  surfaceId ≤ 0 ∨ BindingRevoked surfaceId gateway.db ∧ CopyRevoked surfaceId gateway.process

end

section

variable {py : Builtins} {surfaceId : Int} {gateway : GatewayState} {call : GatewayCall}
  {next : GatewayReply × GatewayState}

theorem not_accepted_of_shut (hproper : ProperState gateway) (hshut : Shut surfaceId gateway)
    (policies : Table PolicyRow) (now : Time) (request : LiveRequest) :
    (handleLiveIngress py policies now request gateway).1.acceptedOn ≠ some surfaceId := by
  intro haccepted
  obtain ⟨surface, gateway', hroute, rfl, _, _, _, hopen⟩ :=
    (acceptedOn_handleLiveIngress_eq_some_iff py policies now request gateway surfaceId).mp haccepted
  -- the surface is a copy or a binding, and it is active
  have hfound : (gateway.process.surfaces.get? surface.id = some surface ∨
      gateway.db.bindings.get? surface.id = some surface) ∧ 0 < surface.id := by
    obtain ⟨hserves, ⟨⟨key, hcopy⟩, _⟩ | ⟨⟨key, hbinding⟩, _⟩⟩ :=
      surfaceForPublishedRoute_cases hroute
    · have hkept := hproper.process.surfaces key surface hcopy
      rw [hkept.id_eq]
      exact ⟨Or.inl hcopy, hkept.id_pos (Bool.and_eq_true_iff.mp hserves).2⟩
    · have hkept := hproper.db.bindings key surface hbinding
      rw [hkept.1.id_eq]
      exact ⟨Or.inr hbinding, hkept.2⟩
  have hrevoked : surface.status = .revoked := by
    rcases hshut with hnever | ⟨⟨binding, hbinding, hstatus⟩, hcopies⟩
    · omega
    · rcases hfound.1 with hcopy | hstored
      · exact hcopies surface hcopy
      · rw [Option.some.inj (hstored.symm.trans hbinding)]
        exact hstatus
  cases hopen.active.symm.trans hrevoked

theorem Shut.status (hshut : Shut surfaceId gateway) (hpos : 0 < surfaceId) :
    (surfaceOf gateway surfaceId).status = .revoked := by
  obtain ⟨⟨binding, hbinding, hstatus⟩, hcopies⟩ := hshut.resolve_left (by omega)
  unfold surfaceOf
  split
  · rename_i surface hcopy
    exact hcopies surface hcopy
  · rw [hbinding]
    exact hstatus

/-- What a call makes of a surface that is revoked and not disabled is revoked, unless it
publishes or restores. -/
theorem Makes.revoked {surface : Surface} {rollout : Rollout}
    (h : Makes py gateway call surfaceId surface rollout)
    (hmaking : making py gateway call = some surface)
    (hdisables : disablesRevoked py surfaceId gateway call = false)
    (hrevoked : rollout.operation = "revoke" ∨
      rollout.version = none ∧ rollout.restoredVersion = none ∧
        (surfaceOf gateway surfaceId).status = .revoked) :
    surface.status = .revoked := by
  cases h with
  | publish =>
    rcases hrevoked with hoperation | ⟨hversion, _⟩
    · exact absurd (show "publish" = "revoke" from hoperation) (by decide)
    · cases hversion
  | @rollout _ _ _ _ _ payload operation _ _ hoperation hchanged =>
    have hstatus : operation ≠ .revoke → (surfaceOf gateway surfaceId).status = .revoked := by
      intro hne
      rcases hrevoked with htext | ⟨_, _, hstatus⟩
      · have hsame : Operation.ofText? "revoke" = some operation := htext ▸ hoperation
        cases hsame
        exact absurd rfl hne
      · exact hstatus
    cases hchanged with
    | revoke => rfl
    | disable =>
      refine absurd hdisables ?_
      simp [disablesRevoked, carriesOut, hmaking, hoperation, hstatus (by decide)]
    | enable hdisabled => cases (hstatus (by decide)).symm.trans hdisabled
    | trafficSplit hactive | shadowMode hactive => cases (hstatus (by decide)).symm.trans hactive
    | restored =>
      rcases hrevoked with htext | ⟨_, hnone, _⟩
      · have hsame : Operation.ofText? "revoke" = some Operation.rollback := htext ▸ hoperation
        cases hsame
      · cases hnone
    | unrestored => exact hstatus (by decide)

theorem Shut.congr {gateway' : GatewayState} (h : Shut surfaceId gateway)
    (hbinding : gateway'.db.bindings.get? surfaceId = gateway.db.bindings.get? surfaceId)
    (hcopy : gateway'.process.surfaces.get? surfaceId = gateway.process.surfaces.get? surfaceId) :
    Shut surfaceId gateway' := by
  unfold Shut BindingRevoked CopyRevoked
  rw [hbinding, hcopy]
  exact h

/-- A call after which the surface is still revoked, or is so now, leaves it shut. -/
theorem Step.shut (hstep : Step py gateway call next) (hproper : ProperState gateway)
    (hdisables : disablesRevoked py surfaceId gateway call = false)
    (hfails : failsOn py surfaceId gateway call = false) {revoked : Bool}
    (hshut : revoked = true → Shut surfaceId gateway)
    (hafter : revokedAfter surfaceId revoked next.1 = true) : Shut surfaceId next.2 := by
  by_cases hpos : 0 < surfaceId
  swap
  · exact .inl (by omega)
  have hother : ∀ {madeId surface rollout}, Makes py gateway call madeId surface rollout →
      making py gateway call = some surface → refusedCommit gateway call surface = true →
      surfaceId ≠ madeId := by
    rintro madeId surface rollout hmakes hmaking hfailing rfl
    rw [failsOn, hmaking, Option.any_some, (hproper.makes hmakes).1.id_eq, hfailing] at hfails
    simp at hfails
  cases hstep with
  | reads hreply hreads _ =>
    rw [revokedAfter, hreply] at hafter
    have hnow := hshut hafter
    obtain ⟨hbinding, hcopies⟩ := hnow.resolve_left (by omega)
    refine .inr ⟨?_, fun kept hcopy => ?_⟩
    · unfold BindingRevoked
      rw [hreads.bindings]
      exact hbinding
    rcases hreads.surfaces with hsame | ⟨readId, surface, hset, hfrom⟩
    · exact hcopies kept (hsame ▸ hcopy)
    · rw [hset] at hcopy
      rcases Dict.get?_set_cases hcopy with ⟨rfl, rfl⟩ | ⟨_, hcopy⟩
      · rcases hfrom with hcopied | ⟨hstored, hid⟩
        · rw [hcopied]
          exact hnow.status hpos
        · obtain ⟨key, hkey⟩ := (Dict.mem_values_iff _).mp hstored
          obtain ⟨binding, hget, hstatus⟩ := hbinding
          rw [← (hproper.db.bindings key surface hkey).1.id_eq, hid] at hkey
          rw [Option.some.inj (hkey.symm.trans hget)]
          exact hstatus
      · exact hcopies kept hcopy
  | copies hmakes hmaking hfailing | records hmakes hmaking hfailing =>
    exact (hshut hafter).congr rfl (Dict.get?_set_ne _ _ (hother hmakes hmaking hfailing))
  | binds hmakes hmaking hfailing =>
    have hne := hother hmakes hmaking hfailing
    refine (hshut hafter).congr (Dict.get?_set_ne _ _ ?_) (Dict.get?_set_ne _ _ hne)
    rwa [(hproper.makes hmakes).1.id_eq]
  | @unstored madeId surface rollout hmakes _ hstorable =>
    have hmade := (hproper.makes hmakes).1
    rw [hmade.unstorable_iff] at hstorable
    have hne : surfaceId ≠ madeId := by omega
    have hkept : revokedAfter surfaceId revoked (.rollout (.done surface rollout)) = revoked :=
      if_neg fun hid => hne (hid.symm.trans hmade.id_eq)
    exact (hshut (hkept ▸ hafter)).congr rfl (Dict.get?_set_ne _ _ hne)
  | @stored madeId surface rollout hmakes hmaking =>
    have hid := (hproper.makes hmakes).1.id_eq
    by_cases hsame : madeId = surfaceId
    · subst hsame
      have hmade : surface.status = .revoked := by
        refine hmakes.revoked hmaking hdisables ?_
        have hcases : (rollout.operation == "revoke" ||
            revoked && rollout.version.isNone && rollout.restoredVersion.isNone) = true :=
          (if_pos hid).symm.trans hafter
        simp only [Bool.or_eq_true, beq_iff_eq, Bool.and_eq_true,
          Option.isNone_iff_eq_none] at hcases
        exact hcases.imp_right fun h => ⟨h.1.2, h.2, (hshut h.1.1).status hpos⟩
      refine .inr ⟨⟨surface, ?_, hmade⟩, fun kept hcopy => ?_⟩
      · show (gateway.db.bindings.set surface.id surface).get? madeId = some surface
        rw [hid, Dict.get?_set_self]
      · replace hcopy : (gateway.process.surfaces.set madeId surface).get? madeId = some kept :=
          hcopy
        rw [Dict.get?_set_self] at hcopy
        rw [← Option.some.inj hcopy]
        exact hmade
    · have hkept : revokedAfter surfaceId revoked (.rollout (.done surface rollout)) = revoked :=
        if_neg fun heq => hsame (hid.symm.trans heq)
      refine (hshut (hkept ▸ hafter)).congr ?_ (Dict.get?_set_ne _ _ (Ne.symm hsame))
      exact Dict.get?_set_ne _ _ fun heq => hsame (hid.symm.trans heq.symm)
  | restarts =>
    obtain ⟨hbinding, _⟩ := (hshut hafter).resolve_left (by omega)
    exact .inr ⟨hbinding, fun _ hcopy => by cases hcopy⟩

end

/-! ## One process -/

/-- An operation on a surface. -/
def rolloutOf (surfaceId : Int) (operation : String) : GatewayCall :=
  .rollout 2 none {} surfaceId [("operation", .str operation), ("audit_reason", .str "incident"),
    ("confirmation", .str ("REVOKE SURFACE " ++ toString surfaceId))]

/-- A surface is published and revoked. -/
def revokedOrders : List GatewayCall :=
  [publishKeyed 501 "/orders" ["https://shop.example"], rolloutOf 501 "revoke"]

/-- Processes with one database. -/
structure GatewaySystem where
  processes : Nat → GatewayProcess := fun _ => {}
  db : GatewayDb := {}

namespace GatewaySystem

variable (py : Builtins) (surfaceId : Int) (system : GatewaySystem) (call : Nat × GatewayCall)

/-- What a process sees. -/
def view (process : Nat) : GatewayState :=
  ⟨system.processes process, system.db⟩

/-- One call to a process. -/
def exec : GatewayReply × GatewaySystem :=
  let (reply, gateway) := Gateway.exec py (system.view call.1) call.2
  (reply, ⟨Function.update system.processes call.1 gateway.process, gateway.db⟩)

/-- The process neither disables the surface while it is revoked nor fails to commit what it makes
of it, and when it revokes it, no other process has a copy that is not revoked. -/
def Steady : Prop :=
  disablesRevoked py surfaceId (system.view call.1) call.2 = false ∧
    failsOn py surfaceId (system.view call.1) call.2 = false ∧
    (carriesOut py surfaceId (system.view call.1) .revoke call.2 = true → ∀ other, other ≠ call.1 →
      CopyRevoked surfaceId (system.processes other))

theorem view_exec (process : Nat) : ((exec py system call).2.view process) =
      if process = call.1 then (Gateway.exec py (system.view call.1) call.2).2
      else ⟨system.processes process, (Gateway.exec py (system.view call.1) call.2).2.db⟩ := by
  unfold view exec
  dsimp only
  rw [Function.update_apply]
  split <;> rfl

/-- A surface becomes revoked only by a call that revokes it. -/
theorem revoked_or_revokes {py : Builtins} {surfaceId : Int} {gateway : GatewayState}
    {call : GatewayCall} {next : GatewayReply × GatewayState} (hstep : Step py gateway call next)
    (hproper : ProperState gateway) {revoked : Bool}
    (hafter : revokedAfter surfaceId revoked next.1 = true) :
    revoked = true ∨ carriesOut py surfaceId gateway .revoke call = true := by
  have hmade : ∀ {madeId surface rollout}, Makes py gateway call madeId surface rollout →
      making py gateway call = some surface →
      revokedAfter surfaceId revoked (.rollout (.done surface rollout)) = true →
      revoked = true ∨ carriesOut py surfaceId gateway .revoke call = true := by
    intro madeId surface rollout hmakes hmaking hcases
    have hid := (hproper.makes hmakes).1.id_eq
    simp only [revokedAfter, GatewayReply.made?, hid] at hcases
    split at hcases
    · rename_i hsame
      simp only [Bool.or_eq_true, beq_iff_eq, Bool.and_eq_true] at hcases
      rcases hcases with htext | hkept
      · cases hmakes with
        | publish => exact absurd (show "publish" = "revoke" from htext) (by decide)
        | rollout =>
          have htext' : textOf py _ "operation" = "revoke" := htext
          subst hsame
          refine .inr ?_
          simp only [carriesOut, hmaking, htext', beq_self_eq_true]
          rfl
      · exact .inl hkept.1.1
    · exact .inl hcases
  cases hstep with
  | reads hreply =>
    rw [revokedAfter, hreply] at hafter
    exact .inl hafter
  | unstored hmakes hmaking | stored hmakes hmaking => exact hmade hmakes hmaking hafter
  | _ => exact .inl hafter

/-- While the surface is revoked, no process can serve it. -/
structure AllShut
    (tr : List (Entry GatewaySystem (Nat × GatewayCall) GatewayReply)) (system : GatewaySystem) :
    Prop where
  proper : ∀ process, ProperState (system.view process)
  shut : revokedBy surfaceId (tr.map Entry.reply) = true →
    ∀ process, Shut surfaceId (system.view process)

/-- Two processes: the first publishes and revokes the surface. -/
def revokedByFirst : List (Nat × GatewayCall) :=
  [(0, publishKeyed 501 "/orders" ["https://shop.example"]), (0, rolloutOf 501 "revoke")]

end GatewaySystem

end DimooRun.Gateway
