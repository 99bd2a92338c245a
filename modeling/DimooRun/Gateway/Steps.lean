/-
  Gateway/Steps.lean --- what a call can do to the state.

  A call that makes nothing at most reads a surface from the database. A call that makes a
  surface puts a copy into the process, records itself and stores the binding. A commit
  fails if the database refuses it, and that of the binding if another surface has the route
  path: by then the copy is there, a rollout may be recorded, and a publication be bound.
-/
import DimooRun.Gateway.Ingress

set_option autoImplicit false

namespace DimooRun.Gateway

open Foundation Policy
open Scheduler (Time)

section

/-! ## What is made -/

variable {payload : PyDict} {surface changed : Surface} {restored : Option Nat} {surfaceId : Int}
  {history : List Rollout}

theorem publishedId_pos {n : Nat} (h : publishedId payload = some n) : 0 < n := by
  unfold publishedId at h
  split at h
  · exact positiveInt_pos h
  · rw [← Option.some.inj h]
    decide

/-- What a publication that is not refused is about to store. -/
theorem planPublish_store {py : Builtins} {policies : Table PolicyRow} {now : Time}
    {audit : AuditScope} {gateway : GatewayState} {surfaceId : Nat}
    (h : planPublish py policies now audit payload gateway = .ok (.store surfaceId surface)) :
    0 < surfaceId ∧ surface = publishedSurface py now audit payload surfaceId
      (surfaceOf gateway surfaceId) := by
  unfold planPublish at h
  split at h
  · cases h
  · cases Except.ok.inj h
  · split at h
    · cases Except.ok.inj h
    · rename_i id hid
      dsimp only at h
      split at h
      · cases h
        exact ⟨publishedId_pos hid, rfl⟩
      · cases Except.ok.inj h

section

variable (py : Builtins) (gateway : GatewayState)

theorem publishedSurface_deploymentId_pos (now : Time) (audit : AuditScope)
    (payload : PyDict) (surfaceId : Nat) (current : Surface) :
    0 < (publishedSurface py now audit payload surfaceId current).deploymentId := by
  show (0 : Int) < ((positiveInt (payload.get "deployment_id")).getD 10 : Nat)
  cases h : positiveInt (payload.get "deployment_id") with
  | none => decide
  | some n => exact Int.natCast_pos.mpr (positiveInt_pos h)

/-- What a rollout that is not refused makes of the surface. -/
inductive Changed (payload : PyDict) (surface : Surface) (history : List Rollout) :
    Operation → Surface → Option Nat → Prop where
  | revoke (hstatus : surface.status ≠ .revoked) :
      Changed payload surface history .revoke { surface with status := .revoked } none
  | disable (hstatus : surface.status ≠ .disabled) :
      Changed payload surface history .disable { surface with status := .disabled } none
  | enable (hstatus : surface.status = .disabled) :
      Changed payload surface history .enable { surface with status := .active } none
  | trafficSplit (hstatus : surface.status = .active) (split : PyDict) :
      Changed payload surface history .trafficSplit { surface with trafficSplit := split } none
  | shadowMode (hstatus : surface.status = .active) (routeId : Nat) (mode : Bool) :
      Changed payload surface history .shadowMode
        { surface with shadowRouteId := some routeId, shadowMode := mode } none
  | restored (version : Nat) (snapshot : SurfaceSnapshot)
      (hversion : positiveInt (payload.get "rollback_to_version") = some version)
      (hsnapshot : rolloutSurfaceSnapshot history version = some snapshot) :
      Changed payload surface history .rollback (surface.update snapshot) (some version)
  | unrestored (version : Nat)
      (hversion : positiveInt (payload.get "rollback_to_version") = some version)
      (hsnapshot : rolloutSurfaceSnapshot history version = none) :
      Changed payload surface history .rollback surface none

theorem requireActive_change {next : RolloutPlan}
    (h : requireActive surface next = .change changed restored) :
    surface.status = .active ∧ next = .change changed restored := by
  unfold requireActive at h
  split at h
  · exact ⟨‹_›, h⟩
  · cases h
  · cases h

theorem planRevoke_change {reason : String}
    (h : planRevoke surfaceId surface reason payload = .change changed restored) :
    Changed payload surface history .revoke changed restored := by
  unfold planRevoke at h
  split at h
  · cases h
  · split at h
    · cases h
    · split at h
      · cases h
      · rename_i hstatus
        cases h
        exact .revoke hstatus

theorem planDisable_change (h : planDisable surface = .change changed restored) :
    Changed payload surface history .disable changed restored := by
  unfold planDisable at h
  split at h
  · cases h
  · rename_i hstatus
    cases h
    exact .disable hstatus

theorem planEnable_change (h : planEnable surface = .change changed restored) :
    Changed payload surface history .enable changed restored := by
  unfold planEnable at h
  split at h
  · cases h
  · cases h
  · cases h
    exact .enable ‹_›

theorem planTrafficSplit_change (hstatus : surface.status = .active)
    (h : planTrafficSplit surface payload = .change changed restored) :
    Changed payload surface history .trafficSplit changed restored := by
  unfold planTrafficSplit at h
  split at h
  · cases h
    exact .trafficSplit hstatus _
  · cases h

theorem planShadowMode_change (hstatus : surface.status = .active)
    (h : planShadowMode surface payload = .change changed restored) :
    Changed payload surface history .shadowMode changed restored := by
  unfold planShadowMode at h
  split at h
  · cases h
    exact .shadowMode hstatus _ _
  · cases h

theorem planRollback_change (h : planRollback surface history payload = .change changed restored) :
    Changed payload surface history .rollback changed restored := by
  unfold planRollback at h
  split at h
  · cases h
  · rename_i version hversion
    split at h
    · split at h
      · rename_i snapshot hsnapshot
        cases h
        exact .restored version snapshot hversion hsnapshot
      · rename_i hsnapshot
        cases h
        exact .unrestored version hversion hsnapshot
    · cases h

/-- A rollout that is not refused is one of the operations. -/
theorem planRollout_change {py : Builtins}
    (h : planRollout py surfaceId payload surface history = .change changed restored) :
    ∃ operation, Operation.ofText? (textOf py payload "operation") = some operation ∧
      Changed payload surface history operation changed restored := by
  unfold planRollout at h
  split at h
  · cases h
  · rename_i hoperation
    exact ⟨.revoke, hoperation, planRevoke_change h⟩
  · rename_i operation hrevoke hoperation
    refine ⟨operation, hoperation, ?_⟩
    split at h
    · cases h
    · cases operation with
      | revoke => exact absurd rfl hrevoke
      | disable => exact planDisable_change h
      | enable => exact planEnable_change h
      | trafficSplit =>
        obtain ⟨hstatus, hnext⟩ := requireActive_change h
        exact planTrafficSplit_change hstatus hnext
      | shadowMode =>
        obtain ⟨hstatus, hnext⟩ := requireActive_change h
        exact planShadowMode_change hstatus hnext
      | rollback => exact planRollback_change h

/-- What a call makes of a surface, and the entry it records. -/
inductive Makes (py : Builtins) (gateway : GatewayState) :
    GatewayCall → Int → Surface → Rollout → Prop where
  | publish (policies : Table PolicyRow) (now : Time) (requestId : Option String)
      (audit : AuditScope) (payload : PyDict) (refused : Option Commit) {surfaceId : Nat}
      {surface : Surface} (hpos : 0 < surfaceId)
      (hsurface : surface = publishedSurface py now audit payload surfaceId
        (surfaceOf gateway surfaceId)) :
      Makes py gateway (.publish policies now requestId audit payload refused) surfaceId surface
        (publishRollout now requestId audit (nextRolloutId gateway surfaceId) surface)
  | rollout (now : Time) (requestId : Option String) (audit : AuditScope)
      (refused : Option Commit) {surfaceId : Int} {payload : PyDict} {operation : Operation}
      {changed : Surface} {restored : Option Nat}
      (hoperation : Operation.ofText? (textOf py payload "operation") = some operation)
      (hchanged : Changed payload (surfaceOf gateway surfaceId)
        (surfaceRolloutHistory gateway surfaceId) operation changed restored) :
      Makes py gateway (.rollout now requestId audit surfaceId payload refused) surfaceId changed
        (rolloutEntry py now requestId audit payload restored (nextRolloutId gateway surfaceId))

/-- The surface that a call makes, whether or not its commits succeed. -/
def making : GatewayCall → Option Surface
  | .publish policies now _ audit payload _ =>
      match planPublish py policies now audit payload gateway with
      | .ok (.store _ surface) => some surface
      | _ => none
  | .rollout _ _ _ surfaceId payload _ =>
      match planRollout py surfaceId payload (surfaceOf gateway surfaceId)
          (surfaceRolloutHistory gateway surfaceId) with
      | .change surface _ => some surface
      | .refuse _ => none
  | _ => none

def GatewayCall.refused : GatewayCall → Option Commit
  | .publish _ _ _ _ _ refused => refused
  | .rollout _ _ _ _ _ refused => refused
  | _ => none

/-- A commit of a call that makes the surface fails. -/
def refusedCommit (call : GatewayCall) (surface : Surface) : Bool :=
  call.refused = some .evidence ∨
    ¬ (surface.id ≤ 0 ∨ surface.deploymentId ≤ 0) ∧
      (call.refused = some .binding ∨ taken gateway.db surface = true)

/-- A commit of the call fails. -/
def commitFails (call : GatewayCall) : Bool :=
  (making py gateway call).any (refusedCommit gateway call)

/-! ## Steps -/

/-- The process has a surface and the entry of what made it; the binding is still the old one. -/
def recorded (surfaceId : Int) (surface : Surface) (rollout : Rollout) :
    GatewayState :=
  recordRollout (putSurface gateway surfaceId surface) surfaceId rollout

/-- The database has the surface. -/
def storeBinding (surface : Surface) : GatewayState :=
  { gateway with
    db := { gateway.db with bindings := gateway.db.bindings.set surface.id surface } }

end

/-- At most a surface is read, and a request logged. -/
structure Reads (gateway gateway' : GatewayState) : Prop where
  bindings : gateway'.db.bindings = gateway.db.bindings
  rollouts : gateway'.db.rollouts = gateway.db.rollouts
  history : gateway'.process.rolloutHistory = gateway.process.rolloutHistory
  surfaces : gateway'.process.surfaces = gateway.process.surfaces ∨
    ∃ surfaceId surface,
      gateway'.process.surfaces = gateway.process.surfaces.set surfaceId surface ∧
        (surface = surfaceOf gateway surfaceId ∨
          surface ∈ gateway.db.bindings.values ∧ surface.id = surfaceId)

/-- The call is answered with a refusal, or it raises. -/
def GatewayReply.rejected : GatewayReply → Bool
  | .rollout (.done _ _) => false
  | .rollout _ => true
  | _ => false

/-- The call has made a surface. -/
def GatewayReply.made? : GatewayReply → Option (Surface × Rollout)
  | .rollout (.done surface entry) => some (surface, entry)
  | _ => none

inductive Step (py : Builtins) (gateway : GatewayState) (call : GatewayCall) :
    GatewayReply × GatewayState → Prop where
  | reads {reply : GatewayReply} {gateway' : GatewayState} (hreply : reply.made? = none)
      (hreads : Reads gateway gateway')
      (hrejected : reply.rejected = true → gateway' = gateway ∨
        ∃ surfaceId, gateway' = putSurface gateway surfaceId (surfaceOf gateway surfaceId)) :
      Step py gateway call (reply, gateway')
  /-- the first commit fails -/
  | copies {surfaceId : Int} {surface : Surface} {rollout : Rollout}
      (hmakes : Makes py gateway call surfaceId surface rollout)
      (hmaking : making py gateway call = some surface)
      (hfails : refusedCommit gateway call surface = true) :
      Step py gateway call (.rollout (.raised .commit), putSurface gateway surfaceId surface)
  /-- a publication is stored and fails -/
  | binds {surfaceId : Int} {surface : Surface} {rollout : Rollout}
      (hmakes : Makes py gateway call surfaceId surface rollout)
      (hmaking : making py gateway call = some surface)
      (hfails : refusedCommit gateway call surface = true)
      (hstorable : ¬ (surface.id ≤ 0 ∨ surface.deploymentId ≤ 0)) :
      Step py gateway call
        (.rollout (.raised .commit), storeBinding (putSurface gateway surfaceId surface) surface)
  /-- a rollout is recorded and fails -/
  | records {surfaceId : Int} {surface : Surface} {rollout : Rollout}
      (hmakes : Makes py gateway call surfaceId surface rollout)
      (hmaking : making py gateway call = some surface)
      (hfails : refusedCommit gateway call surface = true) :
      Step py gateway call (.rollout (.raised .commit), recorded gateway surfaceId surface rollout)
  /-- a surface that cannot be stored is not, and this is no failure -/
  | unstored {surfaceId : Int} {surface : Surface} {rollout : Rollout}
      (hmakes : Makes py gateway call surfaceId surface rollout)
      (hmaking : making py gateway call = some surface)
      (hstorable : surface.id ≤ 0 ∨ surface.deploymentId ≤ 0) :
      Step py gateway call
        (.rollout (.done surface rollout), recorded gateway surfaceId surface rollout)
  | stored {surfaceId : Int} {surface : Surface} {rollout : Rollout}
      (hmakes : Makes py gateway call surfaceId surface rollout)
      (hmaking : making py gateway call = some surface)
      (hstorable : ¬ (surface.id ≤ 0 ∨ surface.deploymentId ≤ 0))
      (htaken : taken gateway.db surface = false) :
      Step py gateway call (.rollout (.done surface rollout),
        storeBinding (recorded gateway surfaceId surface rollout) surface)
  | restarts : Step py gateway call (.restarted, { gateway with process := {} })

section

variable (py : Builtins) (gateway : GatewayState)
  (policies : Table PolicyRow) (now : Time) (requestId : Option String) (audit : AuditScope)

theorem step_publish (payload : PyDict) (refused : Option Commit) :
    Step py gateway (.publish policies now requestId audit payload refused)
      (exec py gateway (.publish policies now requestId audit payload refused)) := by
  have hkept : Reads gateway gateway := ⟨rfl, rfl, rfl, Or.inl rfl⟩
  cases hplan : planPublish py policies now audit payload gateway with
  | error e =>
    simp only [exec, publishSurface, hplan]
    exact .reads rfl hkept fun _ => Or.inl rfl
  | ok plan =>
    cases plan with
    | blocked reasons =>
      simp only [exec, publishSurface, hplan]
      exact .reads rfl hkept fun _ => Or.inl rfl
    | store surfaceId surface =>
      obtain ⟨hpos, hsurface⟩ := planPublish_store hplan
      have hmakes : Makes py gateway (.publish policies now requestId audit payload refused)
          surfaceId surface _ := .publish policies now requestId audit payload refused hpos hsurface
      have hstorable : ¬ (surface.id ≤ 0 ∨ surface.deploymentId ≤ 0) := by
        have hdeployment := publishedSurface_deploymentId_pos py now audit payload surfaceId
          (surfaceOf gateway surfaceId)
        rw [hsurface]
        rintro (hid | hnone)
        · exact absurd (Int.natCast_pos.mpr hpos) (not_lt.mpr hid)
        · exact absurd hdeployment (not_lt.mpr hnone)
      have hmaking : making py gateway (.publish policies now requestId audit payload refused) =
          some surface := by
        simp only [making, hplan]
      have hdb : (putSurface gateway surfaceId surface).db = gateway.db := rfl
      simp only [exec, publishSurface, hplan, persistSurfaceBinding, if_neg hstorable, hdb]
      by_cases hbinding : refused = some .binding ∨ taken gateway.db surface = true
      · simp only [if_pos hbinding]
        exact .copies hmakes hmaking (decide_eq_true (Or.inr ⟨hstorable, hbinding⟩))
      · simp only [if_neg hbinding]
        by_cases hevidence : refused = some .evidence
        · simp only [if_pos hevidence]
          exact .binds hmakes hmaking (decide_eq_true (Or.inl hevidence)) hstorable
        · simp only [if_neg hevidence]
          exact .stored hmakes hmaking hstorable (Bool.of_not_eq_true (not_or.mp hbinding).2)

theorem step_rollout (surfaceId : Int) (payload : PyDict) (refused : Option Commit) :
    Step py gateway (.rollout now requestId audit surfaceId payload refused)
      (exec py gateway (.rollout now requestId audit surfaceId payload refused)) := by
  -- reading the surface leaves the history as it is
  have hhistory : surfaceRolloutHistory (putSurface gateway surfaceId
      (surfaceOf gateway surfaceId)) surfaceId = surfaceRolloutHistory gateway surfaceId := rfl
  simp only [exec, rolloutSurface, hhistory]
  cases hplan : planRollout py surfaceId payload (surfaceOf gateway surfaceId)
      (surfaceRolloutHistory gateway surfaceId) with
  | refuse refusal =>
    refine .reads rfl ?_ fun _ => Or.inr ⟨surfaceId, rfl⟩
    exact ⟨rfl, rfl, rfl, Or.inr ⟨surfaceId, _, rfl, Or.inl rfl⟩⟩
  | change changed restored =>
    obtain ⟨operation, hoperation, hchanged⟩ := planRollout_change hplan
    have hmakes : Makes py gateway (.rollout now requestId audit surfaceId payload refused)
        surfaceId changed _ := .rollout now requestId audit refused hoperation hchanged
    have hmaking : making py gateway (.rollout now requestId audit surfaceId payload refused) =
        some changed := by
      simp only [making, hplan]
    have hput : putSurface (putSurface gateway surfaceId (surfaceOf gateway surfaceId)) surfaceId
        changed = putSurface gateway surfaceId changed := by
      unfold putSurface
      rw [Dict.set_set]
    have hdb : ∀ rollout, taken (recordRollout (putSurface gateway surfaceId changed) surfaceId
        rollout).db changed = taken gateway.db changed := fun _ => rfl
    simp only [hput, persistSurfaceBinding, hdb]
    by_cases hevidence : refused = some .evidence
    · simp only [if_pos hevidence]
      exact .copies hmakes hmaking (decide_eq_true (Or.inl hevidence))
    simp only [if_neg hevidence]
    by_cases hstorable : changed.id ≤ 0 ∨ changed.deploymentId ≤ 0
    · simp only [if_pos hstorable]
      exact .unstored hmakes hmaking hstorable
    simp only [if_neg hstorable]
    by_cases hbinding : refused = some .binding ∨ taken gateway.db changed = true
    · simp only [if_pos hbinding]
      exact .records hmakes hmaking (decide_eq_true (Or.inr ⟨hstorable, hbinding⟩))
    · simp only [if_neg hbinding]
      exact .stored hmakes hmaking hstorable (Bool.of_not_eq_true (not_or.mp hbinding).2)

theorem reads_surfaceForPublishedRoute {path : String} {gateway' : GatewayState}
    (h : surfaceForPublishedRoute gateway path = some (surface, gateway')) :
    Reads gateway gateway' := by
  obtain ⟨_, ⟨_, rfl⟩ | ⟨⟨key, hbinding⟩, rfl⟩⟩ := surfaceForPublishedRoute_cases h
  · exact ⟨rfl, rfl, rfl, Or.inl rfl⟩
  · exact ⟨rfl, rfl, rfl, Or.inr ⟨surface.id, surface, rfl,
      Or.inr ⟨(Dict.mem_values_iff _).mpr ⟨key, hbinding⟩, rfl⟩⟩⟩

theorem step_ingress (request : LiveRequest) : Step py gateway (.ingress policies now request)
      (exec py gateway (.ingress policies now request)) := by
  refine .reads rfl ?_ fun hrejected => by cases hrejected
  show Reads gateway (handleLiveIngress py policies now request gateway).2
  unfold handleLiveIngress
  split
  · exact ⟨rfl, rfl, rfl, Or.inl rfl⟩
  · rename_i surface gateway' hroute
    have hreads := reads_surfaceForPublishedRoute gateway hroute
    split
    · exact hreads
    · split
      · exact ⟨hreads.bindings, hreads.rollouts, hreads.history, hreads.surfaces⟩
      · exact hreads

/-- What a call does. -/
theorem step_exec (call : GatewayCall) : Step py gateway call (exec py gateway call) := by
  cases call with
  | publish policies now requestId audit payload refused =>
    exact step_publish py gateway policies now requestId audit payload refused
  | rollout now requestId audit surfaceId payload refused =>
    exact step_rollout py gateway now requestId audit surfaceId payload refused
  | ingress policies now request => exact step_ingress py gateway policies now request
  | restart => exact .restarts

end

end

/-! ## The stored logs across restarts

The rows stay when a process ends and the counter starts again at 900. A row is not
touched again as long as the counter has reached every row at each request that is logged. -/

/-- The number of the log that a call has left. -/
def GatewayReply.logId? : GatewayReply → Option Nat
  | .ingress (.answered _ requestLogId) => requestLogId
  | _ => none

/-- No log gets the number of a stored one, and the stored ones stay as they are. -/
structure AppendOnly (e : GatewayEntry) : Prop where
  fresh : ∀ id, e.reply.logId? = some id → ∀ row ∈ e.before.db.requestLogs.entries, row.1.2 ≠ id
  kept : ∀ key log, e.before.db.requestLogs.get? key = some log →
    e.after.db.requestLogs.get? key = some log

/-- The call leaves a log: its path is routed and its method logged. -/
def leavesLog (gateway : GatewayState) : GatewayCall → Bool
  | .ingress _ _ request =>
      (surfaceForPublishedRoute gateway request.routePath).isSome &&
        upperText request.method != "OPTIONS" && logged request
  | _ => false

/-- The counter of the process has reached every stored log. -/
def CaughtUp (gateway : GatewayState) : Prop :=
  ∀ row ∈ gateway.db.requestLogs.entries, row.1.2 ≤ gateway.process.requestLogSequence

/-- Up to the counter, and up to each stored log, every number is taken. -/
structure Filled (gateway : GatewayState) : Prop where
  start : 900 ≤ gateway.process.requestLogSequence
  counted : ∀ n, 900 < n → n ≤ gateway.process.requestLogSequence →
    ∃ row ∈ gateway.db.requestLogs.entries, row.1.2 = n
  below : ∀ row ∈ gateway.db.requestLogs.entries, ∀ n, 900 < n → n ≤ row.1.2 →
    ∃ row' ∈ gateway.db.requestLogs.entries, row'.1.2 = n

/-- What a call does to the logs. -/
inductive Logs (gateway : GatewayState) : Bool → GatewayReply × GatewayState → Prop where
  | leaves {reply : GatewayReply} {gateway' : GatewayState} (surfaceId : Int) (log : RequestLog)
      (hreply : reply.logId? = some (gateway.process.requestLogSequence + 1))
      (hrows : gateway'.db.requestLogs = gateway.db.requestLogs.set
        (surfaceId, gateway.process.requestLogSequence + 1) log)
      (hcounter : gateway'.process.requestLogSequence = gateway.process.requestLogSequence + 1) :
      Logs gateway true (reply, gateway')
  | keeps {reply : GatewayReply} {gateway' : GatewayState} (hreply : reply.logId? = none)
      (hrows : gateway'.db.requestLogs = gateway.db.requestLogs)
      (hcounter : gateway'.process.requestLogSequence = gateway.process.requestLogSequence ∨
        gateway'.process.requestLogSequence = 900) :
      Logs gateway false (reply, gateway')

section

variable (py : Builtins) (gateway : GatewayState)

/-- A publication or a rollout leaves the logs. -/
theorem logs_of_step {call : GatewayCall} {reply : RolloutReply} {gateway' : GatewayState}
    (h : Step py gateway call (.rollout reply, gateway')) :
    Logs gateway false (.rollout reply, gateway') := by
  cases h with
  | reads hreply _ hkept =>
    have hrejected : (GatewayReply.rollout reply).rejected = true := by
      cases reply with
      | done => cases hreply
      | blocked | refused | raised => rfl
    rcases hkept hrejected with rfl | ⟨_, rfl⟩
    · exact .keeps rfl rfl (Or.inl rfl)
    · exact .keeps rfl rfl (Or.inl rfl)
  | copies | binds | records | unstored | stored => exact .keeps rfl rfl (Or.inl rfl)

theorem logs_ingress (policies : Table PolicyRow) (now : Time) (request : LiveRequest) :
    Logs gateway (leavesLog gateway (.ingress policies now request))
      (exec py gateway (.ingress policies now request)) := by
  simp only [exec, handleLiveIngress, leavesLog]
  cases hroute : surfaceForPublishedRoute gateway request.routePath with
  | none => exact .keeps rfl rfl (Or.inl rfl)
  | some found =>
    obtain ⟨surface, gateway'⟩ := found
    -- routing may add a copy of a surface, and touches no log
    obtain ⟨hrows, hcounter⟩ : gateway'.db.requestLogs = gateway.db.requestLogs ∧
        gateway'.process.requestLogSequence = gateway.process.requestLogSequence := by
      obtain ⟨_, ⟨_, rfl⟩ | ⟨_, rfl⟩⟩ := surfaceForPublishedRoute_cases hroute
      · exact ⟨rfl, rfl⟩
      · exact ⟨rfl, rfl⟩
    by_cases hoptions : upperText request.method = "OPTIONS"
    · obtain ⟨_, _, _, hpreflight⟩ := preflight_eq surface request.headers
      simp only [hoptions, hpreflight]
      exact .keeps rfl hrows (Or.inl hcounter)
    · simp only [if_neg hoptions, bne_iff_ne.mpr hoptions]
      cases hlogged : logged request with
      | false => exact .keeps rfl hrows (Or.inl hcounter)
      | true =>
        refine .leaves surface.id (liveLog now surface request (testRoute py policies surface
          (recentAllowed gateway' surface.id) request) (gateway'.process.requestLogSequence + 1))
          (congrArg (fun n => some (n + 1)) hcounter) ?_ (congrArg (· + 1) hcounter)
        rw [← hrows, ← hcounter]
        rfl

theorem logs_exec (call : GatewayCall) :
    Logs gateway (leavesLog gateway call) (exec py gateway call) := by
  cases call with
  | publish policies now requestId audit payload refused =>
    exact logs_of_step py gateway
      (step_publish py gateway policies now requestId audit payload refused)
  | rollout now requestId audit surfaceId payload refused =>
    exact logs_of_step py gateway
      (step_rollout py gateway now requestId audit surfaceId payload refused)
  | ingress policies now request => exact logs_ingress py gateway policies now request
  | restart => exact .keeps rfl rfl (Or.inr rfl)

end

theorem Logs.filled {gateway : GatewayState} {leaves : Bool} {next : GatewayReply × GatewayState}
    (h : Logs gateway leaves next) (hfilled : Filled gateway) : Filled next.2 := by
  cases h with
  | @leaves reply gateway' surfaceId log hreply hrows hcounter =>
    have hold : ∀ n, (∃ row ∈ gateway.db.requestLogs.entries, row.1.2 = n) →
        ∃ row ∈ gateway'.db.requestLogs.entries, row.1.2 = n := by
      rintro n ⟨row, hrow, rfl⟩
      obtain ⟨log', hlog'⟩ := (Dict.mem_keys_iff gateway'.db.requestLogs (k := row.1)).mp (by
        rw [hrows]
        exact Dict.mem_setEntries_keys.mpr (Or.inr (List.mem_map_of_mem hrow)))
      exact ⟨_, (Dict.get?_eq_some_iff _).mp hlog', rfl⟩
    have hcounted : ∀ n, 900 < n → n ≤ gateway.process.requestLogSequence + 1 →
        ∃ row ∈ gateway'.db.requestLogs.entries, row.1.2 = n := by
      intro n hstart hn
      rcases Nat.lt_or_eq_of_le hn with hlt | heq
      · exact hold n (hfilled.counted n hstart (Nat.lt_succ_iff.mp hlt))
      · refine ⟨((surfaceId, _), log), (Dict.get?_eq_some_iff _).mp ?_, heq.symm⟩
        rw [hrows, Dict.get?_set_self]
    refine ⟨?_, fun n hstart hn => hcounted n hstart (hcounter ▸ hn), fun row hrow n hstart hn => ?_⟩
    · rw [hcounter]
      exact Nat.le_succ_of_le hfilled.start
    · have hget := (Dict.get?_eq_some_iff _).mpr hrow
      rw [hrows] at hget
      rcases Dict.get?_set_cases hget with ⟨hkey, _⟩ | ⟨_, hget⟩
      · exact hcounted n hstart (by rwa [hkey] at hn)
      · exact hold n (hfilled.below row ((Dict.get?_eq_some_iff _).mp hget) n hstart hn)
  | @keeps reply gateway' hreply hrows hcounter =>
    refine ⟨?_, fun n hstart hn => ?_, ?_⟩
    · rcases hcounter with hsame | hreset
      · exact hsame ▸ hfilled.start
      · exact hreset ▸ Nat.le_refl _
    · rw [hrows]
      rcases hcounter with hsame | hreset
      · exact hfilled.counted n hstart (hsame ▸ hn)
      · exact absurd hn (hreset ▸ Nat.not_le.mpr hstart)
    · rw [hrows]
      exact hfilled.below

/-- A log that is left is a new one if and only if the counter has reached every stored one. -/
theorem appendOnly_entry_iff (py : Builtins) {gateway : GatewayState} (hfilled : Filled gateway)
    (call : GatewayCall) :
    AppendOnly (entry (exec py) gateway call) ↔
      (leavesLog gateway call = true → CaughtUp gateway) := by
  have hlogs := logs_exec py gateway call
  generalize hleaves : leavesLog gateway call = leaves at hlogs
  show (AppendOnly ⟨gateway, call, (exec py gateway call).1, (exec py gateway call).2⟩ ↔ _)
  generalize exec py gateway call = next at hlogs
  cases hlogs with
  | leaves surfaceId log hreply hrows =>
    constructor
    · intro h _ row hrow
      by_contra hbehind
      obtain ⟨row', hrow', hid⟩ := hfilled.below row hrow _ (Nat.lt_succ_of_le hfilled.start)
        (Nat.not_le.mp hbehind)
      exact h.fresh _ hreply row' hrow' hid
    · intro hcaught
      have hlt : ∀ row ∈ gateway.db.requestLogs.entries,
          row.1.2 ≠ gateway.process.requestLogSequence + 1 := fun row hrow =>
        Nat.ne_of_lt (Nat.lt_succ_of_le (hcaught rfl row hrow))
      constructor
      · intro id hid row hrow
        cases hreply.symm.trans hid
        exact hlt row hrow
      · intro key log' hget
        have hne := hlt _ ((Dict.get?_eq_some_iff _).mp hget)
        rw [hrows, Dict.get?_set_ne _ _ fun hkey => hne (congrArg Prod.snd hkey), hget]
  | keeps hreply hrows =>
    refine iff_of_true ⟨fun id hid => ?_, fun key log hget => ?_⟩ fun h => by cases h
    · cases hreply.symm.trans hid
    · rw [hrows, hget]

/-- Every log stays as it is, if and only if at each request that is logged the counter has reached
every stored log. -/
theorem logs_append_only_iff (py : Builtins) (calls : List GatewayCall) :
    (∀ e ∈ trace (exec py) {} calls, AppendOnly e) ↔
      ∀ e ∈ trace (exec py) {} calls, leavesLog e.before e.call = true → CaughtUp e.before := by
  refine forall₂_congr (forall_mem_trace (exec py) (I := Filled) (P := fun e =>
    AppendOnly e ↔ (leavesLog e.before e.call = true → CaughtUp e.before))
    (fun gateway call _ hfilled => ⟨appendOnly_entry_iff py hfilled call,
      (logs_exec py gateway call).filled hfilled⟩) calls {} ?_ (admitted_true (exec py) calls _))
  refine ⟨Nat.le_refl _, fun n hstart hn => absurd hn (Nat.not_le.mpr hstart), fun row hrow => ?_⟩
  cases hrow

/-- After a restart the first request overwrites the row of the request before. -/
theorem restart_overwrites_log :
    let ask := fun now => GatewayCall.ingress ⟨[]⟩ now (bareRequest "orders")
    let before := final (exec .simple) {}
      [publishKeyed 501 "/orders" ["https://shop.example"], ask 2, .restart]
    let after := (exec .simple before (ask 3)).2
    (before.db.requestLogs.get? (501, 901)).map RequestLog.createdAt = some 2 ∧
      (after.db.requestLogs.get? (501, 901)).map RequestLog.createdAt = some 3 := by
  decide +kernel

end DimooRun.Gateway
