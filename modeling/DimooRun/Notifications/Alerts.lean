/-
  Notifications/Alerts.lean --- `notifications/alerts.py`: the incidents that alert rules open, and
  what an operator does with them.

  Each call carries the clock readings it makes. Incidents are numbered as they are opened and
  none is removed, so the list and its counter are one table. What is delivered to a channel and
  what is audited is only ever written.
-/
import DimooRun.Foundation.Json
import DimooRun.Foundation.Table
import DimooRun.Foundation.Trace

set_option autoImplicit false

namespace DimooRun.Notifications

open Foundation (Dict PyDict Table Entry trace forall_mem_trace_iff)

/-- A time in microseconds. -/
abbrev Time : Type := Int

structure NotificationChannel where
  id : Nat
  tenantId : Nat
  projectId : Option Nat
  status : String := "active"

section

variable (Value : Type)

structure AlertRule where
  id : Nat
  tenantId : Nat
  projectId : Option Nat
  signal : String
  threshold : Value
  channelId : Nat
  status : String := "active"
  dedupeWindowSeconds : Int := 300
  cooldownSeconds : Int := 60

inductive IncidentStatus where
  | opened | acknowledged | resolved
  deriving DecidableEq

structure IncidentEvent where
  tenantId : Nat
  projectId : Option Nat
  signal : String
  severity : String := "warning"
  status : IncidentStatus := .opened
  sourceRef : String
  value : Value
  ruleId : Nat
  payload : PyDict
  acknowledgedBy : Option String := none
  resolvedBy : Option String := none
  createdAt : Time
  updatedAt : Option Time := none

/-- The arguments of `evaluate_signal`. -/
structure Signal where
  tenantId : Nat
  projectId : Option Nat
  signal : String
  value : Value
  sourceRef : String
  payload : Option PyDict := none

inductive NotificationError where
  | configuration (message : String)
  | keyError (incidentId : Nat)

structure NotificationService where
  channels : Dict Nat NotificationChannel := .empty
  rules : Dict Nat (AlertRule Value) := .empty
  incidents : Table (IncidentEvent Value) := {}
  redactionPolicy : PyDict → PyDict := id
  lastDeliveryAt : Dict Nat Time := .empty

/-- What a call returns or raises; a registration returns nothing new. -/
abbrev Reply : Type :=
  Except NotificationError (Option (Nat × IncidentEvent Value))

/-- The calls; `createdAt` is the second reading of the clock, for the incident. -/
inductive Call where
  | registerChannel (channel : NotificationChannel)
  | registerRule (rule : AlertRule Value)
  | evaluateSignal (signal : Signal Value) (now createdAt : Time)
  | acknowledgeIncident (incidentId : Nat) (actorId : String) (now : Time)
  | resolveIncident (incidentId : Nat) (actorId : String) (now : Time)

end

variable {Value : Type} [LE Value] [DecidableLE Value]

def AlertRule.firesOn (rule : AlertRule Value) (signal : Signal Value) : Bool :=
  rule.tenantId = signal.tenantId ∧ rule.projectId = signal.projectId ∧
    rule.signal = signal.signal ∧ rule.status = "active" ∧ signal.value ≥ rule.threshold

omit [LE Value] [DecidableLE Value] in
/-- The test of `_find_open_duplicate`. -/
def IncidentEvent.isOpenDuplicate (incident : IncidentEvent Value) (rule : AlertRule Value)
    (sourceRef : String) (now : Time) : Bool :=
  incident.tenantId = rule.tenantId ∧ incident.projectId = rule.projectId ∧
    incident.signal = rule.signal ∧ incident.sourceRef = sourceRef ∧
    (incident.status = .opened ∨ incident.status = .acknowledged) ∧
    incident.createdAt ≥ now - 1000000 * rule.dedupeWindowSeconds

namespace NotificationService

variable (s : NotificationService Value)

section

variable (rule : AlertRule Value) (signal : Signal Value) (now createdAt : Time)

def validateRuleChannel : Except NotificationError Unit :=
  match s.channels.get? rule.channelId with
  | none => .error (.configuration "notification_channel_not_found")
  | some channel =>
    if channel.tenantId ≠ rule.tenantId ∨ channel.projectId ≠ rule.projectId then
      .error (.configuration "notification_channel_scope_mismatch")
    else if channel.status ≠ "active" then
      .error (.configuration "notification_channel_inactive")
    else .ok ()

/-- The rule at which the loop of `evaluate_signal` ends: all ways through its body leave it. -/
def firingRule : Option (AlertRule Value) :=
  s.rules.values.find? (·.firesOn signal)

def findOpenDuplicate (sourceRef : String) (now : Time) : Option (Nat × IncidentEvent Value) :=
  s.incidents.entries.reverse.find? fun incident => incident.2.isOpenDuplicate rule sourceRef now

def isInCooldown : Bool :=
  match s.lastDeliveryAt.get? rule.id with
  | none => false
  | some lastDeliveryAt => now - lastDeliveryAt < 1000000 * rule.cooldownSeconds

/-- The end of the loop's body. -/
def openIncident : NotificationService Value :=
  { s with
    incidents := s.incidents.insert
      { tenantId := signal.tenantId, projectId := signal.projectId, signal := signal.signal,
        sourceRef := signal.sourceRef, value := signal.value, ruleId := rule.id,
        payload := s.redactionPolicy (signal.payload.getD []), createdAt := createdAt }
    lastDeliveryAt := s.lastDeliveryAt.set rule.id now }

end

def evaluateSignal (signal : Signal Value) (now createdAt : Time) :
    Reply Value × NotificationService Value :=
  match s.firingRule signal with
  | none => (.ok none, s)
  | some rule =>
    match s.validateRuleChannel rule with
    | .error error => (.error error, s)
    | .ok () =>
      match s.findOpenDuplicate rule signal.sourceRef now with
      | some deduped => (.ok (some deduped), s)
      | none =>
        if s.isInCooldown rule now then (.ok none, s)
        else
          let s' := s.openIncident rule signal now createdAt
          (.ok ((s'.incidents.get? s.incidents.nextId).map (s.incidents.nextId, ·)), s')

section

variable (incidentId : Nat) (actorId : String) (now : Time)

/-- `_get_incident`, and `_replace_incident` with the changes of the caller. -/
def changeIncident (changes : IncidentEvent Value → IncidentEvent Value) :
    Reply Value × NotificationService Value :=
  match s.incidents.get? incidentId with
  | none => (.error (.keyError incidentId), s)
  | some incident =>
    (.ok (some (incidentId, changes incident)),
      { s with incidents := s.incidents.modify incidentId changes })

def acknowledgeIncident : Reply Value × NotificationService Value :=
  s.changeIncident incidentId fun incident =>
    { incident with
      status := .acknowledged, acknowledgedBy := some actorId, updatedAt := some now }

def resolveIncident : Reply Value × NotificationService Value :=
  s.changeIncident incidentId fun incident =>
    { incident with status := .resolved, resolvedBy := some actorId, updatedAt := some now }

end

def exec : Call Value → Reply Value × NotificationService Value
  | .registerChannel channel =>
    (.ok none, { s with channels := s.channels.set channel.id channel })
  | .registerRule rule =>
    match s.validateRuleChannel rule with
    | .error error => (.error error, s)
    | .ok () => (.ok none, { s with rules := s.rules.set rule.id rule })
  | .evaluateSignal signal now createdAt => s.evaluateSignal signal now createdAt
  | .acknowledgeIncident incidentId actorId now => s.acknowledgeIncident incidentId actorId now
  | .resolveIncident incidentId actorId now => s.resolveIncident incidentId actorId now

/-! ## What a call does to the incidents -/

/-- The incident with an id is resolved. -/
def IsResolved (incidentId : Nat) : Prop :=
  ∃ incident, s.incidents.get? incidentId = some incident ∧ incident.status = .resolved

/-- No incident like the signal is open that was created within the window of the rule. -/
def NoneOpen (rule : AlertRule Value) (signal : Signal Value) (now : Time) : Prop :=
  ∀ id incident, s.incidents.get? id = some incident →
    incident.tenantId = signal.tenantId → incident.projectId = signal.projectId →
    incident.signal = signal.signal → incident.sourceRef = signal.sourceRef →
    incident.createdAt ≥ now - 1000000 * rule.dedupeWindowSeconds → incident.status = .resolved

variable {s} {rule : AlertRule Value} {signal : Signal Value} {now createdAt : Time}

theorem noneOpen_of_findOpenDuplicate (hrule : s.firingRule signal = some rule)
    (h : s.findOpenDuplicate rule signal.sourceRef now = none) : s.NoneOpen rule signal now := by
  intro id incident hget htenant hproject hsignal hsource hcreated
  have hfires := List.find?_some hrule
  simp only [AlertRule.firesOn, decide_eq_true_eq] at hfires
  have hmem : (id, incident) ∈ s.incidents.entries.reverse :=
    List.mem_reverse.mpr (Table.mem_entries.mpr hget)
  have hnot := List.find?_eq_none.mp h _ hmem
  simp only [IncidentEvent.isOpenDuplicate, hfires.1, hfires.2.1, hfires.2.2.1, htenant, hproject,
    hsignal, hsource, hcreated, true_and, and_true] at hnot
  cases hstatus : incident.status with
  | resolved => rfl
  | opened | acknowledged => simp [hstatus] at hnot

/-- A signal opens an incident for the firing rule, or changes nothing. -/
theorem evaluateSignal_cases (signal : Signal Value) (now createdAt : Time) :
    (s.evaluateSignal signal now createdAt).2 = s ∨
      ∃ rule, s.firingRule signal = some rule ∧ s.NoneOpen rule signal now ∧
        (s.evaluateSignal signal now createdAt).2 = s.openIncident rule signal now createdAt := by
  unfold evaluateSignal
  split
  · exact .inl rfl
  · next rule hrule =>
    split
    · exact .inl rfl
    · split
      · exact .inl rfl
      · next hdeduped =>
        split
        · exact .inl rfl
        · exact .inr ⟨rule, hrule, noneOpen_of_findOpenDuplicate hrule hdeduped, rfl⟩

omit [LE Value] [DecidableLE Value] in
theorem get?_changeIncident (incidentId : Nat)
    (changes : IncidentEvent Value → IncidentEvent Value) (id : Nat) :
    (s.changeIncident incidentId changes).2.incidents.get? id =
      if id = incidentId then (s.incidents.get? id).map changes else s.incidents.get? id := by
  unfold changeIncident
  split
  · next hnone =>
    split
    · next heq => rw [heq, hnone, Option.map_none]
    · rfl
  · exact Table.get?_modify _ _ _ _

/-- A call other than an acknowledgement keeps a resolved incident resolved. -/
theorem IsResolved.exec {call : Call Value} {id : Nat} (h : s.IsResolved id)
    (hcall : ∀ actorId now, call ≠ .acknowledgeIncident id actorId now) :
    (s.exec call).2.IsResolved id := by
  obtain ⟨incident, hget, hstatus⟩ := h
  cases call with
  | registerChannel channel => exact ⟨incident, hget, hstatus⟩
  | registerRule rule =>
    unfold NotificationService.exec
    dsimp only
    split
    · exact ⟨incident, hget, hstatus⟩
    · exact ⟨incident, hget, hstatus⟩
  | evaluateSignal signal now createdAt =>
    refine ⟨incident, ?_, hstatus⟩
    show (s.evaluateSignal signal now createdAt).2.incidents.get? id = some incident
    obtain hsame | ⟨rule, _, _, hopen⟩ := s.evaluateSignal_cases signal now createdAt
    · rw [hsame, hget]
    · rw [hopen]
      exact Table.get?_insert_of_some hget _
  | acknowledgeIncident incidentId actorId now =>
    have hne : id ≠ incidentId := by
      rintro rfl
      exact hcall actorId now rfl
    refine ⟨incident, ?_, hstatus⟩
    exact (get?_changeIncident incidentId _ id).trans (by rw [if_neg hne, hget])
  | resolveIncident incidentId actorId now =>
    have hafter : (s.exec (.resolveIncident incidentId actorId now)).2.incidents.get? id = _ :=
      get?_changeIncident incidentId _ id
    rw [hget] at hafter
    by_cases heq : id = incidentId
    · rw [if_pos heq] at hafter
      exact ⟨_, hafter, rfl⟩
    · rw [if_neg heq] at hafter
      exact ⟨incident, hafter, hstatus⟩

/-! ## Runs -/

/-- One call moves incidents forward only: what is resolved stays so, and a signal that opens an
incident finds none open. -/
def MovesForward (e : Entry (NotificationService Value) (Call Value) (Reply Value)) : Prop :=
  (∀ id, e.before.IsResolved id → e.after.IsResolved id) ∧
    ∀ signal now createdAt rule, e.call = .evaluateSignal signal now createdAt →
      (e.after.incidents.get? e.before.incidents.nextId).isSome →
      e.before.firingRule signal = some rule → e.before.NoneOpen rule signal now

/-- The call does not acknowledge a resolved incident. -/
def LeavesResolved (s : NotificationService Value) (call : Call Value) : Prop :=
  ∀ incidentId actorId now, call = .acknowledgeIncident incidentId actorId now →
    ¬ s.IsResolved incidentId

/-- In every run, from any service and at any times, incidents move forward only if and only if
no call acknowledges an incident that is resolved. -/
theorem incidents_move_forward_iff (s : NotificationService Value) (calls : List (Call Value)) :
    (∀ e ∈ trace exec s calls, MovesForward e) ↔
      ∀ e ∈ trace exec s calls, LeavesResolved e.before e.call := by
  refine forall_mem_trace_iff exec (I := fun _ => True) (fun s call _ => ⟨?_, fun _ => trivial⟩)
    calls s trivial
  constructor
  · rintro ⟨hkeep, _⟩ incidentId actorId now rfl hresolved
    obtain ⟨incident, hafter, hstatus⟩ := hkeep incidentId hresolved
    have hget : (s.exec (.acknowledgeIncident incidentId actorId now)).2.incidents.get? incidentId
        = _ := get?_changeIncident incidentId _ incidentId
    obtain ⟨old, hold, _⟩ := hresolved
    rw [if_pos rfl, hold] at hget
    cases hget.symm.trans hafter
    cases hstatus
  · intro hadm
    refine ⟨fun id hresolved => hresolved.exec ?_, ?_⟩
    · rintro actorId now rfl
      exact hadm id actorId now rfl hresolved
    · rintro signal now createdAt rule hcall hopens hrule
      cases hcall
      obtain hsame | ⟨fired, hfired, hnone, _⟩ := s.evaluateSignal_cases signal now createdAt
      · have hnew : ((s.evaluateSignal signal now createdAt).2.incidents.get?
            s.incidents.nextId).isSome := hopens
        rw [hsame, Table.get?_nextId] at hnew
        cases hnew
      · cases hrule.symm.trans hfired
        exact hnone

/-- One rule, one signal; its incident is resolved, and then acknowledged. -/
theorem acknowledgement_reopens_incident :
    let calls : List (Call Nat) :=
      [.registerChannel { id := 1, tenantId := 1, projectId := none },
        .registerRule { id := 1, tenantId := 1, projectId := none, signal := "errors",
                        threshold := 5, channelId := 1 },
        .evaluateSignal { tenantId := 1, projectId := none, signal := "errors", value := 7,
                          sourceRef := "agent" } 0 1,
        .resolveIncident 1 "operator" 2, .acknowledgeIncident 1 "operator" 3]
    ((Foundation.final exec {} (calls.take 4)).incidents.get? 1).map (·.status) = some .resolved ∧
      ((Foundation.final exec {} calls).incidents.get? 1).map (·.status) = some .acknowledged :=
  ⟨rfl, rfl⟩

/-! ## Rules that mask others -/

/-- The rule fires on the signal, with a channel that can be used, out of its cooldown, and finds
no duplicate. -/
structure Ready (s : NotificationService Value) (signal : Signal Value) (now : Time)
    (rule : AlertRule Value) : Prop where
  registered : rule ∈ s.rules.values
  fires : rule.firesOn signal = true
  channel : s.validateRuleChannel rule = .ok ()
  cooled : s.isInCooldown rule now = false
  single : s.findOpenDuplicate rule signal.sourceRef now = none

/-- A signal on which a rule is ready leads to an incident if and only if the first rule that fires
on it has a channel that can be used and, if it is in its cooldown, finds a duplicate. -/
theorem no_alert_masked_iff (s : NotificationService Value) (signal : Signal Value)
    (now createdAt : Time) :
    ((∃ rule, s.Ready signal now rule) →
      ∃ incident, (s.evaluateSignal signal now createdAt).1 = .ok (some incident)) ↔
    ((∃ rule, s.Ready signal now rule) →
      ∀ rule, s.rules.values.find? (·.firesOn signal) = some rule →
        s.validateRuleChannel rule = .ok () ∧ (s.isInCooldown rule now = true →
            (s.findOpenDuplicate rule signal.sourceRef now).isSome)) := by
  refine imp_congr_right fun ⟨ready, hready⟩ => ?_
  cases hfirst : s.rules.values.find? (·.firesOn signal) with
  | none => exact absurd hready.fires (List.find?_eq_none.mp hfirst ready hready.registered)
  | some first =>
    simp only [evaluateSignal, firingRule, hfirst, Option.some.injEq, forall_eq']
    cases hchannel : s.validateRuleChannel first with
    | error e => simp
    | ok u =>
      cases hduplicate : s.findOpenDuplicate first signal.sourceRef now with
      | some incident => simp
      | none =>
        cases hcooldown : s.isInCooldown first now with
        | true => simp
        | false => simp [openIncident, Table.get?_insert]

/-- Two rules on one signal, and two sources; the incident of the first source is also the
delivery of the first rule, which then is in its cooldown. -/
theorem cooldown_masks_alert :
    let rule : Nat → AlertRule Nat := fun id =>
      { id, tenantId := 1, projectId := none, signal := "errors", threshold := 5, channelId := 1 }
    let signal : String → Signal Nat := fun sourceRef =>
      { tenantId := 1, projectId := none, signal := "errors", value := 7, sourceRef }
    let s := Foundation.final exec {}
      [.registerChannel { id := 1, tenantId := 1, projectId := none }, .registerRule (rule 1),
        .registerRule (rule 2), .evaluateSignal (signal "agent") 0 1]
    (∃ rule, s.Ready (signal "tool") 2 rule) ∧
      (s.evaluateSignal (signal "tool") 2 3).1 = .ok none := by
  intro rule signal s
  exact ⟨⟨rule 2, List.mem_cons_of_mem _ List.mem_cons_self, rfl, rfl, rfl, rfl⟩, rfl⟩

end NotificationService

end DimooRun.Notifications
