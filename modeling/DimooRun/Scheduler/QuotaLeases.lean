/-
  Scheduler/QuotaLeases.lean --- quotas under concurrent leases.

  A lease counts the rows that its session sees and claims a candidate later. A claim of
  another session that is not committed is not counted, and the claim itself looks at its
  own row only. So the quotas hold as long as the leases of a limited scope do not
  overlap between the count and the commit, and not beyond.
-/
import Mathlib.Data.Finset.Card
import DimooRun.Scheduler.SqlSessions

set_option autoImplicit false

namespace DimooRun.Scheduler

open Foundation DimooRun.Runtime
open Domain (Run)
open QuotaScope Transactions

/-! ## The tasks of a scope -/

namespace QuotaScope

/-- The tasks of the scope that are leased or running. -/
def members (runs : Dict Int Run) (rows : Dict Int TaskRow) (scope : QuotaScope) : Finset Int :=
  ((rows.entries.filter fun e => scope.Covers runs e.2 ∧ TaskRow.Counted e.2).map Prod.fst).toFinset

variable {rows rows' : Dict Int TaskRow} {scope : QuotaScope} {runs : Dict Int Run}

theorem mem_members {id : Int} : id ∈ scope.members runs rows ↔
      ∃ row, rows.get? id = some row ∧ scope.Covers runs row ∧ row.Counted := by
  simp only [members, List.mem_toFinset, List.mem_map, List.mem_filter, decide_eq_true_eq,
    Dict.get?_eq_some_iff]
  constructor
  · rintro ⟨⟨id', row⟩, ⟨hmem, hcounted⟩, rfl⟩
    exact ⟨row, hmem, hcounted⟩
  · rintro ⟨row, hmem, hcounted⟩
    exact ⟨(id, row), ⟨hmem, hcounted⟩, rfl⟩

theorem load_eq_card (runs : Dict Int Run) (rows : Dict Int TaskRow) (scope : QuotaScope) :
    scope.load runs rows = (scope.members runs rows).card := by
  have hnodup : ((rows.entries.filter fun e =>
      scope.Covers runs e.2 ∧ TaskRow.Counted e.2).map Prod.fst).Nodup :=
    rows.nodup.sublist (List.filter_sublist.map _)
  unfold load members
  rw [List.toFinset_card_of_nodup hnodup, List.length_map, Dict.values, List.filter_map,
    List.length_map]
  rfl

/-- Versions of one task are in the same scopes. -/
theorem covers_congr {row row' : TaskRow} (h : row.SameTask row')
    (scope : QuotaScope) : scope.Covers runs row' ↔ scope.Covers runs row := by
  cases scope <;> simp [Covers, h.tenantId, h.projectId, h.runId]

/-- If every counted task of one table is counted in the other, the load is no higher. -/
theorem load_mono (h : ∀ id ∈ scope.members runs rows, id ∈ scope.members runs rows') :
    scope.load runs rows ≤ scope.load runs rows' := by
  rw [load_eq_card, load_eq_card]
  exact Finset.card_le_card h

/-- One more task raises the load by one at most. -/
theorem load_le_succ {taskId : Int}
    (h : ∀ id ∈ scope.members runs rows, id = taskId ∨ id ∈ scope.members runs rows') :
    scope.load runs rows ≤ scope.load runs rows' + 1 := by
  rw [load_eq_card, load_eq_card]
  have hsub : scope.members runs rows ⊆ insert taskId (scope.members runs rows') := by
    intro id hid
    exact Finset.mem_insert.mpr (h id hid)
  exact (Finset.card_le_card hsub).trans (Finset.card_insert_le _ _)

end QuotaScope

/-! ## Versions of a task -/

namespace SqlTasks

/-- The row is a version of the one that the table has under the id. -/
def Version (table : Dict Int TaskRow) (id : Int) (row : TaskRow) : Prop :=
  ∃ base, table.get? id = some base ∧ base.SameTask row

/-- The rows of the table are there, and every version, stored or loaded, is one of them. -/
structure Fixed (table : Dict Int TaskRow) (tasks : SqlTasks) : Prop where
  present : ∀ id base, table.get? id = some base → ∃ row, tasks.rows.committed.get? id = some row
  versions : ∀ id row, tasks.rows.Stored id row → Version table id row
  loaded : ∀ s id row, (tasks.session s).loaded.get? id = some row → Version table id row

namespace Fixed

variable {table : Dict Int TaskRow} {tasks : SqlTasks}

theorem init (table : Dict Int TaskRow) : Fixed table (ofTable table) where
  present _ base hbase := ⟨base, hbase⟩
  versions id row hrow := by
    rcases hrow with hcommitted | ⟨s, hwrite⟩
    · exact ⟨row, hcommitted, .refl row⟩
    · simp [ofTable] at hwrite
  loaded _ _ _ hrow := by simp [ofTable, session] at hrow

variable {s : Nat} {id taskId : Int} {row : TaskRow}

section

variable (h : Fixed table tasks)
include h

theorem stored (hrow : tasks.stored s id = some row) : Version table id row :=
  h.versions id row (stored_of_visible hrow)

/-- Every session sees a version of every row. -/
theorem seen (s : Nat) {base : TaskRow} (hbase : table.get? id = some base) :
    ∃ row, tasks.stored s id = some row := by
  obtain ⟨row, hrow⟩ := h.present id base hbase
  rw [SqlTasks.stored, get?_visible, hrow]
  cases (tasks.rows.writes s).get? id with
  | none => exact ⟨row, rfl⟩
  | some own => exact ⟨own, rfl⟩

/-- A new version of a row. -/
theorem writes {tasks' : SqlTasks} {row' : TaskRow} {change : RowChange}
    (hstored : tasks.stored s taskId = some row) (hsame : row.SameTask row')
    (hwrites : tasks.Writes tasks' s taskId row' change)
    (hloaded : ∀ s id row, (tasks'.session s).loaded.get? id = some row → Version table id row) :
    Fixed table tasks' where
  present := by simpa [hwrites.rows] using h.present
  versions id found hfound := by
    rw [hwrites.rows] at hfound
    rcases Stored.of_write _ hfound with hold | ⟨rfl, rfl⟩
    · exact h.versions id found hold
    · obtain ⟨base, hbase, hsameBase⟩ := h.stored hstored
      exact ⟨base, hbase, hsameBase.trans hsame⟩
  loaded := hloaded

/-- Every step keeps it. -/
theorem exec (quota : Option RuntimeQuota) (runs : Dict Int Run) (step : Step) :
    Fixed table (tasks.exec quota runs step).2 := by
  have hrecalls := recalls_exec quota runs tasks step
  have htransition := transition_exec quota runs tasks step
  generalize tasks.exec quota runs step = result at hrecalls htransition
  have hloaded : ∀ s id row, (result.2.session s).loaded.get? id = some row →
      Version table id row := by
    intro s id row hrow
    obtain ⟨old, hold, hsame⟩ := (hrecalls s).loaded id row hrow
    obtain ⟨base, hbase, hsameBase⟩ := hold.elim (h.loaded s id old) h.stored
    exact ⟨base, hbase, hsameBase.trans hsame⟩
  cases htransition with
  | quiet _ hrows =>
    exact ⟨by simpa only [hrows] using h.present, by simpa only [hrows] using h.versions, hloaded⟩
  | approve => exact ⟨h.present, h.versions, hloaded⟩
  | flush _ hstored hsame _ _ _ hwrites => exact h.writes hstored hsame hwrites hloaded
  | claim hstored _ _ hwrites =>
    exact h.writes hstored (TaskRow.sameTask_claimed _ _ _ _) hwrites hloaded
  | commit =>
    exact ⟨fun id base hbase => h.seen _ hbase,
      fun id row hrow => h.versions id row hrow.of_commit, hloaded⟩
  | rollback =>
    exact ⟨h.present, fun id row hrow => h.versions id row hrow.of_rollback, hloaded⟩

end

end Fixed

/-- After a write, the counted tasks that a session sees: those it saw, and the row if it
was written by the session and counts. -/
theorem mem_members_writes {runs : Dict Int Run} {tasks tasks' : SqlTasks} {s s' : Nat}
    {taskId id : Int} {row row' : TaskRow} {change : RowChange} {scope : QuotaScope}
    (hsame : row.SameTask row') (hwrites : tasks.Writes tasks' s taskId row' change)
    (hmem : id ∈ scope.members runs (tasks'.rows.visible s')) :
    (s' = s ∧ id = taskId ∧ row'.Counted ∧ scope.Covers runs row) ∨
      id ∈ scope.members runs (tasks.rows.visible s') := by
  obtain ⟨found, hfound, hcovers, hcounted⟩ := mem_members.mp hmem
  rw [hwrites.rows, get?_visible_write] at hfound
  split at hfound
  · rename_i hboth
    cases hfound
    exact .inl ⟨hboth.1, hboth.2, hcounted, (covers_congr hsame scope).mp hcovers⟩
  · exact .inr (mem_members.mpr ⟨found, hfound, hcovers, hcounted⟩)

/-! ## Leases that do not overlap -/

section

/-- The session is between the count of a lease of the task and the end of its
transaction. -/
def InFlight (tasks : SqlTasks) (s : Nat) (taskId : Int) : Prop :=
  (tasks.session s).verdict = some (taskId, none) ∨
    ∃ w k, RowChange.claim taskId w k ∈ (tasks.session s).journal

variable (quota : RuntimeQuota) (runs : Dict Int Run)

/-- The tasks have a limited scope in common. -/
def Contend (row row' : TaskRow) : Prop :=
  ∃ (scope : QuotaScope) (l : Int), scope.limit quota = some l ∧ scope.Covers runs row ∧
    scope.Covers runs row'

/-- A lease counts only while no other session is in the middle of a lease that contends
with it. -/
def Alone (tasks : SqlTasks) : Step → Prop
  | .count s taskId =>
      ∀ s' taskId' row row', s' ≠ s → tasks.InFlight s' taskId' →
        tasks.stored s taskId = some row → tasks.stored s' taskId' = some row' →
          ¬ Contend quota runs row row'
  | step => step.OfLease

/-- No step raises the load of a limited scope above the limit. -/
def Kept (rows rows' : Dict Int TaskRow) : Prop :=
  ∀ (scope : QuotaScope) (l : Int), scope.limit quota = some l →
    (scope.load runs rows' : Int) ≤ l ∨ scope.load runs rows' ≤ scope.load runs rows

variable (table : Dict Int TaskRow)

section

variable (tasks : SqlTasks) (s : Nat) (scope : QuotaScope)

/-- The scope covers the task, in all its versions. -/
def InScope (taskId : Int) : Prop :=
  ∃ base, table.get? taskId = some base ∧ scope.Covers runs base

/-- The session has let a candidate of the scope through. -/
def Approved : Prop :=
  ∃ taskId, (tasks.session s).verdict = some (taskId, none) ∧ InScope runs table scope taskId

/-- The session has claimed a task of the scope. -/
def Claimed : Prop :=
  ∃ taskId w k, RowChange.claim taskId w k ∈ (tasks.session s).journal ∧
    InScope runs table scope taskId

/-- The session is in the middle of a lease in the scope. -/
def Leasing : Prop :=
  Approved runs table tasks s scope ∨ Claimed runs table tasks s scope

end

/-- A version that counts where the committed row does not is a claim. -/
def CountedByClaim (tasks : SqlTasks) : Prop :=
  ∀ s taskId row, (tasks.rows.writes s).get? taskId = some row → row.Counted →
    (∃ row', tasks.rows.committed.get? taskId = some row' ∧ row'.Counted) ∨
      ∃ w k, RowChange.claim taskId w k ∈ (tasks.session s).journal

/-- What holds between the steps of leases that do not overlap. -/
structure WithinQuota (tasks : SqlTasks) : Prop where
  fixed : Fixed table tasks
  /-- a candidate that was let through still has room -/
  approved : ∀ s (scope : QuotaScope) (l : Int), scope.limit quota = some l →
    Approved runs table tasks s scope → (scope.load runs (tasks.rows.visible s) : Int) < l
  /-- a claim is counted by its own session -/
  claimed : ∀ s (scope : QuotaScope) (l : Int), scope.limit quota = some l →
    Claimed runs table tasks s scope → (scope.load runs (tasks.rows.visible s) : Int) ≤ l
  /-- two sessions do not lease in one scope -/
  apart : ∀ s s' (scope : QuotaScope) (l : Int), scope.limit quota = some l →
    Leasing runs table tasks s scope → Leasing runs table tasks s' scope → s = s'
  claims : CountedByClaim tasks

theorem withinQuota_init : WithinQuota quota runs table (ofTable table) where
  fixed := .init table
  approved s scope l _ h := by simp [Approved, ofTable, session] at h
  claimed s scope l _ h := by simp [Claimed, ofTable, session] at h
  apart s s' scope l _ h := by simp [Leasing, Approved, Claimed, ofTable, session] at h
  claims s taskId row hrow := by simp [ofTable] at hrow

namespace WithinQuota

variable {quota runs table} {tasks tasks' : SqlTasks}
  {s : Nat} {taskId : Int} {row row' : TaskRow} {step : Step} {scope : QuotaScope}

theorem inScope_iff (h : Version table taskId row) :
    InScope runs table scope taskId ↔ scope.Covers runs row := by
  obtain ⟨base, hbase, hsame⟩ := h
  simp [InScope, hbase, covers_congr hsame]

section

variable (h : WithinQuota quota runs table tasks)
include h

/-- Steps that let no candidate through, claim nothing and raise the load of no lease in flight. -/
theorem onward (hfixed : Fixed table tasks')
    (happroved : ∀ s scope, Approved runs table tasks' s scope → Approved runs table tasks s scope)
    (hclaimed : ∀ s scope, Claimed runs table tasks' s scope → Claimed runs table tasks s scope)
    (hload : ∀ s (scope : QuotaScope) (l : Int), scope.limit quota = some l →
      Leasing runs table tasks' s scope →
        scope.load runs (tasks'.rows.visible s) ≤ scope.load runs (tasks.rows.visible s))
    (hclaims : CountedByClaim tasks') : WithinQuota quota runs table tasks' where
  fixed := hfixed
  approved s scope l hlimit happ := by
    have hroom := h.approved s scope l hlimit (happroved s scope happ)
    have hle := hload s scope l hlimit (.inl happ)
    omega
  claimed s scope l hlimit hclaim := by
    have hroom := h.claimed s scope l hlimit (hclaimed s scope hclaim)
    have hle := hload s scope l hlimit (.inr hclaim)
    omega
  apart s s' scope l hlimit h₁ h₂ :=
    h.apart s s' scope l hlimit (h₁.imp (happroved s scope) (hclaimed s scope))
      (h₂.imp (happroved s' scope) (hclaimed s' scope))
  claims := hclaims

/-- Steps that write no rows, and let no candidate through. -/
theorem quiet (hfixed : Fixed table tasks') (hrows : tasks'.rows = tasks.rows)
    (hjournal : ∀ s, (tasks'.session s).journal = (tasks.session s).journal)
    (hverdict : ∀ s taskId, (tasks'.session s).verdict = some (taskId, none) →
      (tasks.session s).verdict = some (taskId, none)) : WithinQuota quota runs table tasks' := by
  refine h.onward hfixed (fun s scope ⟨id, hv, hin⟩ => ⟨id, hverdict s id hv, hin⟩) ?_ ?_ ?_
  · simp only [Claimed, hjournal, imp_self, implies_true]
  · simp only [hrows, le_refl, implies_true]
  · simpa only [CountedByClaim, hrows, hjournal] using h.claims

/-- No other session has a lease in a limited scope of a candidate that is alone. -/
theorem eq_of_alone (halone : Alone quota runs tasks (.count s taskId)) {s' : Nat} {l : Int}
    (hlimit : scope.limit quota = some l) (hin : InScope runs table scope taskId)
    (hbusy : Leasing runs table tasks s' scope) : s' = s := by
  by_contra hne
  obtain ⟨taskId', hflight, base', hbase', hcovers'⟩ :
      ∃ taskId', tasks.InFlight s' taskId' ∧ InScope runs table scope taskId' := by
    rcases hbusy with ⟨id, hv, hid⟩ | ⟨id, w, k, hmem, hid⟩
    · exact ⟨id, .inl hv, hid⟩
    · exact ⟨id, .inr ⟨w, k, hmem⟩, hid⟩
  obtain ⟨base, hbase, hcovers⟩ := hin
  obtain ⟨row, hrow⟩ := h.fixed.seen s hbase
  obtain ⟨row', hrow'⟩ := h.fixed.seen s' hbase'
  exact halone s' taskId' row row' hne hflight hrow hrow' ⟨scope, l, hlimit,
    (inScope_iff (h.fixed.stored hrow)).mp ⟨base, hbase, hcovers⟩,
    (inScope_iff (h.fixed.stored hrow')).mp ⟨base', hbase', hcovers'⟩⟩

/-- A candidate is let through. -/
theorem approve {candidate : TaskRow} (hfixed : Fixed table
      (tasks.updateSession s fun session => { session with verdict := some (taskId, none) }))
    (hloaded : (tasks.session s).loaded.get? taskId = some candidate)
    (hroom : QuotaScope.Room quota runs (tasks.rows.visible s) candidate)
    (halone : Alone quota runs tasks (.count s taskId)) :
    WithinQuota quota runs table
      (tasks.updateSession s fun session => { session with verdict := some (taskId, none) }) := by
  generalize hafter : tasks.updateSession s
    (fun session => { session with verdict := some (taskId, none) }) = tasks' at hfixed ⊢
  have hrows : tasks'.rows = tasks.rows := by rw [← hafter, rows_updateSession]
  have hjournal : ∀ s', (tasks'.session s').journal = (tasks.session s').journal := by
    simp [← hafter]
  have happroved : ∀ {s' scope}, Approved runs table tasks' s' scope →
      (s' = s ∧ InScope runs table scope taskId) ∨ Approved runs table tasks s' scope := by
    rintro s' scope ⟨id, hv, hin⟩
    rw [← hafter, session_updateSession] at hv
    split at hv
    · rename_i hs
      cases hv
      exact .inl ⟨hs, hin⟩
    · exact .inr ⟨id, hv, hin⟩
  have hbusy : ∀ {s' scope}, Leasing runs table tasks' s' scope →
      (s' = s ∧ InScope runs table scope taskId) ∨ Leasing runs table tasks s' scope := by
    rintro s' scope (happ | hclaim)
    · exact (happroved happ).imp_right .inl
    · simp only [Claimed, hjournal] at hclaim
      exact .inr (.inr hclaim)
  refine ⟨hfixed, ?_, ?_, ?_, ?_⟩
  · intro s' scope l hlimit happ
    rw [hrows]
    rcases happroved happ with ⟨rfl, hin⟩ | hold
    · exact hroom scope l ((inScope_iff (h.fixed.loaded s' taskId candidate hloaded)).mp hin) hlimit
    · exact h.approved s' scope l hlimit hold
  · simpa only [Claimed, hrows, hjournal] using h.claimed
  · intro s₁ s₂ scope l hlimit h₁ h₂
    rcases hbusy h₁ with ⟨rfl, hin⟩ | hold₁ <;> rcases hbusy h₂ with ⟨rfl, hin⟩ | hold₂
    · rfl
    · exact (h.eq_of_alone halone hlimit hin hold₂).symm
    · exact h.eq_of_alone halone hlimit hin hold₁
    · exact h.apart s₁ s₂ scope l hlimit hold₁ hold₂
  · simpa only [CountedByClaim, hrows, hjournal] using h.claims

/-- A flush of the reaper or of a quota block: no task becomes counted. -/
theorem flush (hfixed : Fixed table tasks') {status : Option TaskStatus}
    (hstored : tasks.stored s taskId = some row) (hsame : row.SameTask row')
    (hcounted : row'.Counted → row.Counted)
    (hwrites : tasks.Writes tasks' s taskId row' (.flush taskId status))
    (hverdict : ∀ s taskId, (tasks'.session s).verdict = some (taskId, none) →
      (tasks.session s).verdict = some (taskId, none)) : WithinQuota quota runs table tasks' := by
  have hclaim : ∀ s' id w k, RowChange.claim id w k ∈ (tasks'.session s').journal ↔
      RowChange.claim id w k ∈ (tasks.session s').journal := by
    intro s' id w k
    rw [hwrites.journal]
    split
    · rename_i hs
      rw [hs]
      simp
    · rfl
  refine h.onward hfixed (fun s scope ⟨id, hv, hin⟩ => ⟨id, hverdict s id hv, hin⟩) ?_ ?_ ?_
  · simp only [Claimed, hclaim, imp_self, implies_true]
  · intro s' scope l _ _
    refine load_mono fun id hid => ?_
    rcases mem_members_writes hsame hwrites hid with ⟨rfl, rfl, hnew, hcovers⟩ | hold
    · exact mem_members.mpr ⟨row, hstored, hcovers, hcounted hnew⟩
    · exact hold
  · intro s' id found hfound hfoundCounted
    simp only [hclaim]
    rw [hwrites.rows, get?_writes_write] at hfound
    rw [hwrites.rows]
    split at hfound
    · rename_i hboth
      obtain ⟨rfl, rfl⟩ := hboth
      cases hfound
      -- the version that the session saw counts, too
      have hrow := hcounted hfoundCounted
      rw [SqlTasks.stored, get?_visible, Option.or_eq_some_iff] at hstored
      obtain hown | ⟨_, hcommitted⟩ := hstored
      · exact h.claims s' id row hown hrow
      · exact .inl ⟨row, hcommitted, hrow⟩
    · exact h.claims s' id found hfound hfoundCounted

/-- The claim of a candidate that was let through. -/
theorem claim (hfixed : Fixed table tasks') {w : String} {k : Int}
    (hstored : tasks.stored s taskId = some row) (hsame : row.SameTask row')
    (happroved : (tasks.session s).verdict = some (taskId, none))
    (hwrites : tasks.Writes tasks' s taskId row' (.claim taskId w k))
    (hverdict : ∀ s', (tasks'.session s').verdict =
      if s' = s then none else (tasks.session s').verdict) :
    WithinQuota quota runs table tasks' := by
  have hout : ∀ {s' scope}, Approved runs table tasks' s' scope →
      s' ≠ s ∧ Approved runs table tasks s' scope := by
    rintro s' scope ⟨id, hv, hin⟩
    rw [hverdict] at hv
    split at hv
    · cases hv
    · rename_i hs
      exact ⟨hs, id, hv, hin⟩
  have hclaimed : ∀ {s' scope}, Claimed runs table tasks' s' scope →
      (s' = s ∧ InScope runs table scope taskId) ∨ Claimed runs table tasks s' scope := by
    rintro s' scope ⟨id, w', k', hmem, hin⟩
    rw [hwrites.journal] at hmem
    split at hmem
    · rename_i hs
      rcases List.mem_append.mp hmem with hold | hnew
      · exact .inr ⟨id, w', k', hs ▸ hold, hin⟩
      · cases List.mem_singleton.mp hnew
        exact .inl ⟨hs, hin⟩
    · exact .inr ⟨id, w', k', hmem, hin⟩
  have hbusy : ∀ {s' scope}, Leasing runs table tasks' s' scope →
      Leasing runs table tasks s' scope := by
    rintro s' scope (happ | hclaim)
    · exact .inl (hout happ).2
    · rcases hclaimed hclaim with ⟨rfl, hin⟩ | hold
      · exact .inl ⟨taskId, happroved, hin⟩
      · exact .inr hold
  -- other sessions see what they saw, and so does this one outside the task's scopes
  have hload : ∀ (s' : Nat) (scope : QuotaScope), (s' = s → ¬ InScope runs table scope taskId) →
      scope.load runs (tasks'.rows.visible s') ≤ scope.load runs (tasks.rows.visible s') := by
    intro s' scope hnot
    refine load_mono fun id hid => ?_
    rcases mem_members_writes hsame hwrites hid with ⟨hs, _, _, hcovers⟩ | hold
    · exact absurd ((inScope_iff (h.fixed.stored hstored)).mpr hcovers) (hnot hs)
    · exact hold
  have hsucc : ∀ scope : QuotaScope,
      scope.load runs (tasks'.rows.visible s) ≤ scope.load runs (tasks.rows.visible s) + 1 := by
    intro scope
    exact load_le_succ fun id hid =>
      (mem_members_writes hsame hwrites hid).imp_left fun hnew => hnew.2.1
  refine ⟨hfixed, ?_, ?_, ?_, ?_⟩
  · intro s' scope l hlimit happ
    obtain ⟨hs, hold⟩ := hout happ
    have hroom := h.approved s' scope l hlimit hold
    have hle := hload s' scope fun heq => absurd heq hs
    omega
  · intro s' scope l hlimit hclaim
    by_cases hin : s' = s ∧ InScope runs table scope taskId
    · obtain ⟨rfl, hin⟩ := hin
      have hroom := h.approved s' scope l hlimit ⟨taskId, happroved, hin⟩
      have hle := hsucc scope
      omega
    · have hroom := h.claimed s' scope l hlimit ((hclaimed hclaim).resolve_left hin)
      have hle := hload s' scope fun hs hscope => hin ⟨hs, hscope⟩
      omega
  · exact fun s₁ s₂ scope l hlimit h₁ h₂ => h.apart s₁ s₂ scope l hlimit (hbusy h₁) (hbusy h₂)
  · intro s' id found hfound hcounted
    rw [hwrites.rows, get?_writes_write] at hfound
    rw [hwrites.rows, hwrites.journal]
    split at hfound
    · rename_i hboth
      rw [if_pos hboth.1, hboth.2]
      exact .inr ⟨w, k, by simp⟩
    · refine (h.claims s' id found hfound hcounted).imp_right ?_
      rintro ⟨w', k', hmem⟩
      refine ⟨w', k', ?_⟩
      split
      · rename_i hs
        exact List.mem_append_left _ (hs ▸ hmem)
      · exact hmem

/-- A task that a session sees as counted counts in the table, or the session claimed it. -/
theorem counted_or_claimed {id : Int} (hmem : id ∈ scope.members runs (tasks.rows.visible s)) :
    id ∈ scope.members runs tasks.rows.committed ∨ Claimed runs table tasks s scope := by
  obtain ⟨row, hrow, hcovers, hcounted⟩ := mem_members.mp hmem
  have hin := (inScope_iff (h.fixed.stored hrow)).mpr hcovers
  rw [get?_visible, Option.or_eq_some_iff] at hrow
  obtain hown | ⟨_, hcommitted⟩ := hrow
  · rcases h.claims s id row hown hcounted with ⟨row', hrow', hcounted'⟩ | ⟨w, k, hclaim⟩
    · have hcovers' := (inScope_iff (h.fixed.versions id row' (.inl hrow'))).mp hin
      exact .inl (mem_members.mpr ⟨row', hrow', hcovers', hcounted'⟩)
    · exact .inr ⟨id, w, k, hclaim, hin⟩
  · exact .inl (mem_members.mpr ⟨row, hcommitted, hcovers, hcounted⟩)

/-- A commit raises no load above its limit: a scope with a claim of the session was within
its limit for the session, and any other scope gains nothing. -/
theorem kept_commit (s : Nat) : Kept quota runs tasks.rows.committed (tasks.rows.visible s) := by
  intro scope l hlimit
  by_cases hclaimed : Claimed runs table tasks s scope
  · exact .inl (h.claimed s scope l hlimit hclaimed)
  · exact .inr (load_mono fun id hid => (h.counted_or_claimed hid).resolve_right hclaimed)

/-- The end of a transaction: what matters are the leases of the other sessions. -/
theorem closed {rows : Transactions Int TaskRow}
    (hfixed : Fixed table ⟨rows, tasks.sessions.erase s⟩)
    (hwrites : ∀ s', rows.writes s' = if s' = s then Dict.empty else tasks.rows.writes s')
    (hload : ∀ s' (scope : QuotaScope) (l : Int), s' ≠ s → scope.limit quota = some l →
      Leasing runs table tasks s' scope →
        scope.load runs (rows.visible s') ≤ scope.load runs (tasks.rows.visible s'))
    (hcommitted : ∀ s' id row, s' ≠ s → (tasks.rows.writes s').get? id = some row →
      rows.committed.get? id = tasks.rows.committed.get? id) :
    WithinQuota quota runs table ⟨rows, tasks.sessions.erase s⟩ := by
  have happroved : ∀ {s' scope}, Approved runs table ⟨rows, tasks.sessions.erase s⟩ s' scope →
      s' ≠ s ∧ Approved runs table tasks s' scope := by
    intro s' scope happ
    rw [Approved, session_erase] at happ
    split at happ
    · simp at happ
    · rename_i hs
      exact ⟨hs, happ⟩
  have hclaimed : ∀ {s' scope}, Claimed runs table ⟨rows, tasks.sessions.erase s⟩ s' scope →
      s' ≠ s ∧ Claimed runs table tasks s' scope := by
    intro s' scope hclaim
    rw [Claimed, session_erase] at hclaim
    split at hclaim
    · simp at hclaim
    · rename_i hs
      exact ⟨hs, hclaim⟩
  refine h.onward hfixed (fun _ _ happ => (happroved happ).2) (fun _ _ hclaim => (hclaimed hclaim).2)
    ?_ ?_
  · rintro s' scope l hlimit (happ | hclaim)
    · exact hload s' scope l (happroved happ).1 hlimit (.inl (happroved happ).2)
    · exact hload s' scope l (hclaimed hclaim).1 hlimit (.inr (hclaimed hclaim).2)
  · intro s' id row hrow hcounted
    simp only [hwrites] at hrow
    split at hrow
    · simp at hrow
    · rename_i hs
      rw [session_erase, if_neg hs, hcommitted s' id row hs hrow]
      exact h.claims s' id row hrow hcounted

theorem commit (s : Nat) (hfixed : Fixed table ⟨tasks.rows.commit s, tasks.sessions.erase s⟩) :
    WithinQuota quota runs table ⟨tasks.rows.commit s, tasks.sessions.erase s⟩ := by
  refine h.closed hfixed (tasks.rows.writes_commit s) ?_ fun s' id row hs hrow =>
    tasks.rows.get?_commit_of_locked hs hrow
  -- the scopes of another session's lease gain nothing by the commit
  intro s' scope l hne hlimit hbusy
  refine load_mono fun id hid => ?_
  obtain ⟨row, hrow, hcovers, hcounted⟩ := mem_members.mp hid
  rw [get?_visible, writes_commit, if_neg hne] at hrow
  cases hown : (tasks.rows.writes s').get? id with
  | some own =>
    rw [hown] at hrow
    refine mem_members.mpr ⟨row, ?_, hcovers, hcounted⟩
    rw [get?_visible, hown]
    exact hrow
  | none =>
    rw [hown] at hrow
    rcases h.counted_or_claimed (mem_members.mpr ⟨row, hrow, hcovers, hcounted⟩) with hold | hclaim
    · obtain ⟨old, hget, hold⟩ := mem_members.mp hold
      refine mem_members.mpr ⟨old, ?_, hold⟩
      rw [get?_visible, hown]
      exact hget
    · exact absurd (h.apart s' s scope l hlimit hbusy (.inr hclaim)) hne

theorem rollback (s : Nat) (hfixed : Fixed table ⟨tasks.rows.rollback s, tasks.sessions.erase s⟩) :
    WithinQuota quota runs table ⟨tasks.rows.rollback s, tasks.sessions.erase s⟩ := by
  refine h.closed hfixed (tasks.rows.writes_rollback s) (fun s' scope l hne _ _ => ?_)
    fun _ _ _ _ _ => rfl
  unfold visible
  rw [writes_rollback, if_neg hne, committed_rollback]

end

theorem ofLease_of_alone (h : Alone quota runs tasks step) : step.OfLease := by
  cases step with
  | count s taskId => trivial
  | _ => exact h

theorem kept_same (rows : Dict Int TaskRow) : Kept quota runs rows rows :=
  fun _ _ _ => .inr (le_refl _)

/-- Every step of a lease that meets no other keeps the quotas. -/
theorem exec (h : WithinQuota quota runs table tasks) (halone : Alone quota runs tasks step) :
    WithinQuota quota runs table (tasks.exec (some quota) runs step).2 ∧
      Kept quota runs tasks.rows.committed
        (tasks.exec (some quota) runs step).2.rows.committed := by
  have hfixed := h.fixed.exec (some quota) runs step
  have htransition := transition_exec (some quota) runs tasks step
  generalize tasks.exec (some quota) runs step = result at htransition hfixed ⊢
  cases htransition with
  | quiet _ hrows hjournal hverdict =>
    refine ⟨h.quiet hfixed hrows hjournal hverdict, ?_⟩
    rw [hrows]
    exact kept_same _
  | approve hquota hloaded hroom =>
    cases hquota
    exact ⟨h.approve hfixed hloaded hroom halone, kept_same _⟩
  | flush status hstored hsame htoken hstatus hlease hwrites hverdict =>
    refine ⟨h.flush hfixed hstored hsame ?_ hwrites hverdict, ?_⟩
    · rintro ⟨hactive, hlive⟩
      refine ⟨?_, hsame.isDeleted ▸ hlive⟩
      rcases hlease (ofLease_of_alone halone) with rfl | rfl | rfl
      · rwa [hstatus] at hactive
      · simp [hstatus] at hactive
      · simp [hstatus] at hactive
    · rw [hwrites.rows]
      exact kept_same _
  | claim hstored hmay hclaimable hwrites hverdict =>
    refine ⟨h.claim hfixed hstored (TaskRow.sameTask_claimed _ _ _ _) (hmay rfl) hwrites hverdict, ?_⟩
    rw [hwrites.rows]
    exact kept_same _
  | commit _ => exact ⟨h.commit _ hfixed, h.kept_commit _⟩
  | rollback => exact ⟨h.rollback _ hfixed, kept_same _⟩

end WithinQuota

/-- In every run of lease calls in which no lease counts while another session is in the
middle of a lease that contends with it, no step raises the number of leased and running
tasks of a limited scope above the limit. -/
theorem quota_kept_by_separate_leases (quota : RuntimeQuota) (runs : Dict Int Run)
    (table : Dict Int TaskRow) (steps : List Step)
    (h : Admitted (SqlTasks.exec (some quota) runs) (Alone quota runs) (ofTable table) steps) :
    ∀ record ∈ trace (SqlTasks.exec (some quota) runs) (ofTable table) steps,
      Kept quota runs record.before.rows.committed record.after.rows.committed := by
  have hstep : ∀ (tasks : SqlTasks) (step : Step), Alone quota runs tasks step →
      WithinQuota quota runs table tasks →
        Kept quota runs tasks.rows.committed (tasks.exec (some quota) runs step).2.rows.committed ∧
        WithinQuota quota runs table (tasks.exec (some quota) runs step).2 :=
    fun tasks step halone hwithin => (hwithin.exec halone).symm
  exact forall_mem_trace (SqlTasks.exec (some quota) runs) hstep steps (ofTable table)
    (withinQuota_init quota runs table) h

/-- A session that is the only one with an open transaction is alone. -/
theorem alone_of_only {tasks : SqlTasks} {s : Nat} {taskId : Int} (quota : RuntimeQuota)
    (runs : Dict Int Run) (h : ∀ s' ∈ tasks.sessions.keys, s' = s) :
    Alone quota runs tasks (.count s taskId) := by
  intro s' taskId' row row' hne hin
  have hnone : tasks.sessions.get? s' = none := by
    rw [Dict.get?_eq_none_iff]
    exact fun hmem => hne (h s' hmem)
  simp [InFlight, session, hnone] at hin

end

/-- One task at a time for a tenant. -/
def oneAtATime : RuntimeQuota := { tenantMaxRunningTasks := some 1 }

/-- Two queued tasks of the tenant. -/
def twoTasks : Dict Int TaskRow :=
  (Dict.empty.set 7 { id := 7, runId := 1, tenantId := 1, projectId := 1, createdAt := 0 }).set 8
    { id := 8, runId := 2, tenantId := 1, projectId := 1, createdAt := 1 }

/-- One lease after the other: the second is blocked. -/
theorem quota_kept_by_separate_leases_blocked :
    let steps : List Step := [.load 1 7, .count 1 7, .claim 1 7 "a" 100 0, .commit 1, .load 2 8,
      .count 2 8, .recordBlock 2 8, .commit 2]
    Admitted (SqlTasks.exec (some oneAtATime) .empty) (Alone oneAtATime .empty) (ofTable twoTasks)
        steps ∧
      ∀ record ∈ trace (SqlTasks.exec (some oneAtATime) .empty) (ofTable twoTasks) steps,
        Kept oneAtATime .empty record.before.rows.committed record.after.rows.committed := by
  intro steps
  have halone : Admitted (SqlTasks.exec (some oneAtATime) .empty) (Alone oneAtATime .empty)
      (ofTable twoTasks) steps :=
    ⟨trivial, alone_of_only _ _ (by decide), trivial, trivial, trivial,
      alone_of_only _ _ (by decide), trivial, trivial, trivial⟩
  exact ⟨halone, quota_kept_by_separate_leases oneAtATime .empty twoTasks _ halone⟩

/-- Both sessions count before either commits, and the tenant has two leased tasks. -/
theorem overlapping_leases_exceed_quota : (tenant 1).limit oneAtATime = some 1 ∧
      (tenant 1).load .empty (ofTable twoTasks).rows.committed = 0 ∧
      (tenant 1).load .empty (final (SqlTasks.exec (some oneAtATime) .empty) (ofTable twoTasks)
          [.load 1 7, .count 1 7, .load 2 8, .count 2 8, .claim 1 7 "a" 100 0, .commit 1,
            .claim 2 8 "b" 100 0, .commit 2]).rows.committed = 2 :=
  ⟨by decide, by decide, by decide⟩

end SqlTasks

end DimooRun.Scheduler
