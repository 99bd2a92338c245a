/-
  Scheduler/Lifecycle.lean --- what a durable backend does to one task.

  The SQLAlchemy and the Redis backend keep a task in a row and in a hash. What
  they do to its scheduling state is the same: one operation of this file per call
  that succeeds. The life of a task is a list of such operations, and the number
  of times it is started is bounded by its attempts.
-/
import DimooRun.Foundation.Trace
import DimooRun.Runtime.StateMachine

set_option autoImplicit false

namespace DimooRun.Scheduler

open Foundation DimooRun.Runtime

/-- A reading of the clock, or a point in time, in microseconds. -/
abbrev Time : Type := Int

/-- `timedelta(seconds=n)`. -/
def seconds (n : Int) : Int := n * 1000000

/-- The scheduling state of a task. -/
structure TaskState where
  status : TaskStatus
  attempt : Int
  maxAttempts : Int
  workerId : Option String
  leasedUntil : Option Time
  fencingToken : Int
  deriving DecidableEq, Repr

/-- What can be done to a task. -/
inductive TaskOp where
  | claim (workerId : String) (leasedUntil : Time)
  | heartbeat (workerId : String) (leasedUntil : Time)
  | markRunning (workerId : String) (fencingToken : Int)
  | complete (workerId : String) (fencingToken : Int)
  | fail (workerId : String) (fencingToken : Int)
  | cancel
  | expire (now : Time)
  deriving DecidableEq, Repr

namespace TaskState

/-- The lease of the task has run out. -/
def Expired (now : Time) (t : TaskState) : Prop :=
  (t.status = .leased ∨ t.status = .running) ∧
    ∃ leasedUntil, t.leasedUntil = some leasedUntil ∧ leasedUntil < now

instance (now : Time) (t : TaskState) : Decidable (t.Expired now) :=
  match h : t.leasedUntil with
  | none => .isFalse (by simp [Expired, h])
  | some leasedUntil =>
      decidable_of_iff ((t.status = .leased ∨ t.status = .running) ∧ leasedUntil < now)
        (by simp [Expired, h])

/-- Worker and token are those of the current lease. -/
def HeldBy (workerId : String) (fencingToken : Int) (t : TaskState) : Prop :=
  t.fencingToken = fencingToken ∧ t.workerId = some workerId

instance (workerId : String) (fencingToken : Int) (t : TaskState) :
    Decidable (t.HeldBy workerId fencingToken) :=
  inferInstanceAs (Decidable (_ ∧ _))

/-- The task is being worked on, or a worker is about to. -/
def Active (t : TaskState) : Prop := t.status = .leased ∨ t.status = .running

instance (t : TaskState) : Decidable t.Active := inferInstanceAs (Decidable (_ ∨ _))

/-- Back to the queue for another attempt. -/
def retried (t : TaskState) : TaskState :=
  { t with
    status := .queued
    attempt := t.attempt + 1
    workerId := none
    leasedUntil := none }

end TaskState

open TaskState in
/-- The effect of an operation, unless it is refused. -/
def TaskOp.apply (t : TaskState) : TaskOp → Option TaskState
  | .claim workerId leasedUntil =>
      if t.status = .queued then
        some
          { t with
            status := .leased
            workerId := some workerId
            leasedUntil := some leasedUntil
            fencingToken := t.fencingToken + 1 }
      else none
  | .heartbeat workerId leasedUntil =>
      if t.workerId = some workerId then some { t with leasedUntil := some leasedUntil }
      else none
  | .markRunning workerId fencingToken =>
      if t.HeldBy workerId fencingToken ∧ t.status = .leased then
        some { t with status := .running }
      else none
  | .complete workerId fencingToken =>
      if t.HeldBy workerId fencingToken ∧ t.Active then
        some { t with status := .succeeded, leasedUntil := none }
      else none
  | .fail workerId fencingToken =>
      if t.HeldBy workerId fencingToken ∧ t.Active then
        if t.attempt + 1 < t.maxAttempts then some t.retried
        else some { t with status := .deadLetter, leasedUntil := none }
      else none
  | .cancel =>
      if t.status = .queued ∨ t.Active then some { t with status := .cancelled } else none
  | .expire now =>
      if t.Expired now then
        if t.status = .running then
          if t.attempt + 1 < t.maxAttempts then some t.retried
          else some { t with status := .deadLetter, workerId := none, leasedUntil := none }
        else some { t with status := .queued, workerId := none, leasedUntil := none }
      else none

/-- The operation puts the task into running. -/
def TaskOp.Starts : TaskOp → Prop
  | .markRunning _ _ => True
  | _ => False

instance : DecidablePred TaskOp.Starts
  | .markRunning _ _ => .isTrue trivial
  | .claim _ _ | .heartbeat _ _ | .complete _ _ | .fail _ _ | .cancel | .expire _ => .isFalse id

/-- Operations that succeed one after the other. -/
inductive TaskState.Lives : TaskState → List TaskOp → TaskState → Prop where
  | nil (t : TaskState) : Lives t [] t
  | cons {t t' t'' : TaskState} {op : TaskOp} {ops : List TaskOp} (h : op.apply t = some t')
      (rest : Lives t' ops t'') : Lives t (op :: ops) t''

namespace TaskState

variable {t t' : TaskState} {op : TaskOp} {ops : List TaskOp} {n : Nat}

theorem Lives.single (h : op.apply t = some t') : Lives t [op] t' := .cons h (.nil t')

theorem Lives.append {t'' : TaskState} {ops' : List TaskOp} (h : Lives t ops t')
    (h' : Lives t' ops' t'') : Lives t (ops ++ ops') t'' := by
  induction h with
  | nil => exact h'
  | cons hop _ ih => exact .cons hop (ih h')

/-! ## Attempts and starts -/

/-- The task waits to be started. -/
def Waiting (t : TaskState) : Prop :=
  t.status = .queued ∨ t.status = .leased

instance (t : TaskState) : Decidable t.Waiting := inferInstanceAs (Decidable (_ ∨ _))

/-- After `n` starts: every start but the current one has used up an attempt, and the
attempts stay below the bound. -/
structure Budget (n : Nat) (t : TaskState) : Prop where
  attempt_nonneg : 0 ≤ t.attempt
  attempt_lt : t.attempt = 0 ∨ t.attempt < t.maxAttempts
  starts_le : (n : Int) ≤ t.attempt + if t.Waiting then 0 else 1

/-- A task is started once, or as often as its attempts allow. -/
theorem Budget.le (h : Budget n t) : (n : Int) ≤ max 1 t.maxAttempts := by
  have hstarts := h.starts_le
  have hlt := h.attempt_lt
  split at hstarts <;> omega

/-- What the operations that succeed do. -/
inductive Applied (t : TaskState) : TaskOp → TaskState → Prop where
  | claim {w : String} {u : Time} (hstatus : t.status = .queued) :
      Applied t (.claim w u)
        { t with
          status := .leased
          workerId := some w
          leasedUntil := some u
          fencingToken := t.fencingToken + 1 }
  | heartbeat {w : String} {u : Time} (howner : t.workerId = some w) :
      Applied t (.heartbeat w u) { t with leasedUntil := some u }
  | markRunning {w : String} {k : Int} (hheld : t.HeldBy w k) (hstatus : t.status = .leased) :
      Applied t (.markRunning w k) { t with status := .running }
  | complete {w : String} {k : Int} (hheld : t.HeldBy w k) (hactive : t.Active) :
      Applied t (.complete w k) { t with status := .succeeded, leasedUntil := none }
  | retry {w : String} {k : Int} (hheld : t.HeldBy w k) (hactive : t.Active)
      (hmore : t.attempt + 1 < t.maxAttempts) : Applied t (.fail w k) t.retried
  | deadLetter {w : String} {k : Int} (hheld : t.HeldBy w k) (hactive : t.Active)
      (hlast : ¬ t.attempt + 1 < t.maxAttempts) :
      Applied t (.fail w k) { t with status := .deadLetter, leasedUntil := none }
  | cancel (hstatus : t.status = .queued ∨ t.Active) :
      Applied t .cancel { t with status := .cancelled }
  | release {now : Time} (hexpired : t.Expired now) (hstatus : t.status = .leased) :
      Applied t (.expire now) { t with status := .queued, workerId := none, leasedUntil := none }
  | lostRetry {now : Time} (hexpired : t.Expired now) (hstatus : t.status = .running)
      (hmore : t.attempt + 1 < t.maxAttempts) : Applied t (.expire now) t.retried
  | lostLast {now : Time} (hexpired : t.Expired now) (hstatus : t.status = .running)
      (hlast : ¬ t.attempt + 1 < t.maxAttempts) :
      Applied t (.expire now)
        { t with status := .deadLetter, workerId := none, leasedUntil := none }

theorem applied_of_apply (h : op.apply t = some t') : Applied t op t' := by
  cases op with
  | claim w u =>
    obtain ⟨hstatus, ⟨⟩⟩ := Option.ite_none_right_eq_some.mp h
    exact .claim hstatus
  | heartbeat w u =>
    obtain ⟨howner, ⟨⟩⟩ := Option.ite_none_right_eq_some.mp h
    exact .heartbeat howner
  | markRunning w k =>
    obtain ⟨⟨hheld, hstatus⟩, ⟨⟩⟩ := Option.ite_none_right_eq_some.mp h
    exact .markRunning hheld hstatus
  | complete w k =>
    obtain ⟨⟨hheld, hactive⟩, ⟨⟩⟩ := Option.ite_none_right_eq_some.mp h
    exact .complete hheld hactive
  | fail w k =>
    obtain ⟨⟨hheld, hactive⟩, h⟩ := Option.ite_none_right_eq_some.mp h
    by_cases hmore : t.attempt + 1 < t.maxAttempts
    · rw [if_pos hmore] at h
      cases h
      exact .retry hheld hactive hmore
    · rw [if_neg hmore] at h
      cases h
      exact .deadLetter hheld hactive hmore
  | cancel =>
    obtain ⟨hstatus, ⟨⟩⟩ := Option.ite_none_right_eq_some.mp h
    exact .cancel hstatus
  | expire now =>
    obtain ⟨hexpired, h⟩ := Option.ite_none_right_eq_some.mp h
    by_cases hrunning : t.status = .running
    · rw [if_pos hrunning] at h
      by_cases hmore : t.attempt + 1 < t.maxAttempts
      · rw [if_pos hmore] at h
        cases h
        exact .lostRetry hexpired hrunning hmore
      · rw [if_neg hmore] at h
        cases h
        exact .lostLast hexpired hrunning hmore
    · rw [if_neg hrunning] at h
      cases h
      exact .release hexpired (hexpired.1.resolve_right hrunning)

/-- What an operation leaves alone, and what it can only raise. -/
theorem apply_grows (h : op.apply t = some t') :
    t'.maxAttempts = t.maxAttempts ∧ t.attempt ≤ t'.attempt ∧ t.fencingToken ≤ t'.fencingToken := by
  cases applied_of_apply h with
  | claim => exact ⟨rfl, Int.le_refl _, by simp only; omega⟩
  | retry | lostRetry => exact ⟨rfl, by simp only [retried]; omega, Int.le_refl _⟩
  | _ => exact ⟨rfl, Int.le_refl _, Int.le_refl _⟩

/-- One more operation, and one more start if it is one. -/
theorem Budget.apply (h : Budget n t) (hop : op.apply t = some t') :
    Budget (n + if op.Starts then 1 else 0) t' := by
  obtain ⟨hnonneg, hlt, hstarts⟩ := h
  have hle : (n : Int) ≤ t.attempt + 1 := by
    split at hstarts <;> omega
  cases applied_of_apply hop with
  | claim hstatus =>
    refine ⟨hnonneg, hlt, ?_⟩
    simpa [TaskOp.Starts, Waiting, hstatus] using hstarts
  | heartbeat => exact ⟨hnonneg, hlt, hstarts⟩
  | markRunning _ hstatus =>
    -- the start is counted, and the task no longer waits
    refine ⟨hnonneg, hlt, ?_⟩
    have hwaiting : (n : Int) ≤ t.attempt := by simpa [Waiting, hstatus] using hstarts
    simp [TaskOp.Starts, Waiting]
    omega
  | retry _ _ hmore | lostRetry _ _ hmore =>
    refine ⟨?_, Or.inr hmore, by simpa [TaskOp.Starts, Waiting, retried] using hle⟩
    show 0 ≤ t.attempt + 1
    omega
  | release _ hstatus =>
    exact ⟨hnonneg, hlt, by simpa [TaskOp.Starts, Waiting, hstatus] using hstarts⟩
  | _ => exact ⟨hnonneg, hlt, by simpa [TaskOp.Starts, Waiting] using hle⟩

theorem Budget.lives (h : Budget n t) (hlives : Lives t ops t') :
    Budget (n + ops.countP fun op => op.Starts) t' := by
  induction hlives generalizing n with
  | nil => exact h
  | cons hop _ ih =>
    have hnext := ih (h.apply hop)
    rw [List.countP_cons]
    simpa [Nat.add_assoc, Nat.add_comm] using hnext

theorem Lives.grows (h : Lives t ops t') :
    t'.maxAttempts = t.maxAttempts ∧ t.attempt ≤ t'.attempt ∧ t.fencingToken ≤ t'.fencingToken := by
  induction h with
  | nil => exact ⟨rfl, Int.le_refl _, Int.le_refl _⟩
  | cons hop _ ih =>
    obtain ⟨hmax, hattempt, htoken⟩ := apply_grows hop
    exact ⟨ih.1.trans hmax, Int.le_trans hattempt ih.2.1, Int.le_trans htoken ih.2.2⟩

/-- Of a finished task only the lease can change: `heartbeat` asks for the owner alone. -/
theorem Lives.of_final (h : Lives t ops t') (hfinal : t.status.Final) :
    t' = { t with leasedUntil := t'.leasedUntil } := by
  induction h with
  | nil => rfl
  | cons hop _ ih =>
    have hstatus := (TaskStatus.final_iff _).mp hfinal
    cases applied_of_apply hop with
    | heartbeat => exact ih hfinal
    | _ => rcases hstatus with h | h | h <;> simp_all [Active]

end TaskState

/-! ## Methods that do an operation -/

/-- A method on a record does the operation, or raises because the operation is refused. -/
def TaskOp.Refines {ε ρ α : Type} (op : TaskOp) (act : EStateM ε ρ α) (t : ρ) (state : TaskState)
    (After : α → ρ → TaskState → Prop) : Prop :=
  match op.apply state with
  | some state' => ∃ r t', act.run t = .ok r t' ∧ After r t' state'
  | none => ∃ e, act.run t = .error e t

namespace TaskOp.Refines

variable {ε ρ α : Type} {op : TaskOp} {act : EStateM ε ρ α} {t t' t₁ t₂ t₃ : ρ}
  {state state' : TaskState} {After : α → ρ → TaskState → Prop} {r r₁ r₂ r₃ : α} {e e₁ e₂ e₃ : ε}

theorem ok (happly : op.apply state = some state') (hrun : act.run t = .ok r t')
    (hafter : After r t' state') : op.Refines act t state After := by
  unfold TaskOp.Refines
  rw [happly]
  exact ⟨r, t', hrun, hafter⟩

theorem refused (happly : op.apply state = none) (hrun : act.run t = .error e t) :
    op.Refines act t state After := by
  unfold TaskOp.Refines
  rw [happly]
  exact ⟨e, hrun⟩

/-- What a method that returns has done. -/
theorem of_ok (h : op.Refines act t state After) (hrun : act.run t = .ok r t') :
    ∃ state', op.apply state = some state' ∧ After r t' state' := by
  unfold TaskOp.Refines at h
  split at h
  · rename_i state' happly
    obtain ⟨r', t'', hrun', hafter⟩ := h
    cases hrun.symm.trans hrun'
    exact ⟨state', happly, hafter⟩
  · obtain ⟨e, hrun'⟩ := h
    cases hrun.symm.trans hrun'

/-- A method that raises leaves the record, and the operation is refused. -/
theorem of_error (h : op.Refines act t state After) (hrun : act.run t = .error e t') :
    op.apply state = none ∧ t' = t := by
  unfold TaskOp.Refines at h
  split at h
  · obtain ⟨r, t'', hrun', _⟩ := h
    cases hrun.symm.trans hrun'
  · rename_i happly
    obtain ⟨e', hrun'⟩ := h
    cases hrun.symm.trans hrun'
    exact ⟨happly, rfl⟩

/-- The result of a method without one. -/
theorem returning {act : EStateM ε ρ Unit} (h : op.Refines act t state fun _ => After r) :
    op.Refines (do act; pure r) t state After := by
  unfold TaskOp.Refines at h ⊢
  split at h
  · obtain ⟨_, t', hrun, hafter⟩ := h
    exact ⟨r, t', run_bind_of_ok hrun, hafter⟩
  · obtain ⟨e, hrun⟩ := h
    exact ⟨e, run_bind_of_error hrun⟩

section

variable {p q c : Prop} [Decidable p] [Decidable q] [Decidable c] {w : String} {k : Int} {u : Time}

theorem heartbeat (howner : state.workerId = some w ↔ ¬ p)
    (hrun : act.run t = if p then .error e t else .ok r t')
    (hafter : After r t' { state with leasedUntil := some u }) :
    (TaskOp.heartbeat w u).Refines act t state After := by
  by_cases hp : p
  · exact refused (if_neg fun h => howner.mp h hp) (hrun.trans (if_pos hp))
  · exact ok (if_pos (howner.mpr hp)) (hrun.trans (if_neg hp)) hafter

/-- An operation on a held task. -/
theorem of_held {c' : Prop} [Decidable c']
    (happly : op.apply state = if state.HeldBy w k ∧ c' then some state' else none)
    (hheld : state.HeldBy w k ↔ ¬ p ∧ ¬ q) (hc : state.HeldBy w k → (c' ↔ c))
    (hrun : act.run t = if p then .error e₁ t else if q then .error e₂ t
      else if c then .ok r t' else .error e₃ t)
    (hafter : c' → After r t' state') : op.Refines act t state After := by
  rcases checks_cases hheld hrun with ⟨⟨hheld, hc'⟩, hrun⟩ | ⟨hnot, e, hrun⟩
  · have hc' := (hc hheld).mpr hc'
    exact ok (happly.trans (if_pos ⟨hheld, hc'⟩)) hrun (hafter hc')
  · exact refused (happly.trans (if_neg fun h => hnot ⟨h.1, (hc h.1).mp h.2⟩)) hrun

theorem fail (hheld : state.HeldBy w k ↔ ¬ p ∧ ¬ q) (hactive : state.Active ↔ c) {last : Prop}
    [Decidable last] (hlast : last ↔ ¬ state.attempt + 1 < state.maxAttempts)
    (hrun : act.run t = if p then .error e₁ t else if q then .error e₂ t
      else if c then if last then .ok r₁ t₁ else .ok r₂ t₂ else .error e₃ t)
    (hdead : After r₁ t₁ { state with status := .deadLetter, leasedUntil := none })
    (hretry : After r₂ t₂ state.retried) : (TaskOp.fail w k).Refines act t state After := by
  rcases checks_cases hheld hrun with ⟨⟨hheld, hc⟩, hrun⟩ | ⟨hnot, e, hrun⟩
  · have hall : state.HeldBy w k ∧ state.Active := ⟨hheld, hactive.mpr hc⟩
    by_cases hlast' : last
    · exact ok ((if_pos hall).trans (if_neg (hlast.mp hlast'))) (hrun.trans (if_pos hlast')) hdead
    · exact ok ((if_pos hall).trans (if_pos (Decidable.not_not.mp fun h => hlast' (hlast.mpr h))))
        (hrun.trans (if_neg hlast')) hretry
  · exact refused (if_neg fun h => hnot ⟨h.1, hactive.mp h.2⟩) hrun

theorem cancel (hstatus : state.status = .queued ∨ state.Active ↔ c)
    (hrun : act.run t = if c then .ok r t' else .error e t)
    (hafter : After r t' { state with status := .cancelled }) :
    TaskOp.cancel.Refines act t state After := by
  by_cases hc : c
  · exact ok (if_pos (hstatus.mpr hc)) (hrun.trans (if_pos hc)) hafter
  · exact refused (if_neg fun h => hc (hstatus.mp h)) (hrun.trans (if_neg hc))

/-- The reaper's method, on a task that the reaper takes. -/
theorem expire {now : Time} (hexpired : state.Expired now)
    (hrun : act.run t = if state.status = .running then
        if state.attempt + 1 ≥ state.maxAttempts then .ok r₁ t₁ else .ok r₂ t₂
      else if state.status = .leased ∨ state.status = .retrying then .ok r₃ t₃ else .error e t)
    (hdead : After r₁ t₁ { state with status := .deadLetter, workerId := none, leasedUntil := none })
    (hretry : After r₂ t₂ state.retried)
    (hrelease : After r₃ t₃ { state with status := .queued, workerId := none, leasedUntil := none }) :
    (TaskOp.expire now).Refines act t state After := by
  by_cases hrunning : state.status = .running
  · rw [if_pos hrunning] at hrun
    by_cases hmore : state.attempt + 1 < state.maxAttempts
    · exact ok ((if_pos hexpired).trans ((if_pos hrunning).trans (if_pos hmore)))
        (hrun.trans (if_neg (Int.not_le.mpr hmore))) hretry
    · exact ok ((if_pos hexpired).trans ((if_pos hrunning).trans (if_neg hmore)))
        (hrun.trans (if_pos (Int.not_lt.mp hmore))) hdead
  · rw [if_neg hrunning, if_pos (.inl (hexpired.1.resolve_right hrunning))] at hrun
    exact ok ((if_pos hexpired).trans (if_neg hrunning)) hrun hrelease

end

end TaskOp.Refines

/-! ## Lives of tasks in a durable backend

A durable backend is seen through its board: the scheduling state of every task. A
call takes every task that is on the board along its operations. If that is so, the number
of times that a task is started is bounded, whatever the calls are, and what is finished
stays so. -/

/-- The scheduling states of the tasks of a backend. -/
abbrev Board : Type := Int → Option TaskState

/-- How often operations start the task. -/
def startsOf (ops : List TaskOp) : Nat := ops.countP fun op => op.Starts

@[simp] theorem startsOf_append (ops ops' : List TaskOp) :
    startsOf (ops ++ ops') = startsOf ops + startsOf ops' := List.countP_append

/-- The task lives on, and is started `n` times. -/
def LivesOn (n : Nat) (before after : Board) (taskId : Int) : Prop :=
  ∀ t, before taskId = some t → ∃ t' ops, after taskId = some t' ∧ t.Lives ops t' ∧ startsOf ops = n

variable {before after b b' b'' : Board} {taskId : Int} {t t' : TaskState} {op : TaskOp}

theorem LivesOn.same (h : after taskId = before taskId) : LivesOn 0 before after taskId :=
  fun t ht => ⟨t, [], h.trans ht, .nil t, rfl⟩

theorem LivesOn.trans {n n' : Nat} (h : LivesOn n b b' taskId) (h' : LivesOn n' b' b'' taskId) :
    LivesOn (n + n') b b'' taskId := by
  intro t ht
  obtain ⟨t', ops, ht', hlives, hn⟩ := h t ht
  obtain ⟨t'', ops', ht'', hlives', hn'⟩ := h' t' ht'
  exact ⟨t'', ops ++ ops', ht'', hlives.append hlives', by rw [startsOf_append, hn, hn']⟩

theorem LivesOn.of_apply (hbefore : before taskId = some t) (hop : op.apply t = some t')
    (hafter : after taskId = some t') :
    LivesOn (if op.Starts then 1 else 0) before after taskId := by
  intro u hu
  cases hbefore.symm.trans hu
  refine ⟨t', [op], hafter, .single hop, ?_⟩
  unfold startsOf
  rw [List.countP_cons, List.countP_nil, Nat.zero_add]
  simp only [decide_eq_true_eq]

/-- One task takes an operation, and the others stay. -/
theorem LivesOn.of_write (hbefore : before taskId = some t) (hop : op.apply t = some t')
    (hafter : after taskId = some t') (hothers : ∀ id, id ≠ taskId → after id = before id)
    (id : Int) : LivesOn (if op.Starts ∧ id = taskId then 1 else 0) before after id := by
  by_cases hid : id = taskId
  · subst hid
    simpa using LivesOn.of_apply hbefore hop hafter
  · rw [if_neg fun hall => hid hall.2]
    exact .same (hothers id hid)

/-- Every task lives on, and none is started. -/
def Evolves (before after : Board) : Prop := ∀ taskId, LivesOn 0 before after taskId

theorem Evolves.refl (board : Board) : Evolves board board := fun _ => .same rfl

theorem Evolves.trans (h : Evolves b b') (h' : Evolves b' b'') :
    Evolves b b'' := fun taskId => (h taskId).trans (h' taskId)

/-- One task takes an operation that does not start it, and the others stay. -/
theorem Evolves.of_apply (hbefore : before taskId = some t) (hop : op.apply t = some t')
    (hstarts : ¬ op.Starts) (hafter : after taskId = some t')
    (hothers : ∀ id, id ≠ taskId → after id = before id) : Evolves before after := by
  intro id
  have h := LivesOn.of_write hbefore hop hafter hothers id
  rwa [if_neg fun hall => hstarts hall.1] at h

/-! ## Backends -/

/-- A backend: its calls, its board, and what a call that returned has enqueued or started. -/
structure DurableBackend (σ ι ρ : Type) where
  exec : σ → ι → ρ × σ
  board : σ → Board
  enqueued : ι → ρ → Option Int
  started : ι → ρ → Option Int

namespace DurableBackend

variable {σ ι ρ : Type} (B : DurableBackend σ ι ρ)

/-- In a run that begins with nothing enqueued: a task that is enqueued with attempt 0, until
its id is enqueued anew, is put into running at most `max(1, max_attempts)` times; its attempt
never falls and, if at least one attempt is allowed, stays below the bound. -/
def BoundedExecutions (init : σ) : Prop :=
  ∀ (earlier : List ι) (call : ι) (later : List ι) (taskId : Int) (t : TaskState),
    let enqueue := B.exec (final B.exec init earlier) call
    B.enqueued call enqueue.1 = some taskId → B.board enqueue.2 taskId = some t → t.attempt = 0 →
    (∀ e ∈ trace B.exec enqueue.2 later, B.enqueued e.call e.reply ≠ some taskId) →
      (((trace B.exec enqueue.2 later).countP fun e => B.started e.call e.reply = some taskId : Nat) :
        Int) ≤ max 1 t.maxAttempts ∧
      ∀ e ∈ trace B.exec enqueue.2 later, ∃ u u', B.board e.before taskId = some u ∧
        B.board e.after taskId = some u' ∧ u.attempt ≤ u'.attempt ∧
          (1 ≤ t.maxAttempts → u'.attempt < t.maxAttempts)

/-- What a call does to a task that it does not enqueue. -/
def Steps (s : σ) (call : ι) : Prop :=
  ∀ taskId, B.enqueued call (B.exec s call).1 ≠ some taskId →
    LivesOn (if B.started call (B.exec s call).1 = some taskId then 1 else 0) (B.board s)
      (B.board (B.exec s call).2) taskId

/-- After the calls so far: the starts are within the budget, and every call has kept the
attempts. -/
structure Spent (taskId : Int) (t : TaskState) (history : List (Entry σ ι ρ)) (s : σ) : Prop where
  budget : ∃ u, B.board s taskId = some u ∧ u.maxAttempts = t.maxAttempts ∧
    u.Budget (history.countP fun e => B.started e.call e.reply = some taskId)
  attempts : ∀ e ∈ history, ∃ u u', B.board e.before taskId = some u ∧
    B.board e.after taskId = some u' ∧ u.attempt ≤ u'.attempt ∧
      (1 ≤ t.maxAttempts → u'.attempt < t.maxAttempts)

variable {B}

/-- One more call. -/
theorem Spent.step {history : List (Entry σ ι ρ)} {s : σ}
    (h : B.Spent taskId t history s) {call : ι} (hstep : B.Steps s call)
    (hcall : B.enqueued call (B.exec s call).1 ≠ some taskId) :
    B.Spent taskId t (history ++ [entry B.exec s call]) (B.exec s call).2 := by
  obtain ⟨u, hu, hmax, hbudget⟩ := h.budget
  obtain ⟨u', ops, hu', hlives, hstarts⟩ := hstep taskId hcall u hu
  have hgrows := hlives.grows
  have hcount : (history ++ [entry B.exec s call]).countP
      (fun e => B.started e.call e.reply = some taskId) =
        (history.countP fun e => B.started e.call e.reply = some taskId) + startsOf ops := by
    rw [List.countP_append, hstarts]
    by_cases hstarted : B.started call (B.exec s call).1 = some taskId
    · simp [entry, hstarted]
    · simp [entry, hstarted]
  have hbudget' := hbudget.lives hlives
  refine ⟨⟨u', hu', hgrows.1.trans hmax, ?_⟩, ?_⟩
  · rw [hcount]
    exact hbudget'
  · intro e he
    rcases List.mem_append.mp he with hold | hnew
    · exact h.attempts e hold
    · cases List.mem_singleton.mp hnew
      refine ⟨u, u', hu, hu', hgrows.2.1, fun hpos => ?_⟩
      have hlt := hbudget'.attempt_lt
      omega

/-- A backend whose calls take every task along its life bounds the executions. -/
theorem boundedExecutions {I : σ → Prop} (init : σ) (hinit : I init)
    (hkeep : ∀ s call, I s → I (B.exec s call).2) (hstep : ∀ s call, I s → B.Steps s call) :
    B.BoundedExecutions init := by
  intro earlier call later taskId t enqueue _ hboard hattempt hlater
  have hI : I enqueue.2 :=
    hkeep _ call (invariant_final B.exec (I := I) (fun s c _ => hkeep s c) earlier init hinit
      (admitted_true B.exec earlier init))
  have hadmitted : Admitted B.exec (fun s c => B.enqueued c (B.exec s c).1 ≠ some taskId) enqueue.2
      later := by
    rw [admitted_iff_forall_mem_trace]
    intro e he
    rw [← reply_of_mem_trace B.exec later enqueue.2 he]
    exact hlater e he
  have hstart : B.Spent taskId t [] enqueue.2 :=
    ⟨⟨t, hboard, rfl, by omega, .inl hattempt, by simp [hattempt]; split <;> simp⟩, by simp⟩
  have hend := history_induction B.exec (J := fun history s => I s ∧ B.Spent taskId t history s)
    (fun history s c hc hJ => ⟨hkeep s c hJ.1, hJ.2.step (hstep s c hJ.1) hc⟩) later []
    enqueue.2 ⟨hI, hstart⟩ hadmitted
  obtain ⟨u, _, hmax, hbudget⟩ := hend.2.budget
  refine ⟨?_, hend.2.attempts⟩
  have hle := hbudget.le
  rw [hmax] at hle
  exact hle

variable (B) in
/-- From any time on, until its id is enqueued anew, a task keeps its bound, its attempt and its
token never fall, and once it is finished nothing of its scheduling state changes but the time of
its lease. -/
def MovesForward (init : σ) : Prop :=
  ∀ (earlier later : List ι) (taskId : Int) (t : TaskState),
    B.board (final B.exec init earlier) taskId = some t →
    Admitted B.exec (fun s call => B.enqueued call (B.exec s call).1 ≠ some taskId)
      (final B.exec init earlier) later →
    ∃ t', B.board (final B.exec init (earlier ++ later)) taskId = some t' ∧
      t'.maxAttempts = t.maxAttempts ∧ t.attempt ≤ t'.attempt ∧ t.fencingToken ≤ t'.fencingToken ∧
      (t.status.Final → t' = { t with leasedUntil := t'.leasedUntil })

theorem movesForward {I : σ → Prop} (init : σ) (hinit : I init)
    (hkeep : ∀ s call, I s → I (B.exec s call).2) (hstep : ∀ s call, I s → B.Steps s call) :
    B.MovesForward init := by
  intro earlier later taskId t hboard hadmitted
  have hI := invariant_final B.exec (I := I) (fun s c _ => hkeep s c) earlier init hinit
    (admitted_true B.exec earlier init)
  -- the life of the task so far
  have hlife := invariant_final B.exec
    (I := fun s => I s ∧ ∃ u ops, B.board s taskId = some u ∧ t.Lives ops u) ?_ later _
    ⟨hI, t, [], hboard, .nil t⟩ hadmitted
  · obtain ⟨_, t', ops, hboard', hlives⟩ := hlife
    rw [final_append]
    obtain ⟨hmax, hattempt, htoken⟩ := hlives.grows
    exact ⟨t', hboard', hmax, hattempt, htoken, hlives.of_final⟩
  · rintro s c hc ⟨hI, u, ops, hu, hlives⟩
    obtain ⟨u', ops', hu', hlives', _⟩ := hstep s c hI taskId hc u hu
    exact ⟨hkeep s c hI, u', _, hu', hlives.append hlives'⟩

end DurableBackend

end DimooRun.Scheduler
