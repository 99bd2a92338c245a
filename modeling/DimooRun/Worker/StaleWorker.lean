/-
  Worker/StaleWorker.lean --- a stale worker writes nothing.

  Any number of executors, each with its own private fields, run `execute_once`
  over the same stores. Their segments interleave arbitrarily with scheduler
  calls by anybody, and with writes of other parties to the run store and the
  replay buffer, which are not restricted at all. An executor that waits for its
  adapter may find that its task was put back to the queue or leased again in the
  meantime; from then on it changes nothing and its call raises.
-/
import Mathlib.Logic.Function.Basic
import DimooRun.Worker.ExecutorSpec

set_option autoImplicit false

namespace DimooRun.Worker

open Foundation DimooRun.Runtime Scheduler Streaming

/-! ## The system -/

/-- The shared stores, and for each executor its private fields and the call it is
in the middle of. -/
structure System (ι : Type) where
  stores : Stores
  appended : List Append
  active : ι → Active
  call : ι → Option (Locals × Pc)

/-- Empty stores and idle executors. -/
def System.init {ι : Type} : System ι :=
  { stores := { backend := .init, runStore := .init, replayBuffer := {} }
    appended := []
    active := fun _ => {}
    call := fun _ => none }

/-- One atomic step of the system. -/
inductive Step (ι : Type) where
  /-- a scheduler call by anybody -/
  | call (c : Call)
  /-- other parties write to the run store and the replay buffer -/
  | others (runStore : InMemoryRunStore) (replayBuffer : ReplayBuffer)
  /-- executor `i` begins `execute_once` -/
  | start (i : ι) (now reapNow : Time) (queue : String) (leaseSeconds : Int)
  /-- the adapter answers executor `i` -/
  | resume (i : ι) (reply : AdapterReply)

/-- What a step reports. -/
inductive Outcome where
  | quiet
  | called (reply : Except TaskError Reply)
  | waiting
  | returned (result : Option WorkerExecutionResult)
  | raised (e : PyException)

namespace System

variable {ι : Type}

/-- What a segment of executor `i` works on. -/
def view (sys : System ι) (i : ι) : ExecState :=
  { stores := sys.stores, active := sys.active i, appended := sys.appended }

variable [DecidableEq ι]

section

variable (ex : ι → WorkerExecutor) (id : Int) (sys : System ι)

/-- The system after a segment of executor `i`. -/
def put (i : ι) (s : ExecState) (call : Option (Locals × Pc)) : System ι :=
  { stores := s.stores
    appended := s.appended
    active := Function.update sys.active i s.active
    call := Function.update sys.call i call }

/-- Run a segment of executor `i`. -/
def segment (i : ι) (m : ExecM Progress) : Outcome × System ι :=
  match m.run (sys.view i) with
  | .ok (.returned result) s => (.returned result, sys.put i s none)
  | .ok (.awaiting locals pc) s => (.waiting, sys.put i s (some (locals, pc)))
  | .error e s => (.raised e, sys.put i s none)

/-- One step. An executor begins a call only when it is in none, and the adapter
answers only an executor that waits. -/
def exec : Step ι → Outcome × System ι
  | .call c =>
      let (reply, backend) := InMemoryTaskBackend.exec sys.stores.backend c
      (.called reply, { sys with stores := { sys.stores with backend := backend } })
  | .others runStore replayBuffer =>
      (.quiet,
        { sys with
          stores := { sys.stores with runStore := runStore, replayBuffer := replayBuffer } })
  | .start i now reapNow queue leaseSeconds =>
      match sys.call i with
      | some _ => (.quiet, sys)
      | none => sys.segment i ((ex i).start now reapNow queue leaseSeconds)
  | .resume i reply =>
      match sys.call i with
      | none => (.quiet, sys)
      | some (locals, pc) => sys.segment i ((ex i).resume locals pc reply)

/-- `enqueue` is not given the id of a task that is already there. -/
def FreshStep : Step ι → Prop
  | .call c => sys.stores.backend.FreshId c
  | _ => True

/-! ## Losing a lease -/

/-- The step hands out a lease of task `id`. -/
def Leases : Step ι → Prop
  | .call (.lease now reapNow queue w n) =>
      ∃ snapshot b, (InMemoryTaskBackend.lease now reapNow queue w n).run sys.stores.backend =
        .ok (some snapshot) b ∧ snapshot.taskId = id
  | .start i now reapNow queue n =>
      sys.call i = none ∧
        ∃ snapshot b,
          (InMemoryTaskBackend.lease now reapNow queue (ex i).workerId n).run
            sys.stores.backend = .ok (some snapshot) b ∧ snapshot.taskId = id
  | _ => False

/-- The step takes task `id` from whoever held it: the leased or running task is
put back to the queue, or it is leased again. -/
def LeaseLost (e : Entry (System ι) (Step ι) Outcome) :
    Prop :=
  (∃ t t', e.before.stores.backend.tasks.get? id = some t ∧
      e.after.stores.backend.tasks.get? id = some t' ∧
      (t.status = .leased ∨ t.status = .running) ∧ t'.status = .queued) ∨
    Leases ex id e.before e.call

/-! ## Invariants of the system -/

/-- The backend is sound, and every execution in progress works under a lease
whose token the backend has reached. -/
structure Inv : Prop where
  sound : sys.stores.backend.Sound
  under : ∀ i locals pc, sys.call i = some (locals, pc) →
    Under locals.leased.taskId (ex i).workerId locals.leased.fencingToken (sys.active i)
  reached : ∀ i locals pc, sys.call i = some (locals, pc) →
    ∃ t, sys.stores.backend.tasks.get? locals.leased.taskId = some t ∧
      locals.leased.fencingToken ≤ t.fencingToken

end

omit [DecidableEq ι] in
theorem inv_init (ex : ι → WorkerExecutor) : Inv ex .init where
  sound := InMemoryTaskBackend.sound_init
  under := by
    intro i locals pc h
    simp [init] at h
  reached := by
    intro i locals pc h
    simp [init] at h

theorem stores_segment (sys : System ι) (i : ι) (m : ExecM Progress) :
    (sys.segment i m).2.stores = (endState (m.run (sys.view i))).stores := by
  unfold segment
  cases m.run (sys.view i) with
  | ok progress s => cases progress <;> rfl
  | error e s => rfl

variable {sys : System ι} {step : Step ι} {steps : List (Step ι)} {i : ι} {locals : Locals}
  {pc : Pc} {ex : ι → WorkerExecutor}

section

variable (ex)

/-- Every step moves the backend by its methods only. -/
theorem evolves_step (hfresh : sys.FreshStep step) :
    InMemoryTaskBackend.Evolves sys.stores.backend (exec ex sys step).2.stores.backend := by
  have hsegment : ∀ (i : ι) (m : ExecM Progress), Moves BackendEvolves m →
      InMemoryTaskBackend.Evolves sys.stores.backend (sys.segment i m).2.stores.backend := by
    intro i m hm
    rw [stores_segment]
    exact hm (sys.view i)
  cases step with
  | call c => exact InMemoryTaskBackend.evolves_exec hfresh
  | others runStore replayBuffer => exact refl sys.stores.backend
  | start i now reapNow queue n =>
    simp only [exec]
    split
    · exact refl sys.stores.backend
    · exact hsegment i _ (moves_start (ex i) now reapNow queue n)
  | resume i reply =>
    simp only [exec]
    split
    · exact refl sys.stores.backend
    · exact hsegment i _ (moves_resume (ex i) _ _ reply)

/-- The segments of executor `i` that steps run. -/
inductive Runs (ex : ι → WorkerExecutor) (sys : System ι) (i : ι) :
    Step ι → ExecM Progress → Prop where
  | start {now reapNow : Time} {queue : String} {n : Int} (hidle : sys.call i = none) :
      Runs ex sys i (.start i now reapNow queue n) ((ex i).start now reapNow queue n)
  | resume {reply : AdapterReply} {locals : Locals} {pc : Pc}
      (hcall : sys.call i = some (locals, pc)) :
      Runs ex sys i (.resume i reply) ((ex i).resume locals pc reply)

/-- A step runs a segment of an executor, or leaves the executors alone. -/
theorem exec_cases (sys : System ι) (step : Step ι) :
    (∃ j m, Runs ex sys j step m ∧ exec ex sys step = sys.segment j m) ∨
      (exec ex sys step).2.call = sys.call ∧ (exec ex sys step).2.active = sys.active := by
  cases step with
  | call c | others runStore replayBuffer => exact .inr ⟨rfl, rfl⟩
  | start j now reapNow queue n =>
    cases hcall : sys.call j with
    | some suspended => exact .inr (by simp only [exec, hcall, and_self])
    | none => exact .inl ⟨j, _, .start hcall, by simp only [exec, hcall]⟩
  | resume j reply =>
    cases hcall : sys.call j with
    | none => exact .inr (by simp only [exec, hcall, and_self])
    | some suspended => exact .inl ⟨j, _, .resume hcall, by simp only [exec, hcall]⟩

/-- What a step makes of the call executor `i` is in. -/
theorem call_step (sys : System ι) (step : Step ι) (i : ι) :
    ((exec ex sys step).2.call i = sys.call i ∧ (exec ex sys step).2.active i = sys.active i) ∨
      ∃ m, Runs ex sys i step m ∧ ((exec ex sys step).2.call i = none ∨
        ∃ locals pc s, m.run (sys.view i) = .ok (.awaiting locals pc) s ∧
          (exec ex sys step).2 = sys.put i s (some (locals, pc))) := by
  rcases exec_cases ex sys step with ⟨j, m, hruns, hexec⟩ | ⟨hcall, hactive⟩
  · rw [hexec]
    unfold segment
    by_cases hij : i = j
    · subst hij
      refine .inr ⟨m, hruns, ?_⟩
      split
      · exact .inl (by simp [put])
      · rename_i locals pc s hrun
        exact .inr ⟨locals, pc, s, hrun, rfl⟩
      · exact .inl (by simp [put])
    · -- a segment of another executor leaves the private fields of `i` alone
      split <;> simp [put, Function.update_of_ne hij]
  · exact .inl ⟨congrFun hcall i, congrFun hactive i⟩

theorem inv_step (hfresh : sys.FreshStep step) (h : Inv ex sys) : Inv ex (exec ex sys step).2 := by
  have hevolves := evolves_step ex hfresh h.sound
  have key : ∀ i locals pc, (exec ex sys step).2.call i = some (locals, pc) →
      Under locals.leased.taskId (ex i).workerId locals.leased.fencingToken
          ((exec ex sys step).2.active i) ∧
        ∃ t, (exec ex sys step).2.stores.backend.tasks.get? locals.leased.taskId = some t ∧
          locals.leased.fencingToken ≤ t.fencingToken := by
    intro i locals pc hcall
    have hstill : ∀ pc₀, sys.call i = some (locals, pc₀) →
        ∃ t, (exec ex sys step).2.stores.backend.tasks.get? locals.leased.taskId = some t ∧
          locals.leased.fencingToken ≤ t.fencingToken := by
      intro pc₀ hcall₀
      obtain ⟨t, ht, hle⟩ := h.reached i locals pc₀ hcall₀
      obtain ⟨t', ht', hlease⟩ := hevolves.2 _ t ht
      exact ⟨t', ht', Int.le_trans hle hlease.token_le⟩
    rcases call_step ex sys step i with
      ⟨hsame, hactive⟩ | ⟨m, hruns, hnone | ⟨locals', pc', s, hrun, hput⟩⟩
    · rw [hsame] at hcall
      rw [hactive]
      exact ⟨h.under i locals pc hcall, hstill pc hcall⟩
    · simp [hnone] at hcall
    rw [hput] at hcall
    simp only [put, Function.update_self, Option.some.injEq, Prod.mk.injEq] at hcall
    obtain ⟨rfl, rfl⟩ := hcall
    cases hruns with
    | start hidle =>
      rw [hput]
      simpa only [put, Function.update_self] using under_of_start (ex i) h.sound hrun
    | resume hcall₀ =>
      obtain ⟨rfl, hunder'⟩ := under_of_resume (ex i) (h.under i _ _ hcall₀) hrun
      refine ⟨?_, hstill _ hcall₀⟩
      rw [hput]
      simpa only [put, Function.update_self] using hunder'
  exact ⟨hevolves.1, fun i locals pc hcall => (key i locals pc hcall).1,
    fun i locals pc hcall => (key i locals pc hcall).2⟩

theorem inv_final (hadm : Admitted (exec ex) FreshStep .init steps) :
    Inv ex (final (exec ex) .init steps) :=
  invariant_final (exec ex) (I := Inv ex) (fun _ _ hfresh h => inv_step ex hfresh h) steps .init
    (inv_init ex) hadm

/-! ## After the loss -/

/-- After a step that takes the task away, the lease is gone. -/
theorem gone_of_leaseLost (hfresh : sys.FreshStep step)
    (hinv : Inv ex sys) (hcall : sys.call i = some (locals, pc))
    (hlost : LeaseLost ex locals.leased.taskId (entry (exec ex) sys step)) :
    InMemoryTaskBackend.Gone locals.leased.taskId (ex i).workerId locals.leased.fencingToken
      (exec ex sys step).2.stores.backend := by
  obtain ⟨t, ht, hle⟩ := hinv.reached i locals pc hcall
  obtain ⟨hsound', hevolves⟩ := evolves_step ex hfresh hinv.sound
  obtain ⟨t', ht', hlease⟩ := hevolves _ t ht
  have hle' := hlease.token_le
  -- a lease of the task anywhere in the step leaves a larger token
  have hleased : ∀ {now reapNow : Time} {queue w : String} {n : Int} {snapshot : TaskSnapshot}
      {b : InMemoryTaskBackend},
      (InMemoryTaskBackend.lease now reapNow queue w n).run sys.stores.backend =
        .ok (some snapshot) b →
      snapshot.taskId = locals.leased.taskId →
      InMemoryTaskBackend.Evolves b (exec ex sys step).2.stores.backend →
      InMemoryTaskBackend.Gone locals.leased.taskId (ex i).workerId locals.leased.fencingToken
        (exec ex sys step).2.stores.backend := by
    intro now reapNow queue w n snapshot b hrun hid hrest
    obtain ⟨t₀, t₁, ht₀, ht₁, hlt, _⟩ := InMemoryTaskBackend.token_lt_lease hinv.sound hrun
    rw [hid, ht] at ht₀
    cases ht₀
    have hsound₁ : b.Sound := InMemoryTaskBackend.sound_lease hinv.sound hrun
    obtain ⟨t₂, ht₂, hlease₂⟩ := (hrest hsound₁).2 _ t₁ ht₁
    rw [hid] at ht₂
    have hle₂ := hlease₂.token_le
    exact ⟨t₂, ht₂, by omega, fun heq => absurd heq (by omega)⟩
  rcases hlost with ⟨t₀, t₁, _, ht₁, _, hqueued⟩ | hlost
  · have hle₁ : locals.leased.fencingToken ≤ t₁.fencingToken := by
      rw [show (entry (exec ex) sys step).after = (exec ex sys step).2 from rfl, ht'] at ht₁
      cases ht₁
      omega
    exact InMemoryTaskBackend.Gone.of_queued hsound' ht₁ hqueued hle₁
  · have hlost : Leases ex locals.leased.taskId sys step := hlost
    cases step with
    | call c =>
      cases c with
      | lease now reapNow queue w n =>
        obtain ⟨snapshot, b, hrun, hid⟩ := hlost
        refine hleased hrun hid ?_
        show InMemoryTaskBackend.Evolves b
          (InMemoryTaskBackend.exec sys.stores.backend (.lease now reapNow queue w n)).2
        simp only [InMemoryTaskBackend.exec, InMemoryTaskBackend.method, bind_pure_comp,
          endState_run_map, hrun]
        exact refl b
      | _ => exact hlost.elim
    | start j now reapNow queue n =>
      obtain ⟨hidle, snapshot, b, hrun, hid⟩ := hlost
      refine hleased hrun hid ?_
      have hstart := run_start_of_lease (ex j) (s := sys.view j) hrun
      simp only [exec, hidle, stores_segment, hstart]
      exact moves_begin (ex j) snapshot
        { sys.view j with stores := { sys.stores with backend := b } }
    | others runStore replayBuffer | resume j reply => exact hlost.elim

end

/-- Executor `i` is still in its call, or out of it, and its lease is gone. -/
structure Lost (ex : ι → WorkerExecutor) (i : ι) (locals : Locals) (sys : System ι) : Prop where
  inv : Inv ex sys
  same : ∀ locals' pc, sys.call i = some (locals', pc) → locals' = locals
  gone : InMemoryTaskBackend.Gone locals.leased.taskId (ex i).workerId
    locals.leased.fencingToken sys.stores.backend

omit [DecidableEq ι] in
theorem Lost.stale {locals' : Locals} (h : Lost ex i locals sys)
    (hcall : sys.call i = some (locals', pc)) : Stale (sys.view i) := by
  obtain rfl := h.same locals' pc hcall
  obtain ⟨t, ht, _, howner⟩ := h.gone
  refine ⟨_, _, _, h.inv.under i _ pc hcall, ?_⟩
  intro t' ht'
  rw [show (sys.view i).stores = sys.stores from rfl, ht] at ht'
  cases ht'
  by_cases heq : t.fencingToken = locals'.leased.fencingToken
  · exact .inr (howner heq)
  · exact .inl heq

/-- The step is in order, and does not begin a call of executor `i`. -/
def Bystands (i : ι) (sys : System ι) (step : Step ι) : Prop :=
  sys.FreshStep step ∧ ∀ now reapNow queue n, step ≠ .start i now reapNow queue n

/-- The loss is for good: it survives every step, except that the executor may
begin a new call once it is out of this one. -/
theorem lost_step (hstep : Bystands i sys step) (h : Lost ex i locals sys) :
    Lost ex i locals (exec ex sys step).2 where
  inv := inv_step ex hstep.1 h.inv
  gone := h.gone.evolves h.inv.sound (evolves_step ex hstep.1)
  same := by
    intro locals' pc hcall
    rcases call_step ex sys step i with
      ⟨hsame, _⟩ | ⟨m, hruns, hnone | ⟨locals₁, pc₁, s, hrun, hput⟩⟩
    · rw [hsame] at hcall
      exact h.same locals' pc hcall
    · simp [hnone] at hcall
    cases hruns with
    | start hidle => exact absurd rfl (hstep.2 _ _ _ _)
    | resume hcall₀ =>
      obtain ⟨rfl, _⟩ := under_of_resume (ex i) (h.inv.under i _ _ hcall₀) hrun
      rw [hput] at hcall
      simp only [put, Function.update_self, Option.some.injEq, Prod.mk.injEq] at hcall
      obtain ⟨rfl, _⟩ := hcall
      exact h.same _ _ hcall₀

/-- An answer of the adapter to an executor whose lease is gone. -/
theorem resume_lost (reply : AdapterReply) (h : Lost ex i locals sys) :
    (exec ex sys (.resume i reply)).2.stores = sys.stores ∧
      ((sys.call i = none ∧ (exec ex sys (.resume i reply)).1 = .quiet) ∨
        (∃ e, (exec ex sys (.resume i reply)).1 = .raised e) ∨
        ∃ pc pc', sys.call i = some (locals, pc) ∧ (exec ex sys (.resume i reply)).1 = .waiting ∧
          (exec ex sys (.resume i reply)).2.call i = some (locals, pc') ∧
          Stale.rank pc' < Stale.rank pc) := by
  cases hcall : sys.call i with
  | none =>
    have hexec : exec ex sys (.resume i reply) = (.quiet, sys) := by simp only [exec, hcall]
    rw [hexec]
    exact ⟨rfl, Or.inl ⟨rfl, rfl⟩⟩
  | some suspended =>
    obtain ⟨locals', pc⟩ := suspended
    have hstale := h.stale hcall
    obtain rfl := h.same locals' pc hcall
    simp only [exec, hcall, segment]
    rcases hstale.resume (ex i) locals' pc reply with ⟨e, active, hrun⟩ | ⟨pc', hrun, hlt⟩
    · rw [hrun]
      exact ⟨rfl, Or.inr (Or.inl ⟨e, rfl⟩)⟩
    · rw [hrun]
      exact ⟨rfl, Or.inr (Or.inr ⟨pc, pc', rfl, rfl, by simp [put], hlt⟩)⟩

/-- The step is an answer to executor `i`. -/
def answers (i : ι) : Step ι → Bool
  | .resume j _ => decide (j = i)
  | _ => false

/-- No answer after the loss changes a store, and none makes the call return. -/
theorem quiet_after_loss (hadm : Admitted (exec ex) (Bystands i) sys steps)
    (hlost : Lost ex i locals sys) :
    ∀ e ∈ trace (exec ex) sys steps, ∀ reply, e.call = .resume i reply →
      e.after.stores = e.before.stores ∧ ∀ result, e.reply ≠ .returned result := by
  refine forall_mem_trace (exec ex) (I := Lost ex i locals) ?_ steps sys hlost hadm
  rintro sys step hstep hlost
  refine ⟨?_, lost_step hstep hlost⟩
  rintro reply rfl
  obtain ⟨hstores, hcases⟩ := resume_lost reply hlost
  refine ⟨hstores, ?_⟩
  intro result hreply
  have hreply : (exec ex sys (.resume i reply)).1 = .returned result := hreply
  rcases hcases with ⟨_, hquiet⟩ | ⟨e, hraised⟩ | ⟨_, _, _, hwaiting, _⟩ <;> simp_all

/-- As many answers as the rank of the point it waits at make the call raise. -/
theorem raises_after_loss :
    ∀ {sys : System ι} {pc : Pc}, Admitted (exec ex) (Bystands i) sys steps →
      Lost ex i locals sys → sys.call i = some (locals, pc) →
      Stale.rank pc ≤ steps.countP (answers i) →
      ∃ e ∈ trace (exec ex) sys steps, ∃ reply error,
        e.call = .resume i reply ∧ e.reply = .raised error := by
  induction steps with
  | nil =>
    intro sys pc _ _ _ hrank
    cases pc <;> simp [Stale.rank] at hrank
  | cons step steps ih =>
    intro sys pc hadm hlost hcall hrank
    -- it is enough to find the exception later
    have hlater : ∀ {pc'}, (exec ex sys step).2.call i = some (locals, pc') →
        Stale.rank pc' ≤ steps.countP (answers i) →
        ∃ e ∈ trace (exec ex) sys (step :: steps), ∃ reply error,
          e.call = .resume i reply ∧ e.reply = .raised error := by
      intro pc' hcall' hrank'
      obtain ⟨e, he, hrest⟩ := ih hadm.2 (lost_step hadm.1 hlost) hcall' hrank'
      exact ⟨e, List.mem_cons_of_mem _ he, hrest⟩
    by_cases hanswer : answers i step = true
    · obtain ⟨reply, rfl⟩ : ∃ reply, step = .resume i reply := by
        cases step with
        | resume j reply =>
          have hij : j = i := by simpa [answers] using hanswer
          exact ⟨reply, by rw [hij]⟩
        | _ => simp [answers] at hanswer
      rw [List.countP_cons_of_pos hanswer] at hrank
      obtain ⟨_, hcases⟩ := resume_lost reply hlost
      rcases hcases with ⟨hnone, _⟩ | ⟨e, hraised⟩ | ⟨pc₀, pc', hcall₀, _, hcall', hlt⟩
      · rw [hcall] at hnone
        simp at hnone
      · exact ⟨_, List.mem_cons_self, reply, e, rfl, hraised⟩
      · rw [hcall] at hcall₀
        cases hcall₀
        exact hlater hcall' (by omega)
    · rw [List.countP_cons_of_neg hanswer] at hrank
      refine hlater ?_ hrank
      rcases call_step ex sys step i with ⟨hsame, _⟩ | ⟨m, hruns, _⟩
      · rw [hsame, hcall]
      · -- the only segments of `i` here would be a new call or an answer
        cases hruns with
        | start hidle => exact absurd rfl (hadm.1.2 _ _ _ _)
        | resume hcall₀ => simp [answers] at hanswer

/-- A stale worker writes nothing. In any run of the system, executor `i` is in
the middle of `execute_once` when a step of anybody else takes its task away.
Whatever happens next, as long as the executor does not begin another call: no
answer of its adapter makes the call change a run, an attempt, an event list or a
task, the call does not return, and three answers at most make it raise. -/
theorem stale_worker_writes_nothing (ex : ι → WorkerExecutor) (pre post : List (Step ι))
    (loss : Step ι) (i : ι) (locals : Locals) (pc : Pc)
    (hadm : Admitted (exec ex) FreshStep .init (pre ++ loss :: post))
    (hcall : (final (exec ex) .init pre).call i = some (locals, pc))
    (hother : ∀ reply, loss ≠ .resume i reply)
    (hlost : LeaseLost ex locals.leased.taskId (entry (exec ex) (final (exec ex) .init pre) loss))
    (hown : ∀ now reapNow queue n, Step.start i now reapNow queue n ∉ post) :
    (∀ e ∈ trace (exec ex) (final (exec ex) .init (pre ++ [loss])) post, ∀ reply,
        e.call = .resume i reply →
        e.after.stores = e.before.stores ∧ ∀ result, e.reply ≠ .returned result) ∧
      (3 ≤ post.countP (answers i) →
        ∃ e ∈ trace (exec ex) (final (exec ex) .init (pre ++ [loss])) post, ∃ reply error,
          e.call = .resume i reply ∧ e.reply = .raised error) := by
  obtain ⟨hpre, hfresh, hpost⟩ := (admitted_append (exec ex) _ _ _).mp hadm
  have hinv := inv_final ex hpre
  have hsys : final (exec ex) .init (pre ++ [loss]) =
      (exec ex (final (exec ex) .init pre) loss).2 := final_append _ _ _ _
  rw [hsys]
  -- the step of somebody else leaves the executor where it waits
  have hstill : (exec ex (final (exec ex) .init pre) loss).2.call i = some (locals, pc) := by
    rcases call_step ex (final (exec ex) .init pre) loss i with ⟨hsame, _⟩ | ⟨m, hruns, _⟩
    · rw [hsame, hcall]
    · cases hruns with
      | start hidle => simp [hcall] at hidle
      | resume hcall₀ => exact absurd rfl (hother _)
  have hlost' : Lost ex i locals (exec ex (final (exec ex) .init pre) loss).2 := by
    refine ⟨inv_step ex hfresh hinv, ?_, gone_of_leaseLost ex hfresh hinv hcall hlost⟩
    intro locals' pc' hcall'
    rw [hstill] at hcall'
    cases hcall'
    rfl
  have hpost' : Admitted (exec ex) (Bystands i) (exec ex (final (exec ex) .init pre) loss).2 post :=
    hpost.and fun step hmem now reapNow queue n heq => hown now reapNow queue n (heq ▸ hmem)
  refine ⟨quiet_after_loss hpost' hlost', ?_⟩
  intro hcount
  refine raises_after_loss hpost' hlost' hstill (Nat.le_trans ?_ hcount)
  cases pc <;> simp [Stale.rank]

/-- Two executors of the same worker id. -/
def twins : Bool → WorkerExecutor := fun _ =>
  { workerId := "worker"
    adapters := fun _ => some {}
    agentSpecs := fun _ => some { adapter := "echo", runtimeConfig := [] }
    float := fun _ => .ok true }

/-- A run and its task are created, and the first executor starts on it. -/
def beforeLoss : List (Step Bool) :=
  [.others
      { InMemoryRunStore.init with
        runs := Dict.empty.set 1
          { runId := 1
            tenantId := 1
            projectId := 1
            agentId := 1
            agentVersionId := 1
            deploymentId := none
            inputData := [] } }
      {},
    .call (.enqueue 0 { runId := some 1, inputData := some (.dict []) }),
    .start true 1 1 "default" 1]

/-- The adapter of the first executor answers after the second took the task. -/
def afterLoss : List (Step Bool) :=
  [.resume true .agent, .resume true (.result { output := [] }), .resume true .agent]

theorem stale_worker_writes_nothing_twins : ∃ e ∈ trace (exec twins) (final (exec twins) .init
          (beforeLoss ++ [.start false 5000000 5000000 "default" 1])) afterLoss,
      ∃ reply error, e.call = .resume true reply ∧ e.reply = .raised error := by
  have hwaits : ((final (exec twins) .init beforeLoss).call true).map
      (fun suspended => suspended.1.leased.taskId) = some 1 := by decide
  obtain ⟨⟨locals, pc⟩, hcall, hid⟩ := Option.map_eq_some_iff.mp hwaits
  have hlost : Leases twins locals.leased.taskId (final (exec twins) .init beforeLoss)
      (.start false 5000000 5000000 "default" 1) := by
    rw [hid]
    exact ⟨rfl, _, _, rfl, rfl⟩
  refine (stale_worker_writes_nothing twins beforeLoss afterLoss
    (.start false 5000000 5000000 "default" 1) true locals pc ?_ hcall ?_ (Or.inr hlost) ?_).2
    (by decide)
  · refine ⟨trivial, ?_, trivial, trivial, trivial, trivial, trivial, trivial⟩
    intro taskId h
    simp at h
  · simp
  · simp [afterLoss]

end System

end DimooRun.Worker
