/-
  Scheduler/InMemoryFencing.lean --- fencing safety of the in-memory backend.

  The history of a run says who holds a task and which token is the newest: a
  grant makes its worker the holder and hands out a token; a call that puts a
  leased or running task back to the queue leaves it without holder. Nothing of
  that mentions the fields `worker_id` and `fencing_token`. The central result,
  `view_final`, is that the two fields are exactly this history; the abstract
  lease of `Foundation/Fencing.lean` is what the backend implements for each task.
-/
import DimooRun.Scheduler.InMemoryCalls

set_option autoImplicit false

namespace DimooRun.Scheduler

open Foundation Foundation.Fencing DimooRun.Runtime

namespace InMemoryTaskBackend

/-- One recorded call. -/
abbrev Record : Type := Entry InMemoryTaskBackend Call (Except TaskError Reply)

/-! ## The history of a task -/

section

variable (id : Int) (tr : List Record)

/-- The call put the leased or running task `id` back to the queue. -/
def PutBack (e : Record) : Prop :=
  ∃ t t', e.before.tasks.get? id = some t ∧ e.after.tasks.get? id = some t' ∧
    (t.status = .leased ∨ t.status = .running) ∧ t'.status = .queued

instance (id : Int) (e : Record) : Decidable (PutBack id e) :=
  match h : e.before.tasks.get? id, h' : e.after.tasks.get? id with
  | some t, some t' =>
      decidable_of_iff ((t.status = .leased ∨ t.status = .running) ∧ t'.status = .queued)
        (by simp [PutBack, h, h'])
  | none, _ => .isFalse (by simp [PutBack, h])
  | some _, none => .isFalse (by simp [PutBack, h'])

/-- What a call does to the lease of task `id`. -/
def actionOf (e : Record) : Action String :=
  match leaseOf id e with
  | some (w, _) => .grant w
  | none => if PutBack id e then .revoke else .keep

/-- The tokens handed out for task `id`, oldest first. -/
def leaseTokens : List Int :=
  tr.filterMap fun e => (leaseOf id e).map Prod.snd

/-- The current holder of task `id` after a history: the worker of the newest
lease, unless the task was put back to the queue since. -/
def holder : Option String :=
  tr.foldl
    (fun h e =>
      match leaseOf id e with
      | some (w, _) => some w
      | none => if PutBack id e then none else h)
    none

/-- The call is a `complete` of task `id`, and returned. -/
def Completes (e : Record) : Bool :=
  match e.call, e.reply with
  | .complete taskId _ _, .ok _ => taskId = id
  | _, _ => false

/-- The calls of `complete` on task `id` that returned. -/
def completions : Nat :=
  tr.countP (Completes id)

end

/-! ## The lease fields are the history -/

/-- The lease fields of a task. -/
def view (t : InMemoryTask) : Lease String := { holder := t.workerId, token := t.fencingToken }

/-- The lease fields of a stored task, or a fresh lease for an id not in use. -/
def viewOf (b : InMemoryTaskBackend) (id : Int) : Lease String :=
  match b.tasks.get? id with
  | none => .fresh
  | some t => view t

variable {t t' : InMemoryTask} {b : InMemoryTaskBackend} {c : Call} {tr : List Record}
  {calls : List Call} {id k : Int} {w : String}

/-- A change that is no grant either puts a held task back, or keeps its lease. -/
theorem view_change (h : Change t t') : view t' =
      if (t.status = .leased ∨ t.status = .running) ∧ t'.status = .queued then
        (view t).act .revoke
      else view t := by
  cases h with
  | reap h => simp [view, Lease.act, h]
  | heartbeat now leasedUntil w h =>
    rw [if_neg]
    · rfl
    · rintro ⟨hs | hs, hs'⟩ <;> simp [hs] at hs'
  | retry error h hmore => simp [view, Lease.act, h]
  | _ => simp [view]

/-- One call acts on every task's lease as its record says. -/
theorem viewOf_exec (hwf : b.WellFormed) (hfresh : b.FreshId c) (id : Int) :
    viewOf (exec b c).2 id = (viewOf b id).act (actionOf id (entry exec b c)) := by
  cases h : b.tasks.get? id with
  | none =>
    obtain ⟨hlease, hafter⟩ := exec_absent (c := c) hwf h
    have hkeep : ¬ PutBack id (entry exec b c) := by
      rintro ⟨t, _, ht, _⟩
      rw [show (entry exec b c).before = b from rfl, h] at ht
      simp at ht
    simp only [actionOf, hlease, if_neg hkeep, Lease.act]
    rcases hafter with hnone | ⟨runId, now, task, hnew, _⟩
    · simp only [viewOf, h, hnone]
    · simp only [viewOf, h, hnew]
      rfl
  | some t =>
    obtain ⟨t', ht', heffect⟩ := exec_stored hwf hfresh h
    have hput : PutBack id (entry exec b c) ↔
        (t.status = .leased ∨ t.status = .running) ∧ t'.status = .queued := by
      simp [PutBack, entry, h, ht']
    have hview : viewOf (exec b c).2 id = view t' := by simp only [viewOf, ht']
    have hview₀ : viewOf b id = view t := by simp only [viewOf, h]
    rw [hview, hview₀]
    rcases heffect with ⟨hlease, hchange⟩ | ⟨m, w, _, _, _, _, htoken, rfl, hlease⟩
    · simp only [actionOf, hlease, hput]
      rcases hchange with rfl | hchange
      · rw [if_neg]
        · rfl
        · rintro ⟨hs | hs, hs'⟩ <;> simp [hs] at hs'
      · rw [view_change hchange]
        split <;> rfl
    · simp only [actionOf, hlease, Lease.act, view, InMemoryTask.granted, htoken]

/-- The tokens a record hands out are those of its action. -/
theorem leaseTokens_exec (hwf : b.WellFormed) (hfresh : b.FreshId c) (id : Int) :
    leaseTokens id [entry exec b c] = (viewOf b id).granted [actionOf id (entry exec b c)] := by
  cases h : b.tasks.get? id with
  | none =>
    obtain ⟨hlease, _⟩ := exec_absent (c := c) hwf h
    simp only [leaseTokens, List.filterMap_cons, hlease, Option.map_none, actionOf]
    split <;> rfl
  | some t =>
    obtain ⟨t', ht', heffect⟩ := exec_stored hwf hfresh h
    rcases heffect with ⟨hlease, _⟩ | ⟨m, w, _, _, _, _, htoken, rfl, hlease⟩
    · simp only [leaseTokens, List.filterMap_cons, hlease, Option.map_none, actionOf]
      split <;> rfl
    · simp only [leaseTokens, List.filterMap_cons, hlease, Option.map_some, List.filterMap_nil,
        actionOf, viewOf, h, view, Lease.granted, InMemoryTask.granted, htoken]

/-- The relation between the history and the stored state of every task. -/
structure Tracks (tr : List Record) (b : InMemoryTaskBackend) : Prop where
  wellFormed : b.WellFormed
  view_eq : ∀ id, viewOf b id = Lease.fresh.run (tr.map (actionOf id))
  tokens_eq : ∀ id, leaseTokens id tr = Lease.fresh.granted (tr.map (actionOf id))

theorem tracks_init : Tracks [] .init where
  wellFormed := wellFormed_init
  view_eq := by
    intro id
    rfl
  tokens_eq := by
    intro id
    rfl

theorem tracks_exec (hfresh : b.FreshId c) (h : Tracks tr b) :
    Tracks (tr ++ [entry exec b c]) (exec b c).2 where
  wellFormed := wellFormed_exec h.wellFormed hfresh
  view_eq := by
    intro id
    rw [List.map_append, Lease.run_append, ← h.view_eq id]
    exact viewOf_exec h.wellFormed hfresh id
  tokens_eq := by
    intro id
    have hsplit : leaseTokens id (tr ++ [entry exec b c]) =
        leaseTokens id tr ++ leaseTokens id [entry exec b c] := List.filterMap_append
    rw [hsplit, List.map_append, Lease.granted_append, ← h.view_eq id, h.tokens_eq id,
      leaseTokens_exec h.wellFormed hfresh id]
    rfl

theorem tracks_final (hids : Admitted exec FreshId .init calls) :
    Tracks (trace exec .init calls) (final exec .init calls) :=
  history_induction exec (J := Tracks) (fun _ _ _ hfresh h => tracks_exec hfresh h)
    calls [] .init tracks_init hids

theorem holder_eq_run (id : Int) (tr : List Record) :
    holder id tr = (Lease.fresh.run (tr.map (actionOf id))).holder := by
  have key : ∀ (l : Lease String) (tr : List Record),
      tr.foldl
          (fun h e =>
            match leaseOf id e with
            | some (w, _) => some w
            | none => if PutBack id e then none else h)
          l.holder =
        (l.run (tr.map (actionOf id))).holder := by
    intro l tr
    induction tr generalizing l with
    | nil => rfl
    | cons e tr ih =>
      rw [List.map_cons, Lease.run, ← ih (l.act (actionOf id e)), List.foldl_cons]
      unfold actionOf
      cases leaseOf id e with
      | some lease => rfl
      | none =>
        rcases Decidable.em (PutBack id e) with h | h
        · simp only [if_pos h]
          rfl
        · simp only [if_neg h]
          rfl
  exact key Lease.fresh tr

/-- After every run, the lease fields of a task are its history. -/
theorem view_final (hids : Admitted exec FreshId .init calls)
    (h : (final exec .init calls).tasks.get? id = some t) :
    t.workerId = holder id (trace exec .init calls) ∧
      t.fencingToken = (leaseTokens id (trace exec .init calls)).getLastD 0 := by
  have htracks := tracks_final hids
  have hview : view t = Lease.fresh.run ((trace exec .init calls).map (actionOf id)) := by
    rw [← htracks.view_eq id]
    simp only [viewOf, h]
  constructor
  · rw [holder_eq_run, ← hview]
    rfl
  · rw [htracks.tokens_eq id]
    exact (congrArg Lease.token hview).trans (Lease.token_run _ _)

/-! ## Stale callers -/

/-- A fenced write: the three calls that carry a worker and a token. -/
inductive Fenced (id : Int) (w : String) (k : Int) : Call → Prop where
  | markRunning : Fenced id w k (.markRunning id w k)
  | complete : Fenced id w k (.complete id w k)
  | fail (error : PyDict) : Fenced id w k (.fail id w k error)

/-- A fenced write that does not carry the stored worker and token raises and
changes nothing. -/
theorem fenced_raises (hc : Fenced id w k c)
    (hstale : ∀ t, b.tasks.get? id = some t → t.fencingToken ≠ k ∨ t.workerId ≠ some w) :
    (∃ error, (exec b c).1 = .error error) ∧ (exec b c).2 = b := by
  have key : ∀ {α : Type} (act : TaskM α),
      (∀ t, t.fencingToken ≠ k ∨ t.workerId ≠ some w → ∃ error, act.run t = .error error t) →
      ∃ error, (withTask id act).run b = .error error b := by
    intro α act hact
    cases h : b.tasks.get? id with
    | none => exact ⟨_, run_withTask_of_none act h⟩
    | some t =>
      obtain ⟨error, hrun⟩ := hact t (hstale t h)
      exact ⟨error, run_withTask_of_error h hrun⟩
  -- whichever of the two checks comes first, one of them refuses
  suffices ∃ error, (method c).run b = .error error b by
    obtain ⟨error, hrun⟩ := this
    simp only [exec, hrun, endState_error]
    exact ⟨⟨error, rfl⟩, trivial⟩
  cases hc with
  | markRunning =>
    obtain ⟨error, hrun⟩ := key (InMemoryTask.markRunning w k) (by
      intro t ht
      rw [InMemoryTask.run_markRunning]
      split_ifs with hw hk
      exacts [⟨_, rfl⟩, ⟨_, rfl⟩, (ht.elim hk hw).elim, (ht.elim hk hw).elim])
    exact ⟨error, run_bind_of_error hrun⟩
  | complete =>
    obtain ⟨error, hrun⟩ := key (InMemoryTask.complete w k) (by
      intro t ht
      rw [InMemoryTask.run_complete]
      split_ifs with hk hw
      exacts [⟨_, rfl⟩, ⟨_, rfl⟩, (ht.elim hk hw).elim, (ht.elim hk hw).elim])
    exact ⟨error, run_bind_of_error hrun⟩
  | fail error' =>
    obtain ⟨error, hrun⟩ := key (InMemoryTask.fail w k error') (by
      intro t ht
      rw [InMemoryTask.run_fail]
      split_ifs with hk hw
      exacts [⟨_, rfl⟩, ⟨_, rfl⟩, (ht.elim hk hw).elim, (ht.elim hk hw).elim, (ht.elim hk hw).elim])
    exact ⟨error, run_bind_of_error (run_bind_of_error hrun)⟩

/-- A caller that is not the holder of the newest lease, by the history, is stale
by the stored fields. -/
theorem stale_of_history (hids : Admitted exec FreshId .init calls)
    (hstale : (leaseTokens id (trace exec .init calls)).getLast? ≠ some k ∨
      holder id (trace exec .init calls) ≠ some w) :
    ∀ t, (final exec .init calls).tasks.get? id = some t →
      t.fencingToken ≠ k ∨ t.workerId ≠ some w := by
  intro t ht
  obtain ⟨hworker, htoken⟩ := view_final hids ht
  rcases hstale with hk | hw
  · cases htokens : leaseTokens id (trace exec .init calls) with
    | nil =>
      -- a task never leased has token 0, but then it has no holder either
      have hgranted := (tracks_final hids).tokens_eq id
      rw [htokens] at hgranted
      rw [hworker, holder_eq_run, Lease.holder_run_of_granted_eq_nil rfl hgranted.symm]
      simp
    | cons k₀ rest =>
      left
      rw [htokens] at htoken hk
      rw [htoken]
      intro heq
      apply hk
      rw [← heq, List.getLastD_eq_getLast?, List.getLast?_eq_some_getLast (List.cons_ne_nil _ _)]
      rfl
  · right
    rw [hworker]
    exact hw

/-! ## Final statuses -/

theorem Effect.of_final {e : Record} (h : Effect id e t t') (hfinal : t.status.Final) :
    t'.status = t.status ∧ t'.attempt = t.attempt := by
  have hchange : ∀ {m : InMemoryTask}, Change t m →
      m.status = t.status ∧ m.attempt = t.attempt := by
    intro m hm
    rw [TaskStatus.final_iff] at hfinal
    cases hm with
    | heartbeat now leasedUntil w h => exact ⟨rfl, rfl⟩
    | reap h | deadLetter error h hlast | retry error h hmore =>
      rcases h with h | h <;> simp [h] at hfinal
    | markRunning h | complete h => simp [h] at hfinal
    | cancel h => rcases h with h | h | h <;> simp [h] at hfinal
  rcases h with ⟨_, rfl | h⟩ | ⟨m, w, _, _, hm, hqueued, _, _, _⟩
  · exact ⟨rfl, rfl⟩
  · exact hchange h
  · -- a task that could be granted was queued, which is not final
    have hstatus : m.status = t.status := by
      rcases hm with rfl | hm
      · rfl
      · exact (hchange hm).1
    rw [← hstatus, hqueued, TaskStatus.final_iff] at hfinal
    simp at hfinal

/-- Once a task is in a final status, its status and attempt are frozen. -/
theorem frozen_final : ∀ {b : InMemoryTaskBackend}, b.WellFormed → Admitted exec FreshId b calls →
      ∀ {id : Int} {t : InMemoryTask}, b.tasks.get? id = some t → t.status.Final →
        ∃ t', (final exec b calls).tasks.get? id = some t' ∧ t'.status = t.status ∧
          t'.attempt = t.attempt := by
  induction calls with
  | nil =>
    intro b _ _ id t ht _
    exact ⟨t, ht, rfl, rfl⟩
  | cons c calls ih =>
    intro b hwf hadm id t ht hfinal
    obtain ⟨t₁, ht₁, heffect⟩ := exec_stored hwf hadm.1 ht
    obtain ⟨hstatus₁, hattempt₁⟩ := heffect.of_final hfinal
    obtain ⟨t', ht', hstatus, hattempt⟩ :=
      ih (wellFormed_exec hwf hadm.1) hadm.2 ht₁ (hstatus₁ ▸ hfinal)
    exact ⟨t', ht', hstatus.trans hstatus₁, hattempt.trans hattempt₁⟩

/-! ## Completions -/

/-- A call that completes a task found it running and leaves it succeeded. -/
theorem status_of_completes (h : Completes id (entry exec b c) = true) :
    ∃ t t', b.tasks.get? id = some t ∧ t.status = .running ∧
      (exec b c).2.tasks.get? id = some t' ∧ t'.status = .succeeded := by
  cases c with
  | complete id₀ w k =>
    simp only [Completes, entry, exec, method, complete, EStateM.run_bind] at h
    cases hget : b.tasks.get? id₀ with
    | none =>
      rw [run_withTask_of_none _ hget] at h
      simp at h
    | some t =>
      rw [run_withTask_of_some _ hget, InMemoryTask.run_complete] at h
      split_ifs at h with hk hw hs
      · cases h
      · cases h
      · obtain rfl : id₀ = id := of_decide_eq_true h
        refine ⟨t, { t with status := .succeeded }, hget, hs, ?_, rfl⟩
        simp only [exec, method, complete, bind_pure_comp, endState_run_map,
          run_withTask_of_some _ hget, InMemoryTask.run_complete, if_neg hk, if_neg hw,
          if_pos hs, endState_ok, Dict.get?_set_self]
      · cases h
  | _ => simp [Completes, entry] at h

/-- A task was completed at most once, and never unless it is succeeded. -/
def CompletedOnce (tr : List Record) (b : InMemoryTaskBackend) : Prop :=
  b.WellFormed ∧
    ∀ id, completions id tr ≤ 1 ∧
      (completions id tr = 1 → ∃ t, b.tasks.get? id = some t ∧ t.status = .succeeded)

theorem completedOnce_exec (hfresh : b.FreshId c) (h : CompletedOnce tr b) :
    CompletedOnce (tr ++ [entry exec b c]) (exec b c).2 := by
  obtain ⟨hwf, hone⟩ := h
  refine ⟨wellFormed_exec hwf hfresh, ?_⟩
  intro id
  obtain ⟨hle, hsucceeded⟩ := hone id
  have hcount : completions id (tr ++ [entry exec b c]) =
      completions id tr + if Completes id (entry exec b c) then 1 else 0 := by
    unfold completions
    rw [List.countP_append, List.countP_singleton]
  rw [hcount]
  by_cases hc : Completes id (entry exec b c) = true
  · obtain ⟨t, t', ht, hrunning, ht', hdone⟩ := status_of_completes hc
    have hzero : completions id tr = 0 := by
      rcases Nat.lt_or_ge (completions id tr) 1 with hlt | hge
      · omega
      · obtain ⟨t₀, ht₀, hs₀⟩ := hsucceeded (by omega)
        rw [ht] at ht₀
        cases ht₀
        rw [hrunning] at hs₀
        simp at hs₀
    simp only [hc, if_true]
    exact ⟨by omega, fun _ => ⟨t', ht', hdone⟩⟩
  · simp only [hc, Bool.false_eq_true, if_false, Nat.add_zero]
    refine ⟨hle, ?_⟩
    intro hone'
    obtain ⟨t, ht, hs⟩ := hsucceeded hone'
    obtain ⟨t', ht', heffect⟩ := exec_stored hwf hfresh ht
    have hfinal : t.status.Final := by rw [hs]; decide
    exact ⟨t', ht', (heffect.of_final hfinal).1.trans hs⟩

theorem completedOnce_final (hids : Admitted exec FreshId .init calls) :
    CompletedOnce (trace exec .init calls) (final exec .init calls) := by
  refine history_induction exec (J := CompletedOnce)
    (fun _ _ _ hfresh h => completedOnce_exec hfresh h) calls [] .init ?_ hids
  exact ⟨wellFormed_init, fun id => ⟨Nat.zero_le _, fun h => absurd h Nat.zero_ne_one⟩⟩

/-! ## Fencing safety -/

/-- A call never lowers a token; a grant raises it, and hands out the new one. -/
theorem token_exec (hwf : b.WellFormed) (hfresh : b.FreshId c) (h : b.tasks.get? id = some t) :
    ∃ t', (exec b c).2.tasks.get? id = some t' ∧ t.fencingToken ≤ t'.fencingToken ∧
      ∀ w k, leaseOf id (entry exec b c) = some (w, k) →
        t.fencingToken < t'.fencingToken ∧ k = t'.fencingToken := by
  obtain ⟨t', ht', heffect⟩ := exec_stored hwf hfresh h
  refine ⟨t', ht', ?_, ?_⟩
  · have hact := viewOf_exec hwf hfresh id
    simp only [viewOf, h, ht'] at hact
    have hle := (view t).token_le_act (actionOf id (entry exec b c))
    rw [← hact] at hle
    exact hle
  · intro w k hlease
    rcases heffect with ⟨hnone, _⟩ | ⟨m, w', _, _, _, _, htoken, rfl, hsome⟩
    · rw [hnone] at hlease
      simp at hlease
    · rw [hsome] at hlease
      cases hlease
      refine ⟨?_, rfl⟩
      show t.fencingToken < m.fencingToken + 1
      omega

/-- Fencing safety, for every sequence of calls that does not enqueue an id twice
and every task id. Tokens never decrease, and the leases of a task hand out
strictly increasing ones. A fenced write that carries another token than the
newest lease's, or another worker than the holder, raises and changes nothing. A
task is completed at most once, and a final status stays, with the attempt. -/
theorem fencing_safety (calls : List Call) (hids : Admitted exec FreshId .init calls) (id : Int) :
    (∀ pre c post t, calls = pre ++ c :: post → (final exec .init pre).tasks.get? id = some t →
        ∃ t', (final exec .init (pre ++ [c])).tasks.get? id = some t' ∧
          t.fencingToken ≤ t'.fencingToken ∧
          ∀ w k, leaseOf id (entry exec (final exec .init pre) c) = some (w, k) →
            t.fencingToken < t'.fencingToken ∧ k = t'.fencingToken) ∧
      (leaseTokens id (trace exec .init calls)).Pairwise (· < ·) ∧
      (∀ pre c post w k, calls = pre ++ c :: post → Fenced id w k c →
        ((leaseTokens id (trace exec .init pre)).getLast? ≠ some k ∨
          holder id (trace exec .init pre) ≠ some w) →
        (∃ error, (exec (final exec .init pre) c).1 = .error error) ∧
          final exec .init (pre ++ [c]) = final exec .init pre) ∧
      completions id (trace exec .init calls) ≤ 1 ∧
      (∀ pre post t, calls = pre ++ post →
        (final exec .init pre).tasks.get? id = some t → t.status.Final →
        ∃ t', (final exec .init calls).tasks.get? id = some t' ∧ t'.status = t.status ∧
          t'.attempt = t.attempt) := by
  refine ⟨?_, ?_, ?_, ((completedOnce_final hids).2 id).1, ?_⟩
  · rintro pre c post t rfl ht
    obtain ⟨hpre, hrest⟩ := (admitted_append exec _ _ _).mp hids
    have hstep := token_exec (tracks_final hpre).wellFormed hrest.1 ht
    rw [final_append]
    exact hstep
  · rw [(tracks_final hids).tokens_eq id]
    exact Lease.granted_pairwise _ _
  · rintro pre c post w k rfl hfenced hstale
    obtain ⟨hpre, _⟩ := (admitted_append exec _ _ _).mp hids
    rw [final_append]
    exact fenced_raises hfenced (stale_of_history hpre hstale)
  · rintro pre post t rfl ht hfinal
    obtain ⟨hpre, hpost⟩ := (admitted_append exec _ _ _).mp hids
    rw [final_append]
    exact frozen_final (tracks_final hpre).wellFormed hpost ht hfinal

/-- A lease runs out, the task goes to another worker, and the first one still
tries to complete it. -/
def lateCompletion : List Call :=
  [.enqueue 0 { runId := some 7 },
   .lease 1 1 "default" "w1" 1,
   .markRunning 1 "w1" 1,
   .lease 2000000 2000000 "default" "w2" 1,
   .complete 1 "w1" 1,
   .markRunning 1 "w2" 2,
   .complete 1 "w2" 2]

theorem fencing_safety_lateCompletion : leaseTokens 1 (trace exec .init lateCompletion) = [1, 2] ∧
      completions 1 (trace exec .init lateCompletion) = 1 ∧
      (leaseTokens 1 (trace exec .init lateCompletion)).Pairwise (· < ·) ∧
      final exec .init (lateCompletion.take 5) = final exec .init (lateCompletion.take 4) := by
  have hids : Admitted exec FreshId .init lateCompletion := by
    refine ⟨?_, trivial, trivial, trivial, trivial, trivial, trivial, trivial⟩
    intro taskId h
    simp at h
  have hsafe := fencing_safety lateCompletion hids 1
  refine ⟨by decide, by decide, hsafe.2.1, ?_⟩
  exact (hsafe.2.2.1 (lateCompletion.take 4) (.complete 1 "w1" 1) (lateCompletion.drop 5) "w1" 1
    rfl .complete (by decide)).2

end InMemoryTaskBackend

/-! ## What anybody can do to a lease

A worker that waits does not know which calls the others make meanwhile. This
part says what is left whatever they are: `Evolves` is a preorder that every
call, and so every sequence of calls, moves the backend along. The token of a
task never falls, and while it stands still the owner can only be dropped, never
replaced. A lease that is lost is therefore lost for good (`Gone.evolves`). -/

namespace InMemoryTaskBackend

/-- A well-formed backend in which no queued task has an owner. -/
structure Sound (b : InMemoryTaskBackend) : Prop extends WellFormed b where
  unowned : ∀ id t, b.tasks.get? id = some t → t.status = .queued → t.workerId = none

theorem sound_init : Sound .init where
  toWellFormed := wellFormed_init
  unowned := by
    intro id t h
    simp [init] at h

variable {t t' : InMemoryTask} {id n k : Int} {b b' : InMemoryTaskBackend} {c : Call}
  {now reapNow : Time} {queue w : String} {snapshot : Option TaskSnapshot}

theorem Change.unowned (h : Change t t') (hown : t.status = .queued → t.workerId = none) :
    t'.status = .queued → t'.workerId = none := by
  cases h with
  | reap h => exact fun _ => rfl
  | heartbeat now leasedUntil w h => exact hown
  | retry error h hmore => exact fun _ => rfl
  | _ => exact fun h' => absurd h' (by simp)

theorem Effect.unowned {e : Record} (h : Effect id e t t')
    (hown : t.status = .queued → t.workerId = none) : t'.status = .queued → t'.workerId = none := by
  rcases h with ⟨_, rfl | h⟩ | ⟨m, w, _, _, _, _, _, rfl, _⟩
  · exact hown
  · exact Change.unowned h hown
  · intro h'
    simp [InMemoryTask.granted] at h'

theorem sound_exec (hsound : b.Sound) (hfresh : b.FreshId c) : (exec b c).2.Sound where
  toWellFormed := wellFormed_exec hsound.toWellFormed hfresh
  unowned := by
    intro id t' ht'
    cases h : b.tasks.get? id with
    | none =>
      rcases (exec_absent (c := c) hsound.toWellFormed h).2 with hnone | ⟨_, _, _, hnew, _⟩
      · rw [hnone] at ht'
        simp at ht'
      · rw [hnew] at ht'
        cases ht'
        exact fun _ => rfl
    | some t =>
      obtain ⟨t'', ht'', heffect⟩ := exec_stored hsound.toWellFormed hfresh h
      rw [ht''] at ht'
      cases ht'
      exact heffect.unowned (hsound.unowned id t h)

/-- The states the backend can be in. -/
def Reachable (b : InMemoryTaskBackend) : Prop :=
  ∃ calls, Admitted exec FreshId .init calls ∧ b = final exec .init calls

theorem Reachable.sound (h : b.Reachable) : b.Sound := by
  obtain ⟨calls, hadm, rfl⟩ := h
  exact invariant_final exec (I := Sound) (fun _ _ hfresh hs => sound_exec hs hfresh) calls .init
    sound_init hadm

/-! ## The preorder -/

/-- What a sequence of calls leaves of a lease. -/
structure LeaseLE (t t' : InMemoryTask) : Prop where
  token_le : t.fencingToken ≤ t'.fencingToken
  owner : t'.fencingToken = t.fencingToken → t'.workerId = t.workerId ∨ t'.workerId = none

/-- The second backend can come out of the first by calls of its methods. -/
def Evolves (b b' : InMemoryTaskBackend) : Prop :=
  b.Sound → b'.Sound ∧
    ∀ id t, b.tasks.get? id = some t → ∃ t', b'.tasks.get? id = some t' ∧ LeaseLE t t'

theorem LeaseLE.refl (t : InMemoryTask) : LeaseLE t t where
  token_le := Int.le_refl _
  owner := fun _ => Or.inl rfl

theorem LeaseLE.trans {t'' : InMemoryTask} (h : LeaseLE t t') (h' : LeaseLE t' t'') :
    LeaseLE t t'' where
  token_le := Int.le_trans h.token_le h'.token_le
  owner := by
    intro heq
    have hle := h.token_le
    have hle' := h'.token_le
    -- equal ends force equal tokens in between
    have hmid : t'.fencingToken = t.fencingToken := by omega
    have hmid' : t''.fencingToken = t'.fencingToken := by omega
    rcases h'.owner hmid' with howner' | hnone'
    · rw [howner']
      exact h.owner hmid
    · exact .inr hnone'

instance : Std.Refl Evolves where
  refl _ := fun hsound => ⟨hsound, fun _ t h => ⟨t, h, LeaseLE.refl t⟩⟩

instance : IsTrans InMemoryTaskBackend Evolves where
  trans _ _ _ h h' := by
    intro hsound
    obtain ⟨hsound', hle⟩ := h hsound
    obtain ⟨hsound'', hle'⟩ := h' hsound'
    refine ⟨hsound'', ?_⟩
    intro id t ht
    obtain ⟨t', ht', hmid⟩ := hle id t ht
    obtain ⟨t'', ht'', hmid'⟩ := hle' id t' ht'
    exact ⟨t'', ht'', hmid.trans hmid'⟩

/-- An action on a lease never lowers the token, and keeps or drops the owner
unless it is a grant. -/
theorem leaseLE_of_act {a : Action String} (h : view t' = (view t).act a) : LeaseLE t t' where
  token_le := by
    have hle := (view t).token_le_act a
    rw [← h] at hle
    exact hle
  owner := by
    intro heq
    cases a with
    | grant w =>
      have htoken : t'.fencingToken = t.fencingToken + 1 := congrArg Lease.token h
      omega
    | revoke => exact .inr (congrArg Lease.holder h)
    | keep => exact .inl (congrArg Lease.holder h)

theorem evolves_exec (hfresh : b.FreshId c) : Evolves b (exec b c).2 := by
  intro hsound
  refine ⟨sound_exec hsound hfresh, ?_⟩
  intro id t ht
  obtain ⟨t', ht', _⟩ := exec_stored hsound.toWellFormed hfresh ht
  refine ⟨t', ht', leaseLE_of_act (a := actionOf id (entry exec b c)) ?_⟩
  have hview := viewOf_exec hsound.toWellFormed hfresh id
  simpa only [viewOf, ht, ht'] using hview

/-! ## The methods -/

theorem moves_lease (now reapNow : Time) (queue w : String) (n : Int) :
    Moves Evolves (lease now reapNow queue w n) := by
  intro b
  have h := evolves_exec (b := b) (c := .lease now reapNow queue w n) trivial
  simpa only [exec, method, bind_pure_comp, endState_run_map] using h

theorem sound_lease (hsound : b.Sound)
    (hrun : (lease now reapNow queue w n).run b = .ok snapshot b') : b'.Sound := by
  have hmoves := moves_lease now reapNow queue w n b
  rw [hrun] at hmoves
  exact (hmoves hsound).1

section

variable (id w) (k b)

theorem moves_markRunning : Moves Evolves (markRunning id w k) := by
  intro b
  have h := evolves_exec (b := b) (c := .markRunning id w k) trivial
  simpa only [exec, method, bind_pure_comp, endState_run_map] using h

theorem moves_complete : Moves Evolves (complete id w k) := by
  intro b
  have h := evolves_exec (b := b) (c := .complete id w k) trivial
  simpa only [exec, method, bind_pure_comp, endState_run_map] using h

theorem moves_fail (error : PyDict) : Moves Evolves (fail id w k error) := by
  intro b
  have h := evolves_exec (b := b) (c := .fail id w k error) trivial
  simpa only [exec, method, bind_pure_comp, endState_run_map] using h

/-- A method on a task that only looks at it leaves the backend as it was. -/
theorem endState_withTask_of_reads {α : Type} {act : TaskM α}
    (hact : ∀ t, endState (act.run t) = t) (b : InMemoryTaskBackend) :
    endState ((withTask id act).run b) = b := by
  cases h : b.tasks.get? id with
  | none => rw [run_withTask_of_none act h]; rfl
  | some t => rw [endState_withTask act h, hact t, Dict.set_eq_self h]

theorem endState_assertCanComplete : endState ((assertCanComplete id w k).run b) = b := by
  refine endState_withTask_of_reads id ?_ b
  intro t
  rw [InMemoryTask.run_assertCanComplete]
  split
  · rfl
  · split <;> rfl

theorem endState_willRetry : endState ((willRetry id).run b) = b :=
  endState_withTask_of_reads id (fun _ => rfl) b

end

/-! ## Lost leases -/

/-- The lease of task `id` by worker `w` under token `k` is over: the task has a
newer token, or nobody or somebody else owns it. -/
def Gone (id : Int) (w : String) (k : Int) (b : InMemoryTaskBackend) : Prop :=
  ∃ t, b.tasks.get? id = some t ∧ k ≤ t.fencingToken ∧ (t.fencingToken = k → t.workerId ≠ some w)

/-- A lost lease stays lost. -/
theorem Gone.evolves (hsound : b.Sound) (h : Gone id w k b) (hevolves : Evolves b b') :
    Gone id w k b' := by
  obtain ⟨t, ht, hle, howner⟩ := h
  obtain ⟨t', ht', hlease⟩ := (hevolves hsound).2 id t ht
  have hle' := hlease.token_le
  refine ⟨t', ht', by omega, ?_⟩
  intro heq
  have htoken : t.fencingToken = k := by omega
  rcases hlease.owner (by omega) with hsame | hnone
  · rw [hsame]
    exact howner htoken
  · rw [hnone]
    simp

/-- A task that is back in the queue is nobody's. -/
theorem Gone.of_queued (hsound : b.Sound) (ht : b.tasks.get? id = some t)
    (hqueued : t.status = .queued) (hle : k ≤ t.fencingToken) : Gone id w k b := by
  refine ⟨t, ht, hle, ?_⟩
  rw [hsound.unowned id t ht hqueued]
  simp

/-- A lease raises the token of the task it returns. -/
theorem token_lt_lease {snapshot : TaskSnapshot} (hsound : b.Sound)
    (hrun : (lease now reapNow queue w n).run b = .ok (some snapshot) b') :
    ∃ t t', b.tasks.get? snapshot.taskId = some t ∧ b'.tasks.get? snapshot.taskId = some t' ∧
      t.fencingToken < t'.fencingToken ∧ t'.status = .leased ∧ t'.workerId = some w ∧
      t'.fencingToken = snapshot.fencingToken ∧ t'.runId = snapshot.runId ∧
      t'.attempt = snapshot.attempt ∧ t'.maxAttempts = snapshot.maxAttempts := by
  obtain ⟨mid, _, _, hget, hcases⟩ := run_lease now reapNow queue w n b
  rcases hcases with ⟨_, hnone⟩ | ⟨id, t₀, _, ht₀, _, hsome⟩
  · rw [hnone] at hrun
    simp at hrun
  · rw [hsome] at hrun
    cases hrun
    rw [hget id, Option.map_eq_some_iff] at ht₀
    obtain ⟨t, ht, rfl⟩ := ht₀
    have hid : t.taskId = id := hsound.taskId_eq id t ht
    have hsnap : ((t.reaped reapNow).granted w (now + seconds n) now).snapshot.taskId = id := by
      show (t.reaped reapNow).taskId = id
      rw [InMemoryTask.taskId_reaped, hid]
    rw [hsnap]
    refine ⟨t, _, ht, Dict.get?_set_self _ _ _, ?_, rfl, rfl, rfl, rfl, rfl, rfl⟩
    show t.fencingToken < (t.reaped reapNow).fencingToken + 1
    rw [InMemoryTask.fencingToken_reaped]
    omega

/-- A lease never raises. -/
theorem lease_ok (now reapNow : Time) (queue w : String) (n : Int) (b : InMemoryTaskBackend) :
    ∃ snapshot b', (lease now reapNow queue w n).run b = .ok snapshot b' := by
  obtain ⟨mid, _, _, _, ⟨_, hnone⟩ | ⟨_, _, _, _, _, hsome⟩⟩ := run_lease now reapNow queue w n b
  · exact ⟨_, _, hnone⟩
  · exact ⟨_, _, hsome⟩

/-- What a lease leaves of the tasks it does not return. -/
theorem get?_lease (hsound : b.Sound) (hrun : (lease now reapNow queue w n).run b = .ok snapshot b')
    (ht : b.tasks.get? id = some t) :
    (∃ leased, snapshot = some leased ∧ leased.taskId = id ∧ (t.reaped reapNow).status = .queued) ∨
      ((∀ leased, snapshot = some leased → leased.taskId ≠ id) ∧
        b'.tasks.get? id = some (t.reaped reapNow)) := by
  obtain ⟨mid, _, _, hget, hcases⟩ := run_lease now reapNow queue w n b
  have hmid : mid.tasks.get? id = some (t.reaped reapNow) := by
    rw [hget id, ht]
    rfl
  rcases hcases with ⟨_, hnone⟩ | ⟨id₀, t₀, _, ht₀, hdue, hsome⟩
  · rw [hnone] at hrun
    cases hrun
    exact .inr ⟨by simp, hmid⟩
  · rw [hsome] at hrun
    cases hrun
    have hid₀ : t₀.taskId = id₀ := by
      rw [hget id₀, Option.map_eq_some_iff] at ht₀
      obtain ⟨t₁, ht₁, rfl⟩ := ht₀
      rw [InMemoryTask.taskId_reaped, hsound.taskId_eq id₀ t₁ ht₁]
    by_cases hid : id = id₀
    · subst hid
      rw [hmid] at ht₀
      cases ht₀
      exact .inl ⟨_, rfl, hid₀, hdue.2.1⟩
    · refine .inr ⟨?_, (Dict.get?_set_ne _ _ hid).trans hmid⟩
      intro leased hleased
      cases hleased
      show t₀.taskId ≠ id
      rw [hid₀]
      exact Ne.symm hid

/-- Reaping leaves a final status alone, and makes no other status final. -/
theorem final_reaped (now : Time) (t : InMemoryTask) :
    ((t.reaped now).status.Final ↔ t.status.Final) ∧
      (t.status.Final → (t.reaped now).status = t.status) := by
  unfold InMemoryTask.reaped
  split
  · rename_i hexpired
    have hnot : ¬ t.status.Final := by
      rw [TaskStatus.final_iff]
      rcases hexpired.1 with h | h <;> simp [h]
    have hqueued : ¬ TaskStatus.queued.Final := by decide
    exact ⟨iff_of_false hqueued hnot, fun h => absurd h hnot⟩
  · exact ⟨Iff.rfl, fun _ => rfl⟩

end InMemoryTaskBackend

end DimooRun.Scheduler
