/-
  Foundation/Trace.lean --- runs of a deterministic call interface.

  A store is driven by calls: `exec s c` is the reply to call `c` in state `s`
  and the state it leaves. A run is a list of calls; its trace records, call by
  call, the states around it and the reply. A property of whole runs is proved
  with `history_induction`: find a relation between the trace so far and the
  present state, show it of the empty trace, and show that one more call keeps
  it.
-/
import Mathlib.Data.List.Basic

set_option autoImplicit false

namespace DimooRun.Foundation

/-- One call of a run, with the states around it. -/
structure Entry (σ ι ρ : Type) where
  before : σ
  call : ι
  reply : ρ
  after : σ

section

variable {σ ι ρ : Type} (exec : σ → ι → ρ × σ)

/-- The record of one call. -/
def entry (s : σ) (c : ι) : Entry σ ι ρ :=
  { before := s, call := c, reply := (exec s c).1, after := (exec s c).2 }

/-- The state after a list of calls. -/
def final : σ → List ι → σ
  | s, [] => s
  | s, c :: cs => final (exec s c).2 cs

/-- The records of a list of calls, oldest first. -/
def trace : σ → List ι → List (Entry σ ι ρ)
  | _, [] => []
  | s, c :: cs => entry exec s c :: trace (exec s c).2 cs

/-- Every call of the list is admitted in the state it is made in. -/
def Admitted (adm : σ → ι → Prop) : σ → List ι → Prop
  | _, [] => True
  | s, c :: cs => adm s c ∧ Admitted adm (exec s c).2 cs

variable (cs : List ι) (s : σ)

@[simp] theorem final_nil : final exec s [] = s := rfl

@[simp] theorem final_cons (c : ι) (cs : List ι) :
    final exec s (c :: cs) = final exec (exec s c).2 cs := rfl

theorem final_append (cs ds : List ι) :
    final exec s (cs ++ ds) = final exec (final exec s cs) ds := by
  induction cs generalizing s with
  | nil => rfl
  | cons c cs ih => exact ih (exec s c).2

variable {adm : σ → ι → Prop} {I : σ → Prop} {e : Entry σ ι ρ}

theorem admitted_append (cs ds : List ι) : Admitted exec adm s (cs ++ ds) ↔
      Admitted exec adm s cs ∧ Admitted exec adm (final exec s cs) ds := by
  induction cs generalizing s with
  | nil => simp [Admitted]
  | cons c cs ih => simp only [List.cons_append, Admitted, ih, final_cons, and_assoc]

theorem Admitted.and {p : ι → Prop} {exec : σ → ι → ρ × σ} {s : σ} {cs : List ι}
    (h : Admitted exec adm s cs) (hall : ∀ c ∈ cs, p c) :
    Admitted exec (fun s c => adm s c ∧ p c) s cs := by
  induction cs generalizing s with
  | nil => trivial
  | cons c cs ih =>
    obtain ⟨hc, hcs⟩ := List.forall_mem_cons.mp hall
    exact ⟨⟨h.1, hc⟩, ih h.2 hcs⟩

/-- Induction over a run that starts after a given history: a relation between
the trace so far and the state that one more admitted call keeps holds at the
end of every admitted run. -/
theorem history_induction {J : List (Entry σ ι ρ) → σ → Prop}
    (hstep : ∀ tr s c, adm s c → J tr s → J (tr ++ [entry exec s c]) (exec s c).2) (cs : List ι) :
    ∀ (tr : List (Entry σ ι ρ)) (s : σ), J tr s → Admitted exec adm s cs →
      J (tr ++ trace exec s cs) (final exec s cs) := by
  induction cs with
  | nil =>
    intro tr s hJ _
    simpa [trace] using hJ
  | cons c cs ih =>
    intro tr s hJ hadm
    have hnext := ih (tr ++ [entry exec s c]) (exec s c).2 (hstep tr s c hadm.1 hJ) hadm.2
    simpa [trace] using hnext

/-- An invariant that every admitted call keeps holds after every admitted run. -/
theorem invariant_final (hstep : ∀ s c, adm s c → I s → I (exec s c).2) (cs : List ι) (s : σ)
    (hI : I s) (hadm : Admitted exec adm s cs) : I (final exec s cs) :=
  history_induction exec (J := fun _ s => I s) (fun _ s c h hI => hstep s c h hI) cs [] s hI hadm

/-- Under an invariant that every admitted call keeps, what holds of every admitted call
holds of every record of an admitted run. -/
theorem forall_mem_trace {P : Entry σ ι ρ → Prop}
    (hstep : ∀ s c, adm s c → I s → P (entry exec s c) ∧ I (exec s c).2) (cs : List ι) :
    ∀ s, I s → Admitted exec adm s cs → ∀ e ∈ trace exec s cs, P e := by
  induction cs with
  | nil =>
    intro s _ _ e he
    cases he
  | cons c cs ih =>
    intro s hI hadm e he
    obtain ⟨hP, hI'⟩ := hstep s c hadm.1 hI
    rcases List.mem_cons.mp he with rfl | hrest
    · exact hP
    · exact ih (exec s c).2 hI' hadm.2 e hrest

/-- What admits a call is a property of its record. -/
theorem admitted_iff_forall_mem_trace :
    Admitted exec adm s cs ↔ ∀ e ∈ trace exec s cs, adm e.before e.call := by
  induction cs generalizing s with
  | nil => simp [Admitted, trace]
  | cons c cs ih => simp [Admitted, trace, ih, entry]

/-- Under an invariant that every admitted call keeps, a property of records that each call has
if and only if it is admitted holds of all records if and only if all calls are admitted. -/
theorem forall_mem_trace_iff {P : Entry σ ι ρ → Prop}
    (hstep : ∀ s c, I s → (P (entry exec s c) ↔ adm s c) ∧ (adm s c → I (exec s c).2))
    (cs : List ι) : ∀ s, I s → ((∀ e ∈ trace exec s cs, P e) ↔
      ∀ e ∈ trace exec s cs, adm e.before e.call) := by
  induction cs with
  | nil => simp [trace]
  | cons c cs ih =>
    intro s hI
    obtain ⟨hiff, hkeep⟩ := hstep s c hI
    simp only [trace, List.forall_mem_cons, hiff]
    exact and_congr_right fun hadm => ih (exec s c).2 (hkeep hadm)

/-- A record of a run is the record of a call after the calls before it. -/
theorem exists_of_mem_trace (he : e ∈ trace exec s cs) : ∃ earlier c later,
    cs = earlier ++ c :: later ∧ e = entry exec (final exec s earlier) c := by
  induction cs generalizing s with
  | nil => cases he
  | cons c cs ih =>
    rcases List.mem_cons.mp he with rfl | hrest
    · exact ⟨[], c, cs, rfl, rfl⟩
    · obtain ⟨earlier, d, later, rfl, rfl⟩ := ih (exec s c).2 hrest
      exact ⟨c :: earlier, d, later, rfl, rfl⟩

theorem eq_entry_of_mem_trace (he : e ∈ trace exec s cs) : e = entry exec e.before e.call := by
  obtain ⟨_, _, _, _, rfl⟩ := exists_of_mem_trace exec cs s he
  rfl

theorem reply_of_mem_trace (he : e ∈ trace exec s cs) : e.reply = (exec e.before e.call).1 := by
  rw [eq_entry_of_mem_trace exec cs s he]
  rfl

@[simp] theorem map_call_trace : (trace exec s cs).map Entry.call = cs := by
  induction cs generalizing s with
  | nil => rfl
  | cons c cs ih => exact congrArg (c :: ·) (ih (exec s c).2)

/-- A run in which every call is admitted anyway. -/
theorem admitted_true : Admitted exec (fun _ _ => True) s cs := by
  induction cs generalizing s with
  | nil => trivial
  | cons c cs ih => exact ⟨trivial, ih (exec s c).2⟩

end

end DimooRun.Foundation
