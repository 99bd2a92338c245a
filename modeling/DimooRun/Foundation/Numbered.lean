/-
  Foundation/Numbered.lean --- a log in two copies, merged by the numbers of its entries.

  One copy may have lost entries; an entry that both have is taken from the first. If the
  first has nothing but entries of the second, and the numbers of the second are one to
  `n`, the merged log is the second in the order of the numbers, and the entry with the next
  number goes to its end.
-/
import Mathlib.Data.List.Sort

set_option autoImplicit false

namespace DimooRun.Foundation

section

variable {α : Type} (number : α → Nat)

/-- The entries of both copies, by number. -/
def mergeByNumber (own stored : List α) : List α :=
  (own ++ stored.filter fun entry => !own.any fun mine => number mine == number entry).insertionSort
    fun x y => number x ≤ number y

variable {number}

theorem mem_mergeByNumber {own stored : List α} (hown : ∀ x ∈ own, x ∈ stored)
    (hnodup : (stored.map number).Nodup) (x : α) :
    x ∈ mergeByNumber number own stored ↔ x ∈ stored := by
  unfold mergeByNumber
  rw [List.mem_insertionSort, List.mem_append, List.mem_filter]
  constructor
  · rintro (hmine | ⟨hstored, _⟩)
    · exact hown x hmine
    · exact hstored
  · intro hstored
    by_cases hmine : own.any (fun mine => number mine == number x) = true
    · -- the numbers are distinct, so what has the number of `x` is `x`
      obtain ⟨mine, hmem, hnumber⟩ := List.any_eq_true.mp hmine
      have hsame : mine = x :=
        List.inj_on_of_nodup_map hnodup (hown mine hmem) hstored (by simpa using hnumber)
      exact .inl (hsame ▸ hmem)
    · exact .inr ⟨hstored, by simpa using hmine⟩

theorem nodup_mergeByNumber {own stored : List α} (hown : (own.map number).Nodup)
    (hstored : (stored.map number).Nodup) :
    ((mergeByNumber number own stored).map number).Nodup := by
  unfold mergeByNumber
  rw [((List.perm_insertionSort _ _).map number).nodup_iff, List.map_append, List.nodup_append]
  refine ⟨hown, hstored.sublist (List.filter_sublist.map number), ?_⟩
  intro n hn m hm hsame
  subst hsame
  obtain ⟨mine, hmine, hnumber⟩ := List.mem_map.mp hn
  obtain ⟨entry, hentry, hnumber'⟩ := List.mem_map.mp hm
  have hnone := (List.mem_filter.mp hentry).2
  simp only [Bool.not_eq_true', List.any_eq_false, beq_iff_eq] at hnone
  exact hnone mine hmine (hnumber.trans hnumber'.symm)

theorem pairwise_mergeByNumber (own stored : List α) :
    (mergeByNumber number own stored).Pairwise fun x y => number x ≤ number y :=
  List.pairwise_insertionSort (r := fun x y => number x ≤ number y) _

theorem mem_or_mem_of_mem_mergeByNumber {own stored : List α} {x : α}
    (h : x ∈ mergeByNumber number own stored) : x ∈ own ∨ x ∈ stored := by
  unfold mergeByNumber at h
  rw [List.mem_insertionSort, List.mem_append, List.mem_filter] at h
  exact h.imp_right And.left

/-! ## A table of numbered entries -/

/-- The entries of a table with the numbers one to `n`. -/
def numberedLog (row : Nat → Option α) (n : Nat) : List α := (List.range' 1 n).filterMap row

/-- A table has an entry for each of the numbers one to `n` and no other, under its number. -/
structure NumberedRows (number : α → Nat) (row : Nat → Option α) (n : Nat) : Prop where
  number_eq : ∀ k x, row k = some x → number x = k
  isSome_iff : ∀ k, (row k).isSome ↔ 1 ≤ k ∧ k ≤ n

namespace NumberedRows

variable {row : Nat → Option α} {n : Nat}

section

variable (h : NumberedRows number row n)
include h

theorem mem_numberedLog (x : α) : x ∈ numberedLog row n ↔ row (number x) = some x := by
  unfold numberedLog
  rw [List.mem_filterMap]
  constructor
  · rintro ⟨k, _, hrow⟩
    rw [h.number_eq k x hrow]
    exact hrow
  · intro hrow
    have hbounds := (h.isSome_iff (number x)).mp (by rw [hrow]; rfl)
    exact ⟨number x, List.mem_range'_1.mpr (by omega), hrow⟩

theorem map_number_numberedLog : (numberedLog row n).map number = List.range' 1 n := by
  have hrows : ∀ k ∈ List.range' 1 n, (row k).map number = some k := by
    intro k hk
    obtain ⟨x, hx⟩ := Option.isSome_iff_exists.mp
      ((h.isSome_iff k).mpr (by have := List.mem_range'_1.mp hk; omega))
    rw [hx, Option.map_some, h.number_eq k x hx]
  unfold numberedLog
  rw [List.map_filterMap, List.filterMap_congr hrows, List.filterMap_some]

theorem length_numberedLog : (numberedLog row n).length = n := by
  rw [← List.length_map number, h.map_number_numberedLog, List.length_range']

theorem nodup_numberedLog : ((numberedLog row n).map number).Nodup := by
  rw [h.map_number_numberedLog]
  exact List.nodup_range'

theorem pairwise_numberedLog : (numberedLog row n).Pairwise fun x y => number x ≤ number y := by
  rw [← List.pairwise_map, h.map_number_numberedLog]
  exact List.pairwise_le_range'

/-- Two copies of a table, of which the first may be incomplete, are merged to the table. -/
theorem mergeByNumber_eq {own stored : List α} (hstored : ∀ x, x ∈ stored ↔ row (number x) = some x)
    (hstoredNodup : (stored.map number).Nodup) (hown : ∀ x ∈ own, row (number x) = some x)
    (hownNodup : (own.map number).Nodup) : mergeByNumber number own stored = numberedLog row n := by
  have hmem : ∀ x, x ∈ mergeByNumber number own stored ↔ x ∈ numberedLog row n := by
    intro x
    rw [mem_mergeByNumber (fun y hy => (hstored y).mpr (hown y hy)) hstoredNodup, hstored,
      h.mem_numberedLog]
  have hperm : (mergeByNumber number own stored).Perm (numberedLog row n) := by
    rw [List.perm_ext_iff_of_nodup (nodup_mergeByNumber hownNodup hstoredNodup).of_map
      h.nodup_numberedLog.of_map]
    exact hmem
  refine hperm.eq_of_pairwise ?_ (pairwise_mergeByNumber own stored) h.pairwise_numberedLog
  intro x y hx hy hle hge
  exact List.inj_on_of_nodup_map h.nodup_numberedLog ((hmem x).mp hx) hy (Nat.le_antisymm hle hge)

/-- The next entry goes to the end of the log. -/
theorem append {row' : Nat → Option α} {x : α} (hnumber : number x = n + 1)
    (hnew : row' (n + 1) = some x) (hold : ∀ k, k ≠ n + 1 → row' k = row k) :
    NumberedRows number row' (n + 1) ∧ numberedLog row' (n + 1) = numberedLog row n ++ [x] := by
  refine ⟨⟨?_, ?_⟩, ?_⟩
  · intro k y hk
    by_cases hlast : k = n + 1
    · subst hlast
      rw [← Option.some.inj (hnew.symm.trans hk), hnumber]
    · exact h.number_eq k y ((hold k hlast).symm.trans hk)
  · intro k
    by_cases hlast : k = n + 1
    · subst hlast
      simp [hnew]
    · rw [hold k hlast, h.isSome_iff]
      omega
  · have hrows : ∀ k ∈ List.range' 1 n, row' k = row k := by
      intro k hk
      have := List.mem_range'_1.mp hk
      exact hold k (by omega)
    unfold numberedLog
    rw [List.range'_concat, List.filterMap_append, List.filterMap_congr hrows]
    simp [Nat.add_comm 1 n, hnew]

end

end NumberedRows

end

end DimooRun.Foundation
