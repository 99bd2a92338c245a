/-
  Foundation/Dict.lean --- insertion-ordered dictionaries.

  A dictionary keeps its keys in the order of their first insertion, and
  assigning to a present key keeps the key's place. Iteration order is part of
  the meaning: a stable sort over `values` breaks ties by it. The entries carry
  a proof that no key occurs twice, so a lookup never depends on which of two
  entries is met first.
-/
import Mathlib.Data.List.Nodup

set_option autoImplicit false

namespace DimooRun.Foundation

/-- An insertion-ordered dictionary. -/
structure Dict (κ ν : Type) where
  /-- The entries, oldest key first. -/
  entries : List (κ × ν)
  /-- No key occurs twice. -/
  nodup : (entries.map Prod.fst).Nodup

namespace Dict

variable {κ ν : Type}

/-- The dictionary without entries. -/
def empty : Dict κ ν := ⟨[], List.nodup_nil⟩

/-- The keys in insertion order. -/
def keys (d : Dict κ ν) : List κ := d.entries.map Prod.fst

/-- The values in insertion order of their keys. -/
def values (d : Dict κ ν) : List ν := d.entries.map Prod.snd

/-- `len(d)`. -/
def size (d : Dict κ ν) : Nat := d.entries.length

/-- Two dictionaries with the same entries are equal. -/
theorem ext_entries {d d' : Dict κ ν} (h : d.entries = d'.entries) : d = d' := by
  cases d
  subst h
  rfl

section

variable [DecidableEq κ]

/-- The value stored under a key. -/
def get? (d : Dict κ ν) (k : κ) : Option ν := d.entries.lookup k

/-- Assignment on the entry list: replace in place, or append. -/
def setEntries (k : κ) (v : ν) : List (κ × ν) → List (κ × ν)
  | [] => [(k, v)]
  | (k', v') :: rest => if k' = k then (k, v) :: rest else (k', v') :: setEntries k v rest

variable {k x : κ} {v : ν} {l : List (κ × ν)} {d : Dict κ ν}

theorem mem_setEntries_keys : x ∈ (setEntries k v l).map Prod.fst ↔ x = k ∨ x ∈ l.map Prod.fst := by
  induction l with
  | nil => simp [setEntries]
  | cons e rest ih =>
    obtain ⟨k', v'⟩ := e
    by_cases hk : k' = k
    · subst hk
      simp [setEntries]
    · simp only [setEntries, if_neg hk, List.map_cons, List.mem_cons]
      tauto

theorem nodup_setEntries (h : (l.map Prod.fst).Nodup) :
    ((setEntries k v l).map Prod.fst).Nodup := by
  induction l with
  | nil => simp [setEntries]
  | cons e rest ih =>
    obtain ⟨k', v'⟩ := e
    rw [List.map_cons, List.nodup_cons] at h
    by_cases hk : k' = k
    · subst hk
      simpa [setEntries] using h
    · simp only [setEntries, if_neg hk, List.map_cons, List.nodup_cons]
      refine ⟨?_, ih h.2⟩
      rw [mem_setEntries_keys]
      rintro (h' | h')
      · exact hk h'
      · exact h.1 h'

/-- `d[k] = v`. -/
def set (d : Dict κ ν) (k : κ) (v : ν) : Dict κ ν :=
  ⟨setEntries k v d.entries, nodup_setEntries d.nodup⟩

theorem lookup_setEntries (k x : κ) (v : ν) (l : List (κ × ν)) :
    (setEntries k v l).lookup x = if x = k then some v else l.lookup x := by
  induction l with
  | nil =>
    by_cases hx : x = k
    · simp [setEntries, hx]
    · have hbeq : (x == k) = false := by simpa using hx
      simp [setEntries, List.lookup_cons, hbeq, hx]
  | cons e rest ih =>
    obtain ⟨k', v'⟩ := e
    by_cases hk : k' = k
    · subst hk
      by_cases hx : x = k'
      · simp [setEntries, hx]
      · have hbeq : (x == k') = false := by simpa using hx
        simp [setEntries, List.lookup_cons, hbeq, hx]
    · simp only [setEntries, if_neg hk, List.lookup_cons]
      cases hx : x == k' with
      | true =>
        have hxk' : x = k' := by simpa using hx
        have hne : x ≠ k := by rw [hxk']; exact hk
        simp [hne]
      | false => exact ih

theorem get?_set (d : Dict κ ν) (k x : κ) (v : ν) :
    (d.set k v).get? x = if x = k then some v else d.get? x :=
  lookup_setEntries k x v d.entries

@[simp] theorem get?_set_self (d : Dict κ ν) (k : κ) (v : ν) : (d.set k v).get? k = some v := by
  rw [get?_set, if_pos rfl]

theorem get?_set_ne (d : Dict κ ν) (v : ν) (h : x ≠ k) : (d.set k v).get? x = d.get? x := by
  rw [get?_set, if_neg h]

/-- What is found after a write is what was written or was there before. -/
theorem get?_set_cases {w : ν} (h : (d.set k v).get? x = some w) :
    x = k ∧ v = w ∨ x ≠ k ∧ d.get? x = some w := by
  rw [get?_set] at h
  split at h
  · exact .inl ⟨‹_›, Option.some.inj h⟩
  · exact .inr ⟨‹_›, h⟩

/-- What holds of what is written and of all that was there holds of all. -/
theorem forall_get?_set {P : κ → ν → Prop} (hnew : P k v) (h : ∀ x w, d.get? x = some w → P x w) :
    ∀ x w, (d.set k v).get? x = some w → P x w := by
  intro x w hget
  rcases get?_set_cases hget with ⟨rfl, rfl⟩ | ⟨_, hold⟩
  · exact hnew
  · exact h x w hold

@[simp] theorem get?_empty (k : κ) : (empty : Dict κ ν).get? k = none := rfl

theorem lookup_eq_some_iff (h : (l.map Prod.fst).Nodup) : l.lookup k = some v ↔ (k, v) ∈ l := by
  induction l with
  | nil => simp
  | cons e rest ih =>
    obtain ⟨k', v'⟩ := e
    rw [List.map_cons, List.nodup_cons] at h
    simp only [List.lookup_cons, List.mem_cons, Prod.mk.injEq]
    cases hk : k == k' with
    | true =>
      have hkk : k = k' := by simpa using hk
      subst hkk
      constructor
      · intro hv
        exact .inl ⟨rfl, (Option.some.inj hv).symm⟩
      · rintro (⟨_, rfl⟩ | hmem)
        · rfl
        · exact absurd (List.mem_map_of_mem hmem) h.1
    | false =>
      have hkk : k ≠ k' := by simpa using hk
      rw [ih h.2]
      simp [hkk]

section

variable (d)

theorem get?_eq_some_iff : d.get? k = some v ↔ (k, v) ∈ d.entries :=
  lookup_eq_some_iff d.nodup

theorem mem_keys_iff : k ∈ d.keys ↔ ∃ v, d.get? k = some v := by
  simp only [keys, List.mem_map, Prod.exists, exists_and_right, exists_eq_right, get?_eq_some_iff]

theorem get?_eq_none_iff : d.get? k = none ↔ k ∉ d.keys := by
  rw [mem_keys_iff, Option.eq_none_iff_forall_not_mem]
  simp

theorem mem_values_iff : v ∈ d.values ↔ ∃ k, d.get? k = some v := by
  simp only [values, List.mem_map, Prod.exists, exists_eq_right, get?_eq_some_iff]

end

/-- Assigning to a present key keeps what does not depend on the difference. -/
theorem map_setEntries {α : Type} {f : κ × ν → α} {w : ν} (h : l.lookup k = some w)
    (hf : f (k, v) = f (k, w)) : (setEntries k v l).map f = l.map f := by
  induction l with
  | nil => cases h
  | cons e rest ih =>
    obtain ⟨k', v'⟩ := e
    by_cases hk : k' = k
    · subst hk
      have hw : v' = w := by simpa using h
      simp [setEntries, hf, hw]
    · have hbeq : (k == k') = false := by
        simpa using fun h' : k = k' => hk h'.symm
      simp only [List.lookup_cons, hbeq] at h
      simp only [setEntries, if_neg hk, List.map_cons, ih h]

/-- Assigning the value a key already has changes nothing. -/
theorem set_eq_self (h : d.get? k = some v) : d.set k v = d := by
  have hentries := map_setEntries (f := id) h rfl
  rw [List.map_id, List.map_id] at hentries
  exact ext_entries hentries

theorem setEntries_setEntries (k : κ) (v w : ν) (l : List (κ × ν)) :
    setEntries k w (setEntries k v l) = setEntries k w l := by
  induction l with
  | nil => simp [setEntries]
  | cons e rest ih =>
    obtain ⟨k', v'⟩ := e
    by_cases hk : k' = k
    · simp [setEntries, hk]
    · simp only [setEntries, if_neg hk, ih]

/-- The second of two assignments to a key is the one that counts. -/
theorem set_set (d : Dict κ ν) (k : κ) (v w : ν) : (d.set k v).set k w = d.set k w :=
  ext_entries (setEntries_setEntries k v w d.entries)

/-- Assigning to a present key keeps the key order. -/
theorem keys_set_of_mem (h : k ∈ d.keys) : (d.set k v).keys = d.keys := by
  obtain ⟨w, hw⟩ := (mem_keys_iff d).mp h
  exact map_setEntries hw rfl

theorem setEntries_of_lookup_none (h : l.lookup k = none) : setEntries k v l = l ++ [(k, v)] := by
  induction l with
  | nil => rfl
  | cons e rest ih =>
    obtain ⟨k', v'⟩ := e
    have hkeys := List.lookup_eq_none_iff.mp h
    have hne : k' ≠ k := by
      rintro rfl
      exact absurd (hkeys _ List.mem_cons_self) (by simp)
    have hrest : rest.lookup k = none :=
      List.lookup_eq_none_iff.mpr fun e hmem => hkeys e (List.mem_cons_of_mem _ hmem)
    simp only [setEntries, if_neg hne, ih hrest, List.cons_append]

/-- A new key comes last. -/
theorem entries_set_of_none (v : ν) (h : d.get? k = none) :
    (d.set k v).entries = d.entries ++ [(k, v)] :=
  setEntries_of_lookup_none h

theorem size_set_of_none (v : ν) (h : d.get? k = none) : (d.set k v).size = d.size + 1 := by
  simp [size, entries_set_of_none v h]

/-- The dictionary without a key. -/
def erase (d : Dict κ ν) (k : κ) : Dict κ ν where
  entries := d.entries.filter fun e => e.1 ≠ k
  nodup := d.nodup.sublist (List.Sublist.map _ List.filter_sublist)

theorem get?_erase (d : Dict κ ν) (k x : κ) :
    (d.erase k).get? x = if x = k then none else d.get? x := by
  apply Option.ext
  intro v
  rw [get?_eq_some_iff]
  unfold erase
  simp only [ne_eq, decide_not, List.mem_filter, Bool.not_eq_eq_eq_not, Bool.not_true]
  split
  · rename_i h
    simp [h]
  · rename_i h
    rw [← get?_eq_some_iff]
    simp [h]

theorem of_get?_erase (h : (d.erase k).get? x = some v) : x ≠ k ∧ d.get? x = some v := by
  rw [get?_erase] at h
  split at h
  · cases h
  · exact ⟨‹_›, h⟩

/-- `{**d, **d'}`: the entries of `d'` over those of `d`. -/
def merge (d d' : Dict κ ν) : Dict κ ν := d'.entries.foldl (fun acc e => acc.set e.1 e.2) d

theorem get?_foldl_set (l : List (κ × ν)) (k : κ) : ∀ d : Dict κ ν, (l.map Prod.fst).Nodup →
      (l.foldl (fun acc e => acc.set e.1 e.2) d).get? k = (l.lookup k).or (d.get? k) := by
  induction l with
  | nil => intro d _; rfl
  | cons e rest ih =>
    obtain ⟨k', v'⟩ := e
    intro d hnodup
    rw [List.map_cons, List.nodup_cons] at hnodup
    rw [List.foldl_cons, ih _ hnodup.2, get?_set]
    simp only [List.lookup_cons]
    cases hk : k == k' with
    | true =>
      have hkk : k = k' := by simpa using hk
      subst hkk
      have hnone : rest.lookup k = none := by
        rw [List.lookup_eq_none_iff]
        intro e hmem
        refine bne_iff_ne.mpr ?_
        rintro rfl
        exact hnodup.1 (List.mem_map.mpr ⟨e, hmem, rfl⟩)
      rw [hnone, if_pos rfl]
      rfl
    | false =>
      have hkk : k ≠ k' := by simpa using hk
      rw [if_neg hkk]

theorem get?_merge (d d' : Dict κ ν) (k : κ) : (d.merge d').get? k = (d'.get? k).or (d.get? k) :=
  get?_foldl_set d'.entries k d d'.nodup

end

end Dict

end DimooRun.Foundation
