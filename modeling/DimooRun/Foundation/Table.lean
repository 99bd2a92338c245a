/-
  Foundation/Table.lean --- tables whose rows are numbered as they are inserted.

  Rows are never removed: what is deleted is marked so, and keeps its id. A query
  returns rows with their ids.
-/
import Mathlib.Data.List.Basic

set_option autoImplicit false

namespace DimooRun.Foundation

/-- The row with id `n + 1` is the one at place `n`. -/
structure Table (ρ : Type) where
  rows : List ρ := []

namespace Table

variable {ρ : Type}

section

variable (t : Table ρ) (row : ρ) (id : Nat)

/-- The row with an id. -/
def get? : Nat → Option ρ
  | 0 => none
  | n + 1 => t.rows[n]?

/-- The id of the next row. -/
def nextId : Nat := t.rows.length + 1

/-- A new row. -/
def insert : Table ρ := ⟨t.rows ++ [row]⟩

/-- Assignments to the row with an id. -/
def modify (f : ρ → ρ) : Table ρ :=
  match id with
  | 0 => t
  | n + 1 => ⟨t.rows.modify n f⟩

/-- The same assignments to every row. -/
def map (f : ρ → ρ) : Table ρ := ⟨t.rows.map f⟩

/-- The rows with their ids. -/
def entries : List (Nat × ρ) := t.rows.zipIdx.map fun e => (e.2 + 1, e.1)

/-- The rows a condition selects. -/
def select (p : ρ → Bool) : List (Nat × ρ) := t.entries.filter fun e => p e.2

/-- The first of them. -/
def find? (p : ρ → Bool) : Option (Nat × ρ) := t.entries.find? fun e => p e.2

@[simp] theorem get?_nextId : t.get? t.nextId = none := by
  simp [get?, nextId]

theorem get?_insert : (t.insert row).get? id = if id = t.nextId then some row else t.get? id := by
  cases id with
  | zero => simp [get?, nextId]
  | succ n =>
    simp only [get?, insert, nextId, Nat.add_right_cancel_iff, List.getElem?_append]
    rcases Nat.lt_trichotomy n t.rows.length with hlt | heq | hgt
    · simp only [if_pos hlt, if_neg (Nat.ne_of_lt hlt)]
    · simp [heq]
    · have hnot : ¬ n < t.rows.length := by omega
      have hnone : t.rows[n]? = none := List.getElem?_eq_none (by omega)
      simp only [if_neg hnot, if_neg (Nat.ne_of_gt hgt), hnone]
      exact List.getElem?_eq_none (by simp; omega)

end

variable {id : Nat} {row : ρ} {p : ρ → Bool} {found : Nat × ρ} {t : Table ρ}

theorem get?_insert_of_some (h : t.get? id = some row) (row' : ρ) :
    (t.insert row').get? id = some row := by
  rw [get?_insert, if_neg, h]
  rintro rfl
  simp at h

theorem get?_insert_cases {row' : ρ} (h : (t.insert row').get? id = some row) :
    t.get? id = some row ∨ row = row' := by
  rw [get?_insert] at h
  split at h
  · exact .inr (Option.some.inj h).symm
  · exact .inl h

theorem get?_modify (t : Table ρ) (id : Nat) (f : ρ → ρ) (id' : Nat) :
    (t.modify id f).get? id' = if id' = id then (t.get? id').map f else t.get? id' := by
  cases id with
  | zero =>
    cases id' with
    | zero => simp [get?]
    | succ n => simp [modify]
  | succ m =>
    cases id' with
    | zero => simp [get?]
    | succ n =>
      simp only [modify, get?, List.getElem?_modify]
      by_cases h : m = n
      · simp [h]
      · have hne : ¬ n = m := fun h' => h h'.symm
        simp [h, hne]

theorem get?_map (t : Table ρ) (f : ρ → ρ) (id : Nat) : (t.map f).get? id = (t.get? id).map f := by
  cases id with
  | zero => rfl
  | succ n => exact List.getElem?_map

theorem mem_entries : (id, row) ∈ t.entries ↔ t.get? id = some row := by
  simp only [entries, List.mem_map, Prod.mk.injEq, Prod.exists]
  constructor
  · rintro ⟨row', n, hmem, rfl, rfl⟩
    exact List.mem_zipIdx_iff_getElem?.mp hmem
  · intro hget
    cases id with
    | zero => simp [get?] at hget
    | succ n => exact ⟨row, n, List.mem_zipIdx_iff_getElem?.mpr hget, rfl, rfl⟩

theorem mem_select : (id, row) ∈ t.select p ↔ t.get? id = some row ∧ p row = true := by
  simp only [select, List.mem_filter, mem_entries]

theorem find?_eq_some (h : t.find? p = some (id, row)) : t.get? id = some row ∧ p row = true := by
  have hp := List.find?_some h
  exact ⟨mem_entries.mp (List.mem_of_find?_eq_some h), hp⟩

theorem find?_eq_none_iff : t.find? p = none ↔ ∀ id row, t.get? id = some row → p row = false := by
  simp [find?, List.find?_eq_none, mem_entries]

/-- A column stays unique if the new row's value is new. -/
theorem unique_insert {column : ρ → String}
    (h : ∀ id id' row row', t.get? id = some row → t.get? id' = some row' →
      column row = column row' → id = id')
    (hfree : t.find? (fun old => column old == column row) = none) (id id' : Nat) (row₁ row₂ : ρ)
    (hget : (t.insert row).get? id = some row₁) (hget' : (t.insert row).get? id' = some row₂)
    (hsame : column row₁ = column row₂) : id = id' := by
  have hnew : ∀ id old, t.get? id = some old → column old ≠ column row := by
    simpa using find?_eq_none_iff.mp hfree
  rw [get?_insert] at hget hget'
  split at hget <;> split at hget'
  · rename_i hid hid'
    exact hid.trans hid'.symm
  · cases hget
    exact absurd hsame.symm (hnew id' row₂ hget')
  · cases hget'
    exact absurd hsame (hnew id row₁ hget)
  · exact h id id' row₁ row₂ hget hget' hsame

/-- A new row is found only if no older one is. -/
theorem find?_insert (t : Table ρ) (row : ρ) (p : ρ → Bool) : (t.insert row).find? p =
      (t.find? p).or (if p row = true then some (t.nextId, row) else none) := by
  have hentries : (t.insert row).entries = t.entries ++ [(t.nextId, row)] := by
    simp [entries, insert, nextId, List.zipIdx_append]
  unfold find?
  rw [hentries]
  by_cases hp : p row = true
  · simp
  · simp

/-! ## Rows that are made when they are needed -/

/-- The row that a condition selects, or else a new one. -/
def findOrInsert (t : Table ρ) (p : ρ → Bool) (row : ρ) : Nat × Table ρ :=
  match t.find? p with
  | some found => (found.1, t)
  | none => (t.nextId, t.insert row)

theorem findOrInsert_of_find? (h : t.find? p = some found) (row : ρ) :
    t.findOrInsert p row = (found.1, t) := by
  unfold findOrInsert
  rw [h]

/-- Afterwards it is found. -/
theorem find?_findOrInsert (h : p row = true) :
    ∃ row', (t.findOrInsert p row).2.find? p = some ((t.findOrInsert p row).1, row') := by
  unfold findOrInsert
  cases hfind : t.find? p with
  | some found => exact ⟨found.2, hfind⟩
  | none =>
    refine ⟨row, ?_⟩
    rw [find?_insert, hfind, if_pos h]
    rfl

/-- A row that was there was found. -/
theorem find?_of_isSome (h : (t.get? (t.findOrInsert p row).1).isSome = true) :
    ∃ row', t.find? p = some ((t.findOrInsert p row).1, row') := by
  unfold findOrInsert at h ⊢
  cases hfind : t.find? p with
  | some found => exact ⟨found.2, rfl⟩
  | none => simp [hfind] at h

theorem get?_findOrInsert_of_some {old : ρ} (h : t.get? id = some old) (p : ρ → Bool) (row : ρ) :
    (t.findOrInsert p row).2.get? id = some old := by
  unfold findOrInsert
  split
  · exact h
  · exact get?_insert_of_some h row

/-! ## Tables that only grow -/

/-- `t'` is `t` with rows inserted. -/
def Extends (t t' : Table ρ) : Prop := t.rows <+: t'.rows

namespace Extends

variable {t t' t'' : Table ρ}

theorem refl (t : Table ρ) : t.Extends t := List.prefix_refl t.rows

theorem trans (h : t.Extends t') (h' : t'.Extends t'') : t.Extends t'' := List.IsPrefix.trans h h'

theorem insert (t : Table ρ) (row : ρ) : t.Extends (t.insert row) := List.prefix_append t.rows [row]

variable (h : t.Extends t')

include h

theorem get? (hget : t.get? id = some row) : t'.get? id = some row := by
  cases id with
  | zero => cases hget
  | succ n =>
    obtain ⟨more, hrows⟩ := h
    have hlt : n < t.rows.length := (List.getElem?_eq_some_iff.mp hget).1
    show t'.rows[n]? = some row
    rw [← hrows, List.getElem?_append_left hlt]
    exact hget

/-- What is found in the longer table: what was found before, or a new row. -/
theorem find?_eq (p : ρ → Bool) : ∃ added : List (Nat × ρ), (∀ e ∈ added, t.get? e.1 = none) ∧
      t'.find? p = (t.find? p).or (added.find? fun e => p e.2) := by
  obtain ⟨more, hrows⟩ := h
  refine ⟨(more.zipIdx t.rows.length).map fun e => (e.2 + 1, e.1), ?_, ?_⟩
  · intro e he
    obtain ⟨⟨row, n⟩, hmem, rfl⟩ := List.mem_map.mp he
    have hle : t.rows.length ≤ n := List.le_snd_of_mem_zipIdx hmem
    exact List.getElem?_eq_none hle
  · unfold Table.find? entries
    rw [← hrows, List.zipIdx_append, List.map_append, List.find?_append, Nat.zero_add]

theorem find? (hfind : t.find? p = some found) : t'.find? p = some found := by
  obtain ⟨added, _, heq⟩ := h.find?_eq p
  rw [heq, hfind]
  rfl

/-- A row that was there was found there. -/
theorem find?_of_get? (hfind : t'.find? p = some found) (hget : (t.get? found.1).isSome = true) :
    t.find? p = some found := by
  obtain ⟨added, hnew, heq⟩ := h.find?_eq p
  rw [heq] at hfind
  cases hold : t.find? p with
  | some old =>
    rw [hold] at hfind
    exact hfind
  | none =>
    rw [hold] at hfind
    rw [hnew found (List.mem_of_find?_eq_some hfind)] at hget
    cases hget

end Extends

end Table

/-! ## Conditions of SQL statements

A comparison with NULL is neither true nor false, and a row is selected only if its
condition is true. `x IN (a, NULL)` is `x = a OR x = NULL`, so a NULL in the list
selects nothing, and no list selects a NULL. -/

/-- The value of a condition; `none` is unknown. -/
abbrev Condition : Type := Option Bool

namespace Condition

variable {α : Type} [DecidableEq α]

/-- `x = y`. -/
def equal (x y : Option α) : Condition :=
  match x, y with
  | some a, some b => some (decide (a = b))
  | _, _ => none

/-- `c AND d`. -/
def and : Condition → Condition → Condition
  | some false, _ => some false
  | _, some false => some false
  | some true, some true => some true
  | _, _ => none

/-- `c OR d`. -/
def or : Condition → Condition → Condition
  | some true, _ => some true
  | _, some true => some true
  | some false, some false => some false
  | _, _ => none

/-- `x IN (…)`. -/
def isIn (x : Option α) : List (Option α) → Condition
  | [] => some false
  | y :: rest => (equal x y).or (isIn x rest)

/-- `x IS NULL`. -/
def isNull (x : Option α) : Condition := some x.isNone

/-- The row is selected. -/
def holds (c : Condition) : Bool := c == some true

@[simp] theorem holds_some (b : Bool) : holds (some b) = b := by
  cases b <;> rfl

@[simp] theorem holds_and (c d : Condition) : (c.and d).holds = (c.holds && d.holds) := by
  rcases c with _ | _ | _ <;> rcases d with _ | _ | _ <;> rfl

@[simp] theorem holds_or (c d : Condition) : (c.or d).holds = (c.holds || d.holds) := by
  rcases c with _ | _ | _ <;> rcases d with _ | _ | _ <;> rfl

theorem holds_equal (x y : Option α) : (equal x y).holds = true ↔ ∃ a, x = some a ∧ y = some a := by
  cases x with
  | none => simp [equal, holds]
  | some a =>
    cases y with
    | none => simp [equal, holds]
    | some b => simp [equal, eq_comm]

@[simp] theorem holds_equal_some (x : Option α) (a : α) :
    (equal x (some a)).holds = true ↔ x = some a := by
  rw [holds_equal]
  constructor
  · rintro ⟨b, hx, hb⟩
    rw [hx, hb]
  · intro hx
    exact ⟨a, hx, rfl⟩

/-- Only what is not NULL is in a list. -/
@[simp] theorem holds_isIn (x : Option α) (xs : List (Option α)) :
    (isIn x xs).holds = true ↔ ∃ a, x = some a ∧ some a ∈ xs := by
  induction xs with
  | nil => simp [isIn]
  | cons y rest ih =>
    simp only [isIn, holds_or, Bool.or_eq_true, holds_equal, ih, List.mem_cons]
    constructor
    · rintro (⟨a, hx, hy⟩ | ⟨a, hx, hrest⟩)
      · exact ⟨a, hx, Or.inl hy.symm⟩
      · exact ⟨a, hx, Or.inr hrest⟩
    · rintro ⟨a, hx, hy | hrest⟩
      · exact .inl ⟨a, hx, hy.symm⟩
      · exact .inr ⟨a, hx, hrest⟩

omit [DecidableEq α] in
@[simp] theorem holds_isNull (x : Option α) : (isNull x).holds = x.isNone := by
  simp [isNull]

end Condition

/-! ## Tables that join two others

A row relates a key to a value, and rows are in the order of their insertion. What is
related to a key is only ever replaced as a whole: the rows of the key are deleted and
new ones are inserted at the end. -/

namespace JoinTable

variable {α β : Type} [DecidableEq α]

/-- What is related to a key. -/
def related (rows : List (α × β)) (a : α) : List β :=
  (rows.filter fun e => e.1 == a).map Prod.snd

/-- What is related to a key is replaced. -/
def replace (rows : List (α × β)) (a : α) (bs : List β) : List (α × β) :=
  (rows.filter fun e => e.1 != a) ++ bs.map fun b => (a, b)

variable {rows : List (α × β)} {a : α} {bs : List β} {blocks : List (α × List β)}

theorem mem_related {b : β} : b ∈ related rows a ↔ (a, b) ∈ rows := by
  simp [related]

theorem mem_replace {e : α × β} :
    e ∈ replace rows a bs ↔ e ∈ rows ∧ e.1 ≠ a ∨ ∃ b ∈ bs, (a, b) = e := by
  simp [replace]

variable (rows : List (α × β))

theorem related_replace (a : α) (bs : List β) (a' : α) :
    related (replace rows a bs) a' = if a' = a then bs else related rows a' := by
  unfold related replace
  rw [List.filter_append, List.map_append, List.filter_filter]
  by_cases hsame : a' = a
  · subst hsame
    have hold : (rows.filter fun e => (e.1 == a') && (e.1 != a')) = [] := by
      rw [List.filter_eq_nil_iff]
      simp
    have hnew : ((bs.map fun b => (a', b)).filter fun e => e.1 == a') =
        bs.map fun b => (a', b) := by
      rw [List.filter_eq_self]
      intro e he
      obtain ⟨b, _, rfl⟩ := List.mem_map.mp he
      exact beq_self_eq_true a'
    rw [hold, hnew, if_pos rfl, List.map_map]
    exact List.map_id bs
  · have hold : (rows.filter fun e => (e.1 == a') && (e.1 != a)) =
        rows.filter fun e => e.1 == a' := by
      refine List.filter_congr ?_
      intro e _
      by_cases he : e.1 = a'
      · simp [he, hsame]
      · simp [he]
    have hnew : ((bs.map fun b => (a, b)).filter fun e => e.1 == a') = [] := by
      rw [List.filter_eq_nil_iff]
      intro e he
      obtain ⟨b, _, rfl⟩ := List.mem_map.mp he
      simpa using fun h => hsame h.symm
    rw [hold, hnew, if_neg hsame, List.map_nil, List.append_nil]

/-- Replacing what was just inserted by itself changes nothing. -/
theorem replace_replace (a : α) (bs bs' : List β) :
    replace (replace rows a bs) a bs' = replace rows a bs' := by
  unfold replace
  simp

/-- Several keys, one after the other. -/
def replaceAll (rows : List (α × β)) (blocks : List (α × List β)) : List (α × β) :=
  blocks.foldl (fun rows block => replace rows block.1 block.2) rows

theorem replaceAll_cons (block : α × List β) (blocks : List (α × List β)) :
    replaceAll rows (block :: blocks) = replaceAll (replace rows block.1 block.2) blocks := rfl

theorem related_replaceAll_of_not_mem (h : a ∉ blocks.map Prod.fst) :
    ∀ rows : List (α × β), related (replaceAll rows blocks) a = related rows a := by
  induction blocks with
  | nil => intro rows; rfl
  | cons block blocks ih =>
    intro rows
    rw [List.map_cons, List.mem_cons, not_or] at h
    rw [replaceAll_cons, ih h.2, related_replace, if_neg h.1]

variable (hkeys : (blocks.map Prod.fst).Nodup)

include hkeys

theorem related_replaceAll_of_mem (h : (a, bs) ∈ blocks) :
    ∀ rows : List (α × β), related (replaceAll rows blocks) a = bs := by
  induction blocks with
  | nil => cases h
  | cons block blocks ih =>
    intro rows
    rw [List.map_cons, List.nodup_cons] at hkeys
    rw [replaceAll_cons]
    rcases List.mem_cons.mp h with rfl | hmem
    · rw [related_replaceAll_of_not_mem hkeys.1, related_replace, if_pos rfl]
    · exact ih hkeys.2 hmem _

/-- The rows of the other keys, and then the new ones in the order of the blocks. -/
theorem replaceAll_eq : ∀ rows : List (α × β), replaceAll rows blocks =
        (rows.filter fun e => !(blocks.map Prod.fst).contains e.1) ++
          blocks.flatMap fun block => block.2.map fun b => (block.1, b) := by
  induction blocks with
  | nil => intro rows; simp [replaceAll]
  | cons block blocks ih =>
    intro rows
    rw [List.map_cons, List.nodup_cons] at hkeys
    have hnew : ((block.2.map fun b => (block.1, b)).filter
        fun e => !(blocks.map Prod.fst).contains e.1) = block.2.map fun b => (block.1, b) := by
      rw [List.filter_eq_self]
      intro e he
      obtain ⟨b, _, rfl⟩ := List.mem_map.mp he
      simpa using hkeys.1
    have hold : (rows.filter fun e => !(blocks.map Prod.fst).contains e.1 && e.1 != block.1) =
        rows.filter fun e => !((block :: blocks).map Prod.fst).contains e.1 := by
      refine List.filter_congr ?_
      intro e _
      rw [List.map_cons, List.contains_cons, Bool.not_or, Bool.and_comm]
      rfl
    rw [replaceAll_cons, ih hkeys.2]
    unfold replace
    rw [List.filter_append, hnew, List.filter_filter, hold, List.append_assoc, List.flatMap_cons]

/-- The second time nothing changes. -/
theorem replaceAll_replaceAll (rows : List (α × β)) :
    replaceAll (replaceAll rows blocks) blocks = replaceAll rows blocks := by
  have hnew : ((blocks.flatMap fun block => block.2.map fun b => (block.1, b)).filter
      fun e => !(blocks.map Prod.fst).contains e.1) = [] := by
    rw [List.filter_eq_nil_iff]
    intro e he
    obtain ⟨block, hblock, he⟩ := List.mem_flatMap.mp he
    obtain ⟨b, _, rfl⟩ := List.mem_map.mp he
    have hkey := List.mem_map_of_mem (f := Prod.fst) hblock
    simp only [List.contains_iff_mem.mpr hkey]
    decide
  rw [replaceAll_eq hkeys, replaceAll_eq hkeys, List.filter_append, hnew, List.append_nil]
  simp

end JoinTable

end DimooRun.Foundation
