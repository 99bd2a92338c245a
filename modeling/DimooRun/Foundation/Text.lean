/-
  Foundation/Text.lean --- the string methods of the source language.

  Strings are read as lists of characters; `strip` removes white space, which is what
  `str.isspace` says it is.

  `int(text)` of the source language strips white space, takes one optional sign and
  then decimal digits, with single underscores allowed between them. What `str`
  writes, `int` reads back.
-/
import Mathlib.Data.List.DropRight
import Mathlib.Data.List.Infix
import Mathlib.Data.List.TakeWhile

set_option autoImplicit false

namespace DimooRun.Foundation

/-- `c.isspace()`. -/
def isSpace (c : Char) : Bool :=
  (0x09 ≤ c.toNat && c.toNat ≤ 0x0d) || (0x1c ≤ c.toNat && c.toNat ≤ 0x20) || c.toNat == 0x85 ||
    c.toNat == 0xa0 || c.toNat == 0x1680 || (0x2000 ≤ c.toNat && c.toNat ≤ 0x200a) ||
    c.toNat == 0x2028 || c.toNat == 0x2029 || c.toNat == 0x202f || c.toNat == 0x205f ||
    c.toNat == 0x3000

/-- `text.strip()`, on characters. -/
def strip (cs : List Char) : List Char :=
  ((cs.dropWhile isSpace).reverse.dropWhile isSpace).reverse

section

variable (text start : String)

/-- `text.startswith(start)`. -/
def startsWith : Bool := start.toList.isPrefixOf text.toList

/-- `text.removeprefix(start)`. -/
def removeStart : String :=
  if startsWith text start then String.ofList (text.toList.drop start.toList.length) else text

/-- `part in text`. -/
def hasPart (text part : String) : Bool := part.toList <:+: text.toList

/-- `text.upper()`. -/
def upperText : String := String.ofList (text.toList.map Char.toUpper)

/-- `text.lower()`. -/
def lowerText : String := String.ofList (text.toList.map Char.toLower)

/-- `text.strip()`. -/
def stripText : String := String.ofList (strip text.toList)

theorem dropWhile_eq_self {cs : List Char} (h : ∀ c ∈ cs, isSpace c = false) :
    cs.dropWhile isSpace = cs := by
  cases cs with
  | nil => rfl
  | cons c cs =>
    have hc := h c List.mem_cons_self
    rw [List.dropWhile_cons_of_neg (by rw [hc]; decide)]

theorem strip_eq_self {cs : List Char} (h : ∀ c ∈ cs, isSpace c = false) : strip cs = cs := by
  have hreverse : ∀ c ∈ cs.reverse, isSpace c = false := by
    intro c hc
    exact h c (List.mem_reverse.mp hc)
  unfold strip
  rw [dropWhile_eq_self h, dropWhile_eq_self hreverse, List.reverse_reverse]

/-- What is stripped begins with no white space. -/
theorem dropWhile_strip (cs : List Char) : (strip cs).dropWhile isSpace = strip cs := by
  have hprefix : strip cs <+: cs.dropWhile isSpace := List.rdropWhile_prefix isSpace _
  rw [List.dropWhile_eq_self_iff]
  intro hlength hspace
  have hlong : 0 < (cs.dropWhile isSpace).length := Nat.lt_of_lt_of_le hlength hprefix.length_le
  have hfirst := hprefix.getElem hlength
  rw [hfirst] at hspace
  exact List.dropWhile_get_zero_not isSpace cs hlong hspace

theorem strip_strip (cs : List Char) : strip (strip cs) = strip cs := by
  have hunfold : strip (strip cs) =
      (((strip cs).dropWhile isSpace).reverse.dropWhile isSpace).reverse := rfl
  rw [hunfold, dropWhile_strip]
  unfold strip
  rw [List.reverse_reverse, List.dropWhile_idempotent]

@[simp] theorem stripText_stripText : stripText (stripText text) = stripText text := by
  unfold stripText
  rw [String.toList_ofList, strip_strip]

end

theorem not_isSpace_of_isDigit {c : Char} (h : c.isDigit = true) : isSpace c = false := by
  simp only [Char.isDigit, Bool.and_eq_true, decide_eq_true_eq] at h
  have hle : 48 ≤ c.toNat := h.1
  have hge : c.toNat ≤ 57 := h.2
  simp only [isSpace, Bool.or_eq_false_iff, Bool.and_eq_false_iff, decide_eq_false_iff_not,
    beq_eq_false_iff_ne]
  omega

/-! ## Parts of a text with a number in it -/

section

variable {α : Type} {w a b : List α}

/-- A word is not spread over an element that it does not have. -/
theorem infix_append_cons {d : α} (hd : d ∉ w) (h : w <:+: a ++ d :: b) : w <:+: a ∨ w <:+: b := by
  induction a with
  | nil =>
    rcases List.infix_cons_iff.mp h with hprefix | hinfix
    · cases w with
      | nil => exact .inl List.nil_infix
      | cons x w =>
        obtain ⟨rfl, _⟩ := List.cons_prefix_cons.mp hprefix
        exact absurd List.mem_cons_self hd
    · exact .inr hinfix
  | cons x a ih =>
    rcases List.infix_cons_iff.mp h with hprefix | hinfix
    · left
      -- a longer beginning than `x :: a` would contain `d`
      by_cases hlength : w.length ≤ (x :: a).length
      · exact (List.prefix_of_prefix_length_le hprefix (List.prefix_append _ _) hlength).isInfix
      · have hwhole : x :: a ++ [d] <+: x :: a ++ d :: b := ⟨b, by simp⟩
        have hbegins : x :: a ++ [d] <+: w := by
          refine List.prefix_of_prefix_length_le hwhole hprefix ?_
          simp only [List.length_append, List.length_cons, List.length_nil] at hlength ⊢
          omega
        exact absurd (hbegins.subset (by simp)) hd
    · rcases ih hinfix with h | h
      · exact .inl (List.infix_cons h)
      · exact .inr h

/-- A word without elements of `c` is on one side of it. -/
theorem infix_append_append {c : List α} (hc : c ≠ []) (hw : ∀ d ∈ c, d ∉ w)
    (h : w <:+: a ++ (c ++ b)) : w <:+: a ∨ w <:+: b := by
  induction c generalizing a with
  | nil => exact absurd rfl hc
  | cons d c ih =>
    rcases infix_append_cons (hw d List.mem_cons_self) h with hleft | hright
    · exact .inl hleft
    · cases c with
      | nil => exact .inr hright
      | cons d' c =>
        have hw' : ∀ x ∈ d' :: c, x ∉ w := fun x hx => hw x (List.mem_cons_of_mem _ hx)
        rcases ih (a := []) (by simp) hw' hright with hnil | hb
        · exact .inl ((List.infix_nil.mp hnil) ▸ List.nil_infix)
        · exact .inr hb

end

/-! ## Integers -/

/-- Decimal digits in groups, with an underscore between any two groups. -/
def parseNat (cs : List Char) : Option Nat :=
  let groups := cs.splitOn '_'
  if groups.all fun group => !group.isEmpty && group.all Char.isDigit then
    some (Nat.ofDigitChars 10 groups.flatten 0)
  else none

/-- `int(text)`; `none` is the `ValueError`. -/
def parseInt (cs : List Char) : Option Int :=
  match strip cs with
  | '+' :: digits => (parseNat digits).map fun n => (n : Int)
  | '-' :: digits => (parseNat digits).map fun n => -(n : Int)
  | digits => (parseNat digits).map fun n => (n : Int)

/-- Written digits are read back. -/
theorem parseNat_toDigits (n : Nat) : parseNat (Nat.toDigits 10 n) = some n := by
  have hsplit : (Nat.toDigits 10 n).splitOn '_' = [Nat.toDigits 10 n] :=
    List.splitOn_eq_singleton Nat.underscore_not_in_toDigits
  have hall : (Nat.toDigits 10 n).all Char.isDigit = true := by
    rw [List.all_eq_true]
    intro c hc
    exact Nat.isDigit_of_mem_toDigits (by decide) (by decide) hc
  have hne : (Nat.toDigits 10 n).isEmpty = false := by
    rw [List.isEmpty_eq_false_iff]
    exact Nat.toDigits_ne_nil
  unfold parseNat
  simp only [hsplit, List.all_cons, hall, hne, List.flatten_cons, List.flatten_nil, List.append_nil,
    Nat.ofDigitChars_ten_toDigits]
  rfl

theorem isDigit_of_mem_toDigits {n : Nat} {c : Char} (hc : c ∈ Nat.toDigits 10 n) :
    c.isDigit = true := Nat.isDigit_of_mem_toDigits (by decide) (by decide) hc

theorem toList_toString_natCast (n : Nat) : (toString (n : Int)).toList = Nat.toDigits 10 n := by
  show n.repr.toList = _
  rw [Nat.repr_eq_ofList_toDigits, String.toList_ofList]

theorem toList_toString_negSucc (n : Nat) :
    (toString (Int.negSucc n)).toList = '-' :: Nat.toDigits 10 (n + 1) := by
  show ("-" ++ (n + 1).repr).toList = _
  simp only [String.toList_append, Nat.repr_eq_ofList_toDigits, String.toList_ofList]
  rfl

/-- What `str` writes, `int` reads back. -/
theorem parseInt_toString (k : Int) : parseInt (toString k).toList = some k := by
  cases k with
  | ofNat n =>
    have hstrip : strip (Nat.toDigits 10 n) = Nat.toDigits 10 n :=
      strip_eq_self fun c hc => not_isSpace_of_isDigit (isDigit_of_mem_toDigits hc)
    have hdigit : ∀ c, c ∈ Nat.toDigits 10 n → c ≠ '+' ∧ c ≠ '-' := by
      intro c hc
      have h := isDigit_of_mem_toDigits hc
      constructor <;>
        · rintro rfl
          exact absurd h (by decide)
    have htext : (toString (Int.ofNat n)).toList = Nat.toDigits 10 n := toList_toString_natCast n
    unfold parseInt
    rw [htext, hstrip]
    split
    · rename_i digits hplus
      exact absurd rfl (hdigit '+' (by rw [hplus]; exact List.mem_cons_self)).1
    · rename_i digits hminus
      exact absurd rfl (hdigit '-' (by rw [hminus]; exact List.mem_cons_self)).2
    · rw [parseNat_toDigits]
      rfl
  | negSucc n =>
    have hstrip : strip ('-' :: Nat.toDigits 10 (n + 1)) = '-' :: Nat.toDigits 10 (n + 1) := by
      refine strip_eq_self fun c hc => ?_
      rcases List.mem_cons.mp hc with rfl | hc
      · decide
      · exact not_isSpace_of_isDigit (isDigit_of_mem_toDigits hc)
    unfold parseInt
    rw [toList_toString_negSucc, hstrip]
    simp only [parseNat_toDigits]
    rfl

end DimooRun.Foundation
