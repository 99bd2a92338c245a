/-
  Foundation/Json.lean --- dynamic values and their JSON text.

  `PyValue` is the part of a dynamically typed value space that a JSON encoder
  can tell apart: the encodable shapes, and `object` for an instance of any other
  class, which the encoder refuses. Dictionaries have string keys.

  `dumps` is the compact encoder with sorted keys and ASCII output: separators
  `,` and `:`, every character outside the printable ASCII range escaped, astral
  characters as surrogate pairs. It raises at the first object it meets in the
  order it visits values.
-/
import Mathlib.Data.List.Sort
import DimooRun.Foundation.Text
import DimooRun.Foundation.Dict

set_option autoImplicit false

namespace DimooRun.Foundation

/-- A dynamic value. -/
inductive PyValue where
  | none
  | bool (b : Bool)
  | int (n : Int)
  /-- A float, by its shortest decimal text. -/
  | float (text : String)
  | str (s : String)
  | list (xs : List PyValue)
  | dict (items : List (String × PyValue))
  /-- An instance of a class the encoder does not know. -/
  | object (cls : String)

/-- A dictionary with string keys, in insertion order. -/
abbrev PyDict : Type := List (String × PyValue)

namespace PyValue

/-- One hexadecimal digit in lower case. -/
def hexDigit (n : Nat) : Char :=
  if n < 10 then Char.ofNat (48 + n) else Char.ofNat (87 + n)

/-- `\uXXXX` for one UTF-16 unit. -/
def unitEscape (n : Nat) : List Char :=
  ['\\', 'u', hexDigit (n / 4096 % 16), hexDigit (n / 256 % 16), hexDigit (n / 16 % 16),
    hexDigit (n % 16)]

/-- One character of a JSON string with ASCII output. -/
def escapeChar (c : Char) : List Char :=
  if c = '"' then ['\\', '"']
  else if c = '\\' then ['\\', '\\']
  else if c = '\n' then ['\\', 'n']
  else if c = '\r' then ['\\', 'r']
  else if c = '\t' then ['\\', 't']
  else if c.toNat = 12 then ['\\', 'f']
  else if c.toNat = 8 then ['\\', 'b']
  else if 32 ≤ c.toNat ∧ c.toNat ≤ 126 then [c]
  else if c.toNat < 65536 then unitEscape c.toNat
  else
    unitEscape (55296 + (c.toNat - 65536) / 1024) ++ unitEscape (56320 + (c.toNat - 65536) % 1024)

/-- A JSON string literal. -/
def dumpsStr (s : String) : List Char :=
  '"' :: s.toList.flatMap escapeChar ++ ['"']

/-- Comma-separated texts. -/
def joinComma : List (List Char) → List Char
  | [] => []
  | [x] => x
  | x :: y :: rest => x ++ ',' :: joinComma (y :: rest)

/-- The texts of a list of encodings, or the first refusal. -/
def collect : List (Except String (List Char)) → Except String (List (List Char))
  | [] => .ok []
  | .error e :: _ => .error e
  | .ok t :: rest =>
      match collect rest with
      | .error e => .error e
      | .ok ts => .ok (t :: ts)

/-- One member of an object: key, colon, value. -/
def member (kv : String × Except String (List Char)) : Except String (List Char) :=
  match kv.2 with
  | .error e => .error e
  | .ok t => .ok (dumpsStr kv.1 ++ ':' :: t)

/-- Members in ascending order of their keys. -/
def sortKeys (kvs : List (String × Except String (List Char))) :
    List (String × Except String (List Char)) :=
  kvs.insertionSort fun a b => a.1 ≤ b.1

mutual

/-- `json.dumps(value, separators=(",", ":"), sort_keys=True)`; a refusal names
the class of the object met. -/
def dumps : PyValue → Except String (List Char)
  | .none => .ok "null".toList
  | .bool true => .ok "true".toList
  | .bool false => .ok "false".toList
  | .int n => .ok (toString n).toList
  | .float text => .ok text.toList
  | .str s => .ok (dumpsStr s)
  | .list xs =>
      match collect (dumpsList xs) with
      | .error e => .error e
      | .ok ts => .ok ('[' :: joinComma ts ++ [']'])
  | .dict items =>
      match collect ((sortKeys (dumpsItems items)).map member) with
      | .error e => .error e
      | .ok ts => .ok ('{' :: joinComma ts ++ ['}'])
  | .object cls => .error cls

/-- The encodings of the elements of a list. -/
def dumpsList : List PyValue → List (Except String (List Char))
  | [] => []
  | x :: xs => dumps x :: dumpsList xs

/-- The encodings of the values of a dictionary, with their keys. -/
def dumpsItems : List (String × PyValue) → List (String × Except String (List Char))
  | [] => []
  | (k, x) :: rest => (k, dumps x) :: dumpsItems rest

end

/-- The encoder accepts the value. -/
def Encodable (v : PyValue) : Prop := (dumps v).isOk = true

instance (v : PyValue) : Decidable v.Encodable := inferInstanceAs (Decidable (_ = true))

/-! ## What the encoder accepts -/

theorem isOk_collect (rs : List (Except String (List Char))) :
    (collect rs).isOk = true ↔ ∀ r ∈ rs, r.isOk = true := by
  induction rs with
  | nil => simp [collect, Except.toBool]
  | cons r rest ih =>
    cases r with
    | error e => simp [collect, Except.toBool]
    | ok t =>
      simp only [List.mem_cons, forall_eq_or_imp, ← ih, collect]
      cases collect rest <;> simp [Except.toBool]

theorem isOk_member (kv : String × Except String (List Char)) : (member kv).isOk = kv.2.isOk := by
  obtain ⟨k, r⟩ := kv
  cases r <;> rfl

variable (items : List (String × PyValue))

theorem dumpsItems_eq_map : dumpsItems items = items.map fun kv => (kv.1, dumps kv.2) := by
  induction items with
  | nil => rfl
  | cons kv rest ih =>
    simp only [dumpsItems, ih, List.map_cons]

/-- A dictionary is encodable when its values are. -/
theorem encodable_dict_iff : (PyValue.dict items).Encodable ↔ ∀ kv ∈ items, kv.2.Encodable := by
  have hcollect : (PyValue.dict items).Encodable ↔
      (collect ((sortKeys (dumpsItems items)).map member)).isOk = true := by
    unfold Encodable
    simp only [dumps]
    cases collect ((sortKeys (dumpsItems items)).map member) <;> exact Iff.rfl
  rw [hcollect, isOk_collect, dumpsItems_eq_map]
  simp only [sortKeys, List.mem_map, List.mem_insertionSort]
  constructor
  · intro h kv hkv
    have hmember := h _ ⟨(kv.1, dumps kv.2), ⟨kv, hkv, rfl⟩, rfl⟩
    rwa [isOk_member] at hmember
  · rintro h r ⟨_, ⟨kv, hkv, rfl⟩, rfl⟩
    rw [isOk_member]
    exact h kv hkv

@[simp] theorem encodable_str (s : String) : (PyValue.str s).Encodable := rfl

end PyValue

/-! ## Dictionaries -/

namespace PyDict

/-- `d.get(key)`. -/
def get? (d : PyDict) (key : String) : Option PyValue := d.lookup key

/-- `d.update(upd)`: keys of both keep their place and take the new value. -/
def update (d upd : PyDict) : PyDict :=
  d.map (fun kv => (kv.1, (upd.lookup kv.1).getD kv.2)) ++
    upd.filter fun kv => (d.lookup kv.1).isNone

/-- The encoder accepts an updated dictionary when it accepts the new values and
the old ones that stay. -/
theorem encodable_update_iff {d upd : PyDict} (hupd : ∀ kv ∈ upd, kv.2.Encodable) :
    (PyValue.dict (d.update upd)).Encodable ↔
      ∀ kv ∈ d, upd.lookup kv.1 = none → kv.2.Encodable := by
  have hlookup : ∀ k v, upd.lookup k = some v → v.Encodable := by
    intro k v hv
    rw [List.lookup_eq_some_iff] at hv
    obtain ⟨l₁, l₂, rfl, _⟩ := hv
    exact hupd (k, v) (by simp)
  rw [PyValue.encodable_dict_iff]
  simp only [update, List.mem_append, List.mem_map, List.mem_filter]
  constructor
  · intro h kv hkv hnone
    have hval := h _ (Or.inl ⟨kv, hkv, rfl⟩)
    rwa [hnone] at hval
  · rintro h kv' (⟨kv, hkv, rfl⟩ | ⟨hkv, _⟩)
    · cases hv : upd.lookup kv.1 with
      | none =>
        have hval := h kv hkv hv
        simpa using hval
      | some v => simpa using hlookup _ _ hv
    · exact hupd kv' hkv

end PyDict

/-! ## Operations on dynamic values

`bool`, `int`, `==` and the methods of dictionaries. A float is known by its shortest
decimal text, so what depends on its binary value is a parameter, and so is the text
that `str` gives to anything but a string. -/

/-- The exceptions that operations on dynamic values raise. -/
inductive PyError where
  | typeError
  | valueError
  | overflowError
  | attributeError
  deriving DecidableEq, Repr

namespace PyValue

/-- `bool(value)`. -/
def truthy : PyValue → Bool
  | .none => false
  | .bool b => b
  | .int n => n != 0
  | .float text => text != "0.0" && text != "-0.0"
  | .str s => s != ""
  | .list xs => !xs.isEmpty
  | .dict items => !items.isEmpty
  | .object _ => true

/-- `value or other`. -/
def orElse (value other : PyValue) : PyValue := if value.truthy then value else other

/-- `isinstance(value, str)`, with the text. -/
def str? : PyValue → Option String
  | .str s => some s
  | _ => Option.none

/-- `isinstance(value, dict)`, with the items. -/
def dict? : PyValue → Option PyDict
  | .dict items => some items
  | _ => Option.none

/-- `isinstance(value, int)`, with the number; `bool` is a subclass of `int`. -/
def int? : PyValue → Option Int
  | .bool b => some b.toInt
  | .int n => some n
  | _ => Option.none

/-- `hash(value)` is defined. -/
def hashable : PyValue → Bool
  | .list _ => false
  | .dict _ => false
  | _ => true

end PyValue

/-- The parameters: `str`, and the value of a float. -/
structure Builtins where
  str : PyValue → String
  str_str : ∀ s, str (.str s) = s
  str_ne_empty : ∀ value, value.truthy = true → str value ≠ ""
  /-- `int(x)` of a float, towards zero; neither a NaN nor an infinity has one. -/
  truncate : String → Except PyError Int

namespace PyDict

section

variable (d : PyDict) (key key' : String) (value : PyValue)

/-- `d.get(key)`. -/
def get : PyValue := (d.get? key).getD .none

/-- `d[key] = value`. -/
def set : PyDict := Dict.setEntries key value d

end

/-- A pair that `dict` takes from a list. -/
def pairOf : PyValue → Except PyError (String × PyValue)
  | .list [.str key, value] => .ok (key, value)
  | .list _ => .error .valueError
  | .str s =>
      match s.toList with
      | [key, value] => .ok (key.toString, .str value.toString)
      | _ => .error .valueError
  | _ => .error .typeError

/-- `dict(value)`; a list is read as a list of pairs. -/
def ofValue : PyValue → Except PyError PyDict
  | .dict items => .ok items
  | .list xs => do
      let pairs ← xs.mapM pairOf
      return pairs.foldl (fun d pair => d.set pair.1 pair.2) []
  | .str s => if s = "" then .ok [] else .error .valueError
  | _ => .error .typeError

end PyDict

namespace Builtins

/-- Builtins that know no floats and write no containers, to evaluate examples with. -/
def simple : Builtins where
  str
    | .none => "None"
    | .bool b => if b then "True" else "False"
    | .int n => toString n
    | .float _ => "float"
    | .str s => s
    | .list _ => "[...]"
    | .dict _ => "\x7b...\x7d"
    | .object _ => "object"
  str_str _ := rfl
  str_ne_empty value htruthy hempty := by
    cases value with
    | none => cases htruthy
    | str s =>
      rw [show s = "" from hempty] at htruthy
      cases htruthy
    | bool b => cases b <;> exact absurd hempty (by decide)
    | int n =>
      have hread := parseInt_toString n
      rw [show toString n = "" from hempty] at hread
      cases hread
    | _ => simp at hempty
  truncate _ := .error .valueError

variable (py : Builtins)

/-- `int(value)`. -/
def int : PyValue → Except PyError Int
  | .bool b => .ok b.toInt
  | .int n => .ok n
  | .float text => py.truncate text
  | .str s =>
      match parseInt s.toList with
      | some n => .ok n
      | none => .error .valueError
  | _ => .error .typeError

end Builtins

end DimooRun.Foundation
