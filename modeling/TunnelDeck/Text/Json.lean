import Mathlib.Algebra.Group.Int.Defs
import Mathlib.Algebra.Group.Nat.Defs
import Mathlib.Data.Int.Notation
import Mathlib.Data.List.Basic

/-!
# JSON values and derived decoders

`Value` is the tree a JSON text denotes. The decoders below are the ones that deriving
`Deserialize` gives for a type with `deny_unknown_fields`. A struct is read from an object by field
name, or from an array by position; an enum with its tag among the fields is read from an array
too, behind the tag; and a variant without fields is its name, or an object with nothing under it.

A decoder gives what it read or nothing. The text of an error quotes what was found and depends on
which of several errors comes first, so it is left to `TunnelDeck.Crates`.

Keys of an object are distinct and their order means nothing, so a lookup takes the first.
-/

namespace Json

/-- A JSON value. A number is kept as an integer or, when it has a fraction or an exponent, as its
text: no decoder here accepts the second kind. -/
inductive Value where
  | null
  | bool (b : Bool)
  | int (n : ℤ)
  | float (text : String)
  | string (s : String)
  | array (items : List Value)
  | object (fields : List (String × Value))

/-! ## Equality -/

mutual

def Value.decEq : (v w : Value) → Decidable (v = w)
  | .null, w =>
    match w with
    | .null => isTrue rfl
    | .bool _ | .int _ | .float _ | .string _ | .array _ | .object _ => isFalse nofun
  | .bool b, w =>
    match w with
    | .bool c => decidable_of_iff (b = c) (by simp)
    | .null | .int _ | .float _ | .string _ | .array _ | .object _ => isFalse nofun
  | .int m, w =>
    match w with
    | .int n => decidable_of_iff (m = n) (by simp)
    | .null | .bool _ | .float _ | .string _ | .array _ | .object _ => isFalse nofun
  | .float s, w =>
    match w with
    | .float t => decidable_of_iff (s = t) (by simp)
    | .null | .bool _ | .int _ | .string _ | .array _ | .object _ => isFalse nofun
  | .string s, w =>
    match w with
    | .string t => decidable_of_iff (s = t) (by simp)
    | .null | .bool _ | .int _ | .float _ | .array _ | .object _ => isFalse nofun
  | .array vs, w =>
    match w with
    | .array ws =>
      have := decEqItems vs ws
      decidable_of_iff (vs = ws) (by simp)
    | .null | .bool _ | .int _ | .float _ | .string _ | .object _ => isFalse nofun
  | .object vs, w =>
    match w with
    | .object ws =>
      have := decEqFields vs ws
      decidable_of_iff (vs = ws) (by simp)
    | .null | .bool _ | .int _ | .float _ | .string _ | .array _ => isFalse nofun

def decEqItems : (vs ws : List Value) → Decidable (vs = ws)
  | [], [] => isTrue rfl
  | [], _ :: _ | _ :: _, [] => isFalse nofun
  | v :: vs, w :: ws =>
    have := v.decEq w
    have := decEqItems vs ws
    decidable_of_iff (v = w ∧ vs = ws) (by simp)

def decEqFields : (vs ws : List (String × Value)) → Decidable (vs = ws)
  | [], [] => isTrue rfl
  | [], _ :: _ | _ :: _, [] => isFalse nofun
  | (name, v) :: vs, (other, w) :: ws =>
    have := v.decEq w
    have := decEqFields vs ws
    decidable_of_iff (name = other ∧ v = w ∧ vs = ws) (by simp [and_assoc])

end

instance : DecidableEq Value := Value.decEq

/-! ## Leaves -/

def decodeString : Value → Option String
  | .string s => some s
  | _ => none

def decodeBool : Value → Option Bool
  | .bool b => some b
  | _ => none

def decodeU16 : Value → Option UInt16
  | .int n => if 0 ≤ n ∧ n ≤ 65535 then some (UInt16.ofNat n.toNat) else none
  | _ => none

/-- A string that a reader of its text accepts. -/
def decodeVia {α : Type} (read : String → Option α) : Value → Option α
  | .string s => read s
  | _ => none

/-- A unit variant: its name, or an object with the name for its only key and nothing under it. -/
def decodeVariant {α : Type} (variants : List (String × α)) : Value → Option α
  | .string name | .object [(name, .null)] => variants.lookup name
  | _ => none

def decodeList {α : Type} (decode : Value → Option α) : Value → Option (List α)
  | .array items => items.mapM decode
  | _ => none

/-! ## Structs -/

def field {α : Type} (fields : List (String × Value)) (name : String)
    (decode : Value → Option α) : Option α :=
  (fields.lookup name).bind decode

/-- The named fields of a struct with exactly the fields `names`. -/
def structFields (names : List String) : Value → Option (List (String × Value))
  | .object fields => if ∀ f ∈ fields, f.1 ∈ names then some fields else none
  | .array items => if items.length = names.length then some (names.zip items) else none
  | _ => none

/-- The tag of an internally tagged enum, and what it leaves for the variant. In an array the tag
comes first. -/
def tagged (name : String) : Value → Option (String × Value)
  | .object fields =>
    (field fields name decodeString).map fun tag ↦
      (tag, .object (fields.filter fun f ↦ f.1 ≠ name))
  | .array (tag :: items) => (decodeString tag).map fun tag ↦ (tag, .array items)
  | _ => none

theorem structFields_singleton (name : String) (v : Value) :
    structFields [name] (.object [(name, v)]) = some [(name, v)] := by
  simp [structFields]

theorem structFields_singleton_of_ne {name other : String} (v : Value) (h : other ≠ name) :
    structFields [name] (.object [(other, v)]) = none := by
  simp [structFields, h]

theorem field_singleton {α : Type} (name : String) (v : Value) (decode : Value → Option α) :
    field [(name, v)] name decode = decode v := by
  simp [field]

/-! ## Access -/

namespace Value

/-- Indexing by a key, which gives `null` when there is nothing under it. -/
def get (v : Value) (key : String) : Value :=
  match v with
  | .object fields => (fields.lookup key).getD .null
  | _ => .null

/-- The fields with `value` under a key, in the place of the field that is there. -/
def setField (key : String) (value : Value) : List (String × Value) → List (String × Value)
  | [] => [(key, value)]
  | f :: fields => if f.1 = key then (key, value) :: fields else f :: setField key value fields

/-- Assigning to a key. The source panics on a value that is neither an object nor `null`. -/
def set (v : Value) (key : String) (value : Value) : Value :=
  match v with
  | .object fields => .object (setField key value fields)
  | .null => .object [(key, value)]
  | _ => v

/-- `as_str`. -/
def asStr : Value → Option String
  | .string s => some s
  | _ => none

/-- `as_array`. -/
def asArray : Value → Option (List Value)
  | .array items => some items
  | _ => none

/-- `as_u64`. -/
def asU64 : Value → Option ℕ
  | .int n => if 0 ≤ n ∧ n < 2 ^ 64 then some n.toNat else none
  | _ => none

end Value

end Json
