import TunnelDeck.Text.Hex
import TunnelDeck.Text.Json

/-!
# The compact text of a JSON value

Without any white space: the fields of an object in the order they are listed, a string with the
escapes it needs and no others. `Value.toVec` is the text in UTF-8.
-/

namespace Json

/-! ## The text -/

def escape (c : Char) : List Char :=
  if c = '"' then ['\\', '"']
  else if c = '\\' then ['\\', '\\']
  else if c = '\x08' then ['\\', 'b']
  else if c = '\t' then ['\\', 't']
  else if c = '\n' then ['\\', 'n']
  else if c = '\x0c' then ['\\', 'f']
  else if c = '\r' then ['\\', 'r']
  else if c.toNat < 32 then
    ['\\', 'u', '0', '0', Text.hexDigit (c.toNat / 16), Text.hexDigit (c.toNat % 16)]
  else [c]

def quote (s : String) : List Char := '"' :: (s.toList.flatMap escape ++ ['"'])

mutual

def Value.compact : Value → List Char
  | .null => "null".toList
  | .bool b => (if b then "true" else "false").toList
  | .int n => (toString n).toList
  | .float text => text.toList
  | .string s => quote s
  | .array [] => "[]".toList
  | .array (v :: vs) => '[' :: (v.compact ++ compactItems vs)
  | .object [] => ['\x7b', '\x7d']
  | .object ((name, v) :: fields) =>
    '\x7b' :: (quote name ++ ':' :: (v.compact ++ compactFields fields))

/-- The items of an array after the first. -/
def compactItems : List Value → List Char
  | [] => [']']
  | v :: vs => ',' :: (v.compact ++ compactItems vs)

/-- The fields of an object after the first. -/
def compactFields : List (String × Value) → List Char
  | [] => ['\x7d']
  | (name, v) :: fields => ',' :: (quote name ++ ':' :: (v.compact ++ compactFields fields))

end

def utf8 (cs : List Char) : List UInt8 := cs.flatMap String.utf8EncodeChar

/-- `serde_json::to_vec` of a value. -/
def Value.toVec (v : Value) : List UInt8 := utf8 v.compact

/-! ## Lengths -/

theorem length_le_length_flatMap {α β : Type} {f : α → List β} (h : ∀ a, 0 < (f a).length)
    (as : List α) : as.length ≤ (as.flatMap f).length := by
  induction as with
  | nil => exact Nat.zero_le _
  | cons a as ih =>
    have ha := h a
    rw [List.flatMap_cons, List.length_append, List.length_cons]
    omega

theorem length_flatMap_le {α β : Type} {f : α → List β} {n : ℕ} (h : ∀ a, (f a).length ≤ n)
    (as : List α) : (as.flatMap f).length ≤ n * as.length := by
  induction as with
  | nil => exact Nat.zero_le _
  | cons a as ih =>
    have ha := h a
    rw [List.flatMap_cons, List.length_append, List.length_cons, Nat.mul_succ]
    omega

theorem length_escape_pos (c : Char) : 0 < (escape c).length := by
  rw [escape]
  split_ifs <;> exact Nat.succ_pos _

theorem length_escape_le (c : Char) : (escape c).length ≤ 6 := by
  rw [escape]
  split_ifs <;> simp

theorem length_lt_length_quote (s : String) : s.length < (quote s).length := by
  have h := length_le_length_flatMap length_escape_pos s.toList
  rw [String.length_toList] at h
  rw [quote, List.length_cons, List.length_append]
  omega

theorem length_quote_le (s : String) : (quote s).length ≤ 6 * s.length + 2 := by
  have h := length_flatMap_le length_escape_le s.toList
  rw [String.length_toList] at h
  rw [quote, List.length_cons, List.length_append, List.length_singleton]
  omega

theorem length_le_length_utf8 (cs : List Char) : cs.length ≤ (utf8 cs).length :=
  length_le_length_flatMap (fun c ↦ by
    rw [String.length_utf8EncodeChar]
    exact Char.utf8Size_pos c) cs

theorem length_utf8_le (cs : List Char) : (utf8 cs).length ≤ 4 * cs.length :=
  length_flatMap_le (fun c ↦ by
    rw [String.length_utf8EncodeChar]
    exact Char.utf8Size_le_four c) cs

theorem le_length_compactItems {n : ℕ} {vs : List Value} (h : ∀ v ∈ vs, n ≤ v.compact.length) :
    n * vs.length ≤ (compactItems vs).length := by
  induction vs with
  | nil => exact Nat.zero_le _
  | cons v vs ih =>
    have hv := h v List.mem_cons_self
    have hvs := ih fun w hw ↦ h w (List.mem_cons_of_mem _ hw)
    rw [compactItems, List.length_cons, List.length_cons, List.length_append, Nat.mul_succ]
    omega

theorem le_length_compact_array {n : ℕ} {vs : List Value} (h : ∀ v ∈ vs, n ≤ v.compact.length) :
    n * vs.length ≤ (Value.array vs).compact.length := by
  have hitems := le_length_compactItems h
  cases vs with
  | nil => exact Nat.zero_le _
  | cons v vs =>
    exact hitems

example : (Value.object [("id", .int 3), ("tags", .array [.string "a\n", .null])]).compact =
    "\x7b\"id\":3,\"tags\":[\"a\\n\",null]\x7d".toList := by decide

end Json
