import Mathlib.Data.List.Infix

/-!
# Character classes and text operations

The operations of `char` and `str` that the daemon's validators and its diagnostic classifier use.
Texts are `String`; an operation that looks at characters goes through the list of its characters.
-/

namespace Text

/-! ## Character classes -/

/-- `char::is_whitespace`: the Unicode property `White_Space`. -/
def isWhitespace (c : Char) : Bool :=
  let n := c.toNat
  (9 ≤ n && n ≤ 13) || n == 0x20 || n == 0x85 || n == 0xA0 || n == 0x1680 ||
    (0x2000 ≤ n && n ≤ 0x200A) || n == 0x2028 || n == 0x2029 || n == 0x202F || n == 0x205F ||
    n == 0x3000

/-- `char::is_control`: the Unicode general category `Cc`. -/
def isControl (c : Char) : Bool :=
  let n := c.toNat
  n ≤ 0x1F || (0x7F ≤ n && n ≤ 0x9F)

/-- `char::to_ascii_lowercase`. -/
def toAsciiLowercase (c : Char) : Char :=
  if 'A' ≤ c ∧ c ≤ 'Z' then Char.ofNat (c.toNat + 32) else c

/-! ## Texts -/

/-- `str::trim`, on characters. -/
def trim (cs : List Char) : List Char :=
  ((cs.dropWhile isWhitespace).reverse.dropWhile isWhitespace).reverse

theorem trim_eq_self {cs : List Char} (h : ∀ c ∈ cs, isWhitespace c = false) : trim cs = cs := by
  have hkeep : ∀ ds : List Char, (∀ c ∈ ds, isWhitespace c = false) →
      ds.dropWhile isWhitespace = ds := by
    intro ds hds
    cases ds with
    | nil => rfl
    | cons d ds =>
      rw [List.dropWhile_cons_of_neg]
      simp [hds d List.mem_cons_self]
  rw [trim, hkeep cs h, hkeep cs.reverse fun c hc ↦ h c (List.mem_reverse.mp hc),
    List.reverse_reverse]

/-- A run of characters of a kind ends in front of a character of another kind. -/
theorem span_append {p : Char → Bool} {cs ds : List Char} (hcs : ∀ c ∈ cs, p c = true)
    (hds : ∀ d ∈ ds.head?, p d = false) :
    (cs ++ ds).takeWhile p = cs ∧ (cs ++ ds).dropWhile p = ds := by
  rw [List.takeWhile_append_of_pos hcs, List.dropWhile_append_of_pos hcs]
  rcases ds with _ | ⟨d, ds⟩
  · simp
  · have hd := hds d rfl
    rw [List.takeWhile_cons_of_neg (ne_true_of_eq_false hd),
      List.dropWhile_cons_of_neg (ne_true_of_eq_false hd), List.append_nil]
    exact ⟨rfl, rfl⟩

/-- `str::contains` for a text pattern. -/
def contains (text pattern : List Char) : Bool := decide (pattern <:+: text)

/-- A pattern does not lie across a character that it does not have. -/
theorem infix_append_cons_iff {p a b : List Char} {c : Char} (hc : c ∉ p) :
    p <:+: a ++ c :: b ↔ p <:+: a ∨ p <:+: b := by
  constructor
  · intro h
    induction a with
    | nil =>
      rcases List.infix_cons_iff.mp h with hprefix | hrest
      · rcases p with _ | ⟨d, p⟩
        · exact Or.inl List.nil_infix
        · obtain ⟨rfl, -⟩ := List.cons_prefix_cons.mp hprefix
          exact absurd List.mem_cons_self hc
      · exact Or.inr hrest
    | cons d a ih =>
      rcases List.infix_cons_iff.mp h with hprefix | hrest
      · -- a prefix that reaches the character has it
        left
        rcases List.prefix_or_prefix_of_prefix hprefix (List.prefix_append (d :: a) (c :: b)) with
          hshort | ⟨q, hlong⟩
        · exact hshort.isInfix
        · rcases q with _ | ⟨e, q⟩
          · rw [List.append_nil] at hlong
            exact hlong ▸ List.infix_rfl
          · rw [← hlong] at hprefix
            have hrest := (List.prefix_append_right_inj (d :: a)).mp hprefix
            obtain ⟨rfl, -⟩ := List.cons_prefix_cons.mp hrest
            exact absurd (hlong ▸ List.mem_append_right _ List.mem_cons_self) hc
      · exact (ih hrest).imp_left List.infix_cons
  · rintro (h | h)
    · exact List.infix_append_of_infix_left h
    · exact List.infix_append_of_infix_right (List.infix_cons h)

theorem not_infix_of_not_mem {p a : List Char} {c : Char} (hp : c ∈ p) (ha : c ∉ a) :
    ¬ p <:+: a :=
  fun h ↦ ha (h.subset hp)

def head (text : String) : List Char := text.toList.takeWhile (· ≠ ':')

/-- A text put together from a fixed part without a colon and what follows a colon has the fixed
part as its head, whatever follows. -/
theorem head_append {fixed rest : String} (h : ∀ c ∈ fixed.toList, c ≠ ':')
    (hrest : ∃ cs, rest.toList = ':' :: cs) : head (fixed ++ rest) = fixed.toList := by
  obtain ⟨cs, hcs⟩ := hrest
  rw [head, String.toList_append, hcs, List.takeWhile_append_of_pos (by simpa using h)]
  simp

end Text
