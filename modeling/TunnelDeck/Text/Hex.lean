import Mathlib.Algebra.Group.Nat.Defs
import TunnelDeck.Text.IpAddr

/-!
# The text of a UUID

A UUID is printed as 32 lower-case hexadecimal digits in groups of 8, 4, 4, 4 and 12 with hyphens
between them. Reading accepts this form and the one without hyphens, in either case.
-/

namespace Text

/-! ## Hexadecimal digits -/

def hexDigit (n : ℕ) : Char := if n < 10 then Char.ofNat (48 + n) else Char.ofNat (87 + n)

/-- The last `k` digits of a number, the most significant first. -/
def lastDigits : ℕ → ℕ → List ℕ
  | 0, _ => []
  | k + 1, n => lastDigits k (n / 16) ++ [n % 16]

theorem length_lastDigits (k n : ℕ) : (lastDigits k n).length = k := by
  induction k generalizing n with
  | zero => rfl
  | succ k ih => rw [lastDigits, List.length_append, ih, List.length_singleton]

theorem lt_of_mem_lastDigits {k n d : ℕ} (h : d ∈ lastDigits k n) : d < 16 := by
  induction k generalizing n with
  | zero => cases h
  | succ k ih =>
    rcases List.mem_append.mp h with h | h
    · exact ih h
    · rw [List.mem_singleton.mp h]
      exact Nat.mod_lt _ (by decide)

/-- Reading the last digits of a number gives the number, up to the digits left out. -/
theorem foldl_lastDigits (k n : ℕ) :
    (lastDigits k n).foldl (fun m d ↦ m * 16 + d) 0 = n % 16 ^ k := by
  induction k generalizing n with
  | zero => rw [Nat.pow_zero, Nat.mod_one]; rfl
  | succ k ih =>
    rw [lastDigits, List.foldl_append, ih, List.foldl_cons, List.foldl_nil, Nat.pow_succ',
      Nat.mod_mul]
    omega

theorem toDigit_hexDigit : ∀ d < 16, IpAddr.toDigit 16 (hexDigit d) = some d := by decide

theorem hexDigit_ne_hyphen : ∀ d < 16, hexDigit d ≠ '-' := by decide

theorem mapM_toDigit_hexDigit {ds : List ℕ} (h : ∀ d ∈ ds, d < 16) :
    (ds.map hexDigit).mapM (IpAddr.toDigit 16) = some ds := by
  induction ds with
  | nil => rfl
  | cons d ds ih =>
    rw [List.map_cons, List.mapM_cons, toDigit_hexDigit d (h d List.mem_cons_self),
      ih fun d hd ↦ h d (List.mem_cons_of_mem _ hd)]
    rfl

/-! ## UUIDs -/

/-- The digits with hyphens after the 8th, 12th, 16th and 20th. -/
def hyphenate (cs : List Char) : List Char :=
  cs.take 8 ++ '-' :: (cs.drop 8).take 4 ++ '-' :: (cs.drop 12).take 4 ++
    '-' :: (cs.drop 16).take 4 ++ '-' :: cs.drop 20

def formatUuid (id : BitVec 128) : String :=
  String.ofList (hyphenate ((lastDigits 32 id.toNat).map hexDigit))

theorem length_hyphenate {cs : List Char} (h : cs.length = 32) : (hyphenate cs).length = 36 := by
  simp [hyphenate, h]

theorem length_formatUuid (id : BitVec 128) : (formatUuid id).length = 36 := by
  rw [formatUuid, String.length_ofList]
  exact length_hyphenate (by rw [List.length_map, length_lastDigits])

theorem mem_formatUuid {id : BitVec 128} {c : Char} (h : c ∈ (formatUuid id).toList) :
    c = '-' ∨ ∃ d < 16, c = hexDigit d := by
  have hdigit : ∀ c ∈ (lastDigits 32 id.toNat).map hexDigit, ∃ d < 16, c = hexDigit d := by
    intro c hc
    obtain ⟨d, hd, rfl⟩ := List.mem_map.mp hc
    exact ⟨d, lt_of_mem_lastDigits hd, rfl⟩
  rw [formatUuid, String.toList_ofList, hyphenate] at h
  simp only [List.mem_append, List.mem_cons] at h
  rcases h with (((h | h | h) | h | h) | h | h) | h | h
  · exact Or.inr (hdigit c (List.mem_of_mem_take h))
  · exact Or.inl h
  · exact Or.inr (hdigit c (List.mem_of_mem_drop (List.mem_of_mem_take h)))
  · exact Or.inl h
  · exact Or.inr (hdigit c (List.mem_of_mem_drop (List.mem_of_mem_take h)))
  · exact Or.inl h
  · exact Or.inr (hdigit c (List.mem_of_mem_drop (List.mem_of_mem_take h)))
  · exact Or.inl h
  · exact Or.inr (hdigit c (List.mem_of_mem_drop h))

/-- Reads a UUID with its hyphens or without. -/
def parseUuid (text : String) : Option (BitVec 128) :=
  let cs := text.toList.filter (· ≠ '-')
  if cs.length = 32 ∧ (text.toList = cs ∨ text.toList = hyphenate cs) then
    (cs.mapM (IpAddr.toDigit 16)).map fun ds ↦
      BitVec.ofNat 128 (ds.foldl (fun m d ↦ m * 16 + d) 0)
  else none

theorem filter_hyphenate {cs : List Char} (h : ∀ c ∈ cs, c ≠ '-') :
    (hyphenate cs).filter (· ≠ '-') = cs := by
  have hkeep : ∀ part : List Char, part.Sublist cs → part.filter (· ≠ '-') = part :=
    fun part hpart ↦ List.filter_eq_self.mpr fun c hc ↦ by simpa using h c (hpart.subset hc)
  have hskip : ∀ part : List Char, ('-' :: part).filter (· ≠ '-') = part.filter (· ≠ '-') :=
    fun part ↦ List.filter_cons_of_neg (by simp)
  have hjoin : ∀ n m : ℕ, (cs.drop n).take m ++ cs.drop (n + m) = cs.drop n := by
    intro n m
    rw [← List.drop_drop, List.take_append_drop]
  rw [hyphenate]
  simp only [List.filter_append, hskip]
  rw [hkeep _ (List.take_sublist ..), hkeep _ ((List.take_sublist ..).trans (List.drop_sublist ..)),
    hkeep _ ((List.take_sublist ..).trans (List.drop_sublist ..)),
    hkeep _ ((List.take_sublist ..).trans (List.drop_sublist ..)), hkeep _ (List.drop_sublist ..)]
  rw [List.append_assoc, List.append_assoc, List.append_assoc, hjoin 16 4, hjoin 12 4, hjoin 8 4,
    List.take_append_drop]

/-- **A UUID is read back from its text.** -/
theorem parseUuid_formatUuid (id : BitVec 128) : parseUuid (formatUuid id) = some id := by
  have hdigits : ∀ c ∈ (lastDigits 32 id.toNat).map hexDigit, c ≠ '-' := by
    intro c hc
    obtain ⟨d, hd, rfl⟩ := List.mem_map.mp hc
    exact hexDigit_ne_hyphen d (lt_of_mem_lastDigits hd)
  have hfilter := filter_hyphenate hdigits
  have hvalue : BitVec.ofNat 128 (id.toNat % 16 ^ 32) = id := by
    rw [Nat.mod_eq_of_lt (by simpa using id.isLt), BitVec.ofNat_toNat, BitVec.setWidth_eq]
  rw [parseUuid, formatUuid, String.toList_ofList, hfilter, if_pos
    ⟨by rw [List.length_map, length_lastDigits], Or.inr rfl⟩,
    mapM_toDigit_hexDigit fun d hd ↦ lt_of_mem_lastDigits hd, Option.map_some, foldl_lastDigits,
    hvalue]

example : formatUuid 0x123e4567e89b12d3a456426614174000 =
    "123e4567-e89b-12d3-a456-426614174000" := by decide

end Text
