import TunnelDeck.Text.Chars
import TunnelDeck.Text.IpAddr

/-!
# What a literal address is made of

The readers of `IpAddr` pass over hexadecimal digits, dots and colons only, so a text that is read
to its end holds nothing else. Such a text has no white space, no control character and no bracket,
and it does not look like an option.
-/

namespace Text.IpAddr

/-! ## Characters of addresses -/

/-- A hexadecimal digit, a dot or a colon. -/
def AddressChar (c : Char) : Prop := (toDigit 16 c).isSome ∨ c = '.' ∨ c = ':'

theorem toNat_of_toDigit {radix : ℕ} {c : Char} (h : (toDigit radix c).isSome) :
    48 ≤ c.toNat ∧ c.toNat ≤ 57 ∨ 97 ≤ c.toNat ∧ c.toNat ≤ 102 ∨
      65 ≤ c.toNat ∧ c.toNat ≤ 70 := by
  rw [toDigit] at h
  split at h
  · next hdigit => exact Or.inl hdigit
  split at h
  · next hlower => exact Or.inr (Or.inl hlower)
  split at h
  · next hupper => exact Or.inr (Or.inr hupper)
  · cases h

theorem AddressChar.toNat {c : Char} (h : AddressChar c) :
    48 ≤ c.toNat ∧ c.toNat ≤ 57 ∨ 97 ≤ c.toNat ∧ c.toNat ≤ 102 ∨
      65 ≤ c.toNat ∧ c.toNat ≤ 70 ∨ c.toNat = 46 ∨ c.toNat = 58 := by
  rcases h with h | rfl | rfl
  · have := toNat_of_toDigit h
    omega
  · decide
  · decide

theorem AddressChar.isWhitespace {c : Char} (h : AddressChar c) : isWhitespace c = false := by
  have := h.toNat
  simp only [Text.isWhitespace, Bool.or_eq_false_iff, Bool.and_eq_false_iff,
    decide_eq_false_iff_not, beq_eq_false_iff_ne]
  omega

theorem AddressChar.isControl {c : Char} (h : AddressChar c) : isControl c = false := by
  have := h.toNat
  simp only [Text.isControl, Bool.or_eq_false_iff, Bool.and_eq_false_iff, decide_eq_false_iff_not]
  omega

/-- A character elsewhere in the table is none of an address. -/
theorem AddressChar.ne {c d : Char} (h : AddressChar c)
    (hd : d.toNat = 45 ∨ d.toNat = 91 ∨ d.toNat = 93) : c ≠ d := by
  rintro rfl
  have := h.toNat
  omega

theorem addressChar_of_toDigit {radix : ℕ} {c : Char} (h : (toDigit radix c).isSome) :
    AddressChar c := by
  refine Or.inl ?_
  have hbounds := toNat_of_toDigit h
  rw [toDigit]
  have hdigit : ('0' ≤ c ∧ c ≤ '9') ↔ (48 ≤ c.toNat ∧ c.toNat ≤ 57) := Iff.rfl
  have hlower : ('a' ≤ c ∧ c ≤ 'f') ↔ (97 ≤ c.toNat ∧ c.toNat ≤ 102) := Iff.rfl
  have hupper : ('A' ≤ c ∧ c ≤ 'F') ↔ (65 ≤ c.toNat ∧ c.toNat ≤ 70) := Iff.rfl
  have h0 : '0'.toNat = 48 := rfl
  have ha : 'a'.toNat = 97 := rfl
  have hA : 'A'.toNat = 65 := rfl
  simp only [hdigit, hlower, hupper, h0, ha, hA]
  split
  · rw [Option.filter_some, if_pos (by rw [decide_eq_true_iff]; omega)]
    rfl
  split
  · rw [Option.filter_some, if_pos (by rw [decide_eq_true_iff]; omega)]
    rfl
  split
  · rw [Option.filter_some, if_pos (by rw [decide_eq_true_iff]; omega)]
    rfl
  · omega

/-! ## Reading passes over such characters -/

/-- What was read in front of the rest is of this kind. -/
def Passes (cs rest : List Char) : Prop := ∃ used, cs = used ++ rest ∧ ∀ c ∈ used, AddressChar c

theorem Passes.refl (cs : List Char) : Passes cs cs := ⟨[], rfl, by simp⟩

theorem Passes.trans {cs ds es : List Char} (h : Passes cs ds) (h' : Passes ds es) :
    Passes cs es := by
  obtain ⟨used, rfl, hused⟩ := h
  obtain ⟨used', rfl, hused'⟩ := h'
  refine ⟨used ++ used', (List.append_assoc ..).symm, fun c hc ↦ ?_⟩
  exact (List.mem_append.mp hc).elim (hused c) (hused' c)

theorem Passes.cons {c : Char} {cs rest : List Char} (hc : AddressChar c) (h : Passes cs rest) :
    Passes (c :: cs) rest :=
  Passes.trans ⟨[c], rfl, by simpa using hc⟩ h

theorem passes_readDigits (radix : ℕ) (cs : List Char) : Passes cs (readDigits radix cs).2 := by
  induction cs with
  | nil => exact .refl _
  | cons c cs ih =>
    rw [readDigits]
    split
    · next d hd => exact .cons (addressChar_of_toDigit (Option.isSome_of_eq_some hd)) ih
    · exact .refl _

theorem passes_readNumber {radix maxDigits bound : ℕ} {allowZeroPrefix : Bool} {cs : List Char}
    {value : ℕ} {rest : List Char}
    (h : readNumber radix maxDigits bound allowZeroPrefix cs = some (value, rest)) :
    Passes cs rest := by
  have hpass := passes_readDigits radix cs
  simp only [readNumber] at h
  split at h
  · cases h
  split at h
  · cases h
  split at h
  · cases h
    exact hpass
  · cases h

theorem passes_readChar {c : Char} (hc : AddressChar c) {cs rest : List Char}
    (h : readChar c cs = some rest) : Passes cs rest := by
  cases cs with
  | nil => cases h
  | cons d ds =>
    rw [readChar] at h
    split at h
    · next hd =>
      cases h
      exact .cons (hd ▸ hc) (.refl _)
    · cases h

theorem passes_readSeparator {sep : Char} (hsep : AddressChar sep) {index : ℕ}
    {cs rest : List Char} (h : readSeparator sep index cs = some rest) : Passes cs rest := by
  rw [readSeparator] at h
  split at h
  · cases h
    exact .refl _
  · exact passes_readChar hsep h

theorem addressChar_dot : AddressChar '.' := Or.inr (Or.inl rfl)

theorem addressChar_colon : AddressChar ':' := Or.inr (Or.inr rfl)

theorem passes_readV4Group {index value : ℕ} {cs rest : List Char}
    (h : readV4Group index cs = some (value, rest)) : Passes cs rest := by
  obtain ⟨ds, hsep, hnumber⟩ := Option.bind_eq_some_iff.mp h
  exact (passes_readSeparator addressChar_dot hsep).trans (passes_readNumber hnumber)

theorem passes_readIpv4 {bits : BitVec 32} {cs rest : List Char}
    (h : readIpv4 cs = some (bits, rest)) : Passes cs rest := by
  obtain ⟨⟨a, as⟩, ha, h⟩ := Option.bind_eq_some_iff.mp h
  obtain ⟨⟨b, bs⟩, hb, h⟩ := Option.bind_eq_some_iff.mp h
  obtain ⟨⟨c, cs'⟩, hc, h⟩ := Option.bind_eq_some_iff.mp h
  obtain ⟨⟨d, ds⟩, hd, h⟩ := Option.bind_eq_some_iff.mp h
  cases h
  exact (((passes_readV4Group ha).trans (passes_readV4Group hb)).trans
    (passes_readV4Group hc)).trans (passes_readV4Group hd)

theorem passes_readGroups (limit fuel index : ℕ) (cs : List Char) :
    Passes cs (readGroups limit fuel index cs).2.2 := by
  induction fuel generalizing index cs with
  | zero => exact .refl _
  | succ fuel ih =>
    rw [readGroups]
    split
    · next bits rest hembedded =>
      split at hembedded
      · obtain ⟨ds, hsep, hv4⟩ := Option.bind_eq_some_iff.mp hembedded
        exact (passes_readSeparator addressChar_colon hsep).trans (passes_readIpv4 hv4)
      · cases hembedded
    · split
      · next group rest hgroup =>
        obtain ⟨ds, hsep, hnumber⟩ := Option.bind_eq_some_iff.mp hgroup
        exact ((passes_readSeparator addressChar_colon hsep).trans
          (passes_readNumber hnumber)).trans (ih (index + 1) rest)
      · exact .refl _

theorem passes_readIpv6 {bits : BitVec 128} {cs rest : List Char}
    (h : readIpv6 cs = some (bits, rest)) : Passes cs rest := by
  have hhead := passes_readGroups 8 8 0 cs
  rw [readIpv6] at h
  split at h
  next head headIpv4 ds hgroups =>
  rw [hgroups] at hhead
  split at h
  · cases h
    exact hhead
  split at h
  · cases h
  obtain ⟨es, hfirst, h⟩ := Option.bind_eq_some_iff.mp h
  obtain ⟨fs, hsecond, h⟩ := Option.bind_eq_some_iff.mp h
  have htail := passes_readGroups (8 - (head.length + 1)) (8 - (head.length + 1)) 0 fs
  cases h
  exact ((hhead.trans (passes_readChar addressChar_colon hfirst)).trans
    (passes_readChar addressChar_colon hsecond)).trans htail

/-- **A literal address is made of hexadecimal digits, dots and colons.** -/
theorem addressChar_of_parse {text : String} (h : (parse text).isSome) :
    ∀ c ∈ text.toList, AddressChar c := by
  have hwhole {cs : List Char} (hpass : Passes cs []) : ∀ c ∈ cs, AddressChar c := by
    obtain ⟨used, rfl, hused⟩ := hpass
    rwa [List.append_nil]
  rw [parse] at h
  split at h
  · next bits hv4 => exact hwhole (passes_readIpv4 hv4)
  · cases h
  split at h
  · next bits hv6 => exact hwhole (passes_readIpv6 hv6)
  · cases h

end Text.IpAddr
