import TunnelDeck.Text.Lines

/-!
# Decimal numbers

A number is printed in decimal digits, and a port is read back from what it is printed as.
-/

namespace Text

theorem toDigit_of_isDigit {c : Char} (h : c.isDigit = true) :
    IpAddr.toDigit 10 c = some (c.toNat - '0'.toNat) := by
  have hbounds : '0' ≤ c ∧ c ≤ '9' := by
    simp only [Char.isDigit, Bool.and_eq_true, decide_eq_true_eq] at h
    exact h
  have hnine : c.toNat ≤ 57 := hbounds.2
  rw [IpAddr.toDigit]
  simp only [if_pos hbounds, Option.filter_some]
  rw [if_pos]
  rw [decide_eq_true_iff, show '0'.toNat = 48 from rfl]
  omega

theorem mapM_toDigit_of_isDigit {cs : List Char} (h : ∀ c ∈ cs, c.isDigit = true) :
    cs.mapM (IpAddr.toDigit 10) = some (cs.map fun c ↦ c.toNat - '0'.toNat) := by
  induction cs with
  | nil => rfl
  | cons c cs ih =>
    rw [List.mapM_cons, toDigit_of_isDigit (h c List.mem_cons_self),
      ih fun d hd ↦ h d (List.mem_cons_of_mem _ hd)]
    rfl

theorem isWhitespace_of_isDigit {c : Char} (h : c.isDigit = true) : isWhitespace c = false := by
  have hbounds : 48 ≤ c.toNat ∧ c.toNat ≤ 57 := by
    simp only [Char.isDigit, Bool.and_eq_true, decide_eq_true_eq] at h
    exact h
  simp only [isWhitespace, Bool.or_eq_false_iff, Bool.and_eq_false_iff, decide_eq_false_iff_not,
    beq_eq_false_iff_ne]
  omega

theorem isDigit_of_mem_toString {n : ℕ} {c : Char} (h : c ∈ (toString n).toList) :
    c.isDigit = true := by
  rw [Nat.toString_eq_repr, Nat.toList_repr] at h
  exact Nat.isDigit_of_mem_toDigits (by decide) (by decide) h

theorem toList_toString_ne_nil (n : ℕ) : (toString n).toList ≠ [] := by
  rw [Nat.toString_eq_repr, Nat.toList_repr]
  exact Nat.toDigits_ne_nil

/-- **A port is read back from its text.** -/
theorem parseU16_toString (port : UInt16) :
    parseU16 (toString port.toNat).toList = some port := by
  have hne := toList_toString_ne_nil port.toNat
  have hdigits : ∀ c ∈ (toString port.toNat).toList, c.isDigit = true :=
    fun c hc ↦ isDigit_of_mem_toString hc
  have hplus : (toString port.toNat).toList.head? ≠ some '+' := by
    intro h
    exact absurd (hdigits '+' (List.mem_of_head? h)) (by decide)
  have hvalue : ((toString port.toNat).toList.map fun c ↦ c.toNat - '0'.toNat).foldl
      (fun n d ↦ n * 10 + d) 0 = port.toNat := by
    rw [List.foldl_map, Nat.toString_eq_repr, Nat.toList_repr]
    refine Eq.trans ?_ (Nat.ofDigitChars_ten_toDigits (n := port.toNat))
    rw [Nat.ofDigitChars_eq_foldl]
    simp only [Nat.mul_comm]
  simp only [parseU16, if_neg hplus, if_neg hne, mapM_toDigit_of_isDigit hdigits, hvalue]
  rw [if_pos port.toNat_lt, UInt16.ofNat_toNat]

end Text
