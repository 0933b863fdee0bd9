import Mathlib.Data.List.TakeWhile
import TunnelDeck.Text.Lines

/-!
# Parts that are put together

What the operations of `Text.Lines` give for a text that was put together from lines, fields and
parts: they give the parts back.
-/

namespace Text

/-! ## Lines -/

theorem linesFrom_append {before cs : List Char} (h : '\n' ∉ cs) (rest : List Char) :
    linesFrom before (cs ++ rest) = linesFrom (cs.reverse ++ before) rest := by
  induction cs generalizing before with
  | nil => rfl
  | cons c cs ih =>
    rw [List.mem_cons, not_or] at h
    rw [List.cons_append, linesFrom, if_neg (Ne.symm h.1), ih h.2, List.reverse_cons,
      List.append_assoc, List.singleton_append]

/-- Lines that a newline ends are read as they are, but for a carriage return. -/
theorem lines_flatMap {ls : List (List Char)} (h : ∀ l ∈ ls, '\n' ∉ l) :
    lines (ls.flatMap fun l ↦ l ++ ['\n']) = ls.map stripReturn := by
  induction ls with
  | nil => rfl
  | cons l ls ih =>
    rw [List.flatMap_cons, List.append_assoc, lines, linesFrom_append (h l List.mem_cons_self),
      List.append_nil, List.singleton_append, linesFrom, if_pos rfl, List.reverse_reverse,
      List.map_cons]
    exact congrArg _ (ih fun l' hl' ↦ h l' (List.mem_cons_of_mem _ hl'))

theorem stripReturn_eq_self {cs : List Char} (h : '\r' ∉ cs) : stripReturn cs = cs :=
  if_neg fun hlast ↦ h (List.mem_of_getLast? hlast)

/-- A line differs from the text in front of its newline by a carriage return at most. -/
theorem eq_stripReturn_or (cs : List Char) :
    cs = stripReturn cs ∨ cs = stripReturn cs ++ ['\r'] := by
  rw [stripReturn]
  split
  · rename_i hlast
    exact Or.inr (List.dropLast_append_getLast? '\r' hlast).symm
  · exact Or.inl rfl

/-! ## Parts -/

section

variable {p : Char → Bool} {cs rest : List Char} {c : Char}

theorem splitOnce_append (hcs : ∀ d ∈ cs, p d = false) (hc : p c = true) :
    splitOnce p (cs ++ c :: rest) = some (cs, rest) := by
  have hkeep : ∀ d ∈ cs, (fun d ↦ !p d) d = true := fun d hd ↦ by simp [hcs d hd]
  have hstop : ∀ d ∈ (c :: rest).head?, (fun d ↦ !p d) d = false := by
    rintro d ⟨rfl⟩
    simp [hc]
  rw [splitOnce, (span_append hkeep hstop).1, (span_append hkeep hstop).2]

theorem eq_append_of_splitOnce {before : List Char} (h : splitOnce p cs = some (before, rest)) :
    ∃ c, p c = true ∧ (∀ d ∈ before, p d = false) ∧ cs = before ++ c :: rest := by
  rw [splitOnce] at h
  split at h
  · cases h
  · rename_i c rest' hdrop
    cases h
    refine ⟨c, ?_, fun d hd ↦ by simpa using List.mem_takeWhile_imp hd, ?_⟩
    · have hhead := List.head?_dropWhile_not (fun d ↦ !p d) cs
      rw [hdrop] at hhead
      simpa using hhead
    · rw [← hdrop, List.takeWhile_append_dropWhile]

theorem rsplitOnce_append (hrest : ∀ d ∈ rest, p d = false) (hc : p c = true) :
    rsplitOnce p (cs ++ c :: rest) = some (cs, rest) := by
  have hreverse : (cs ++ c :: rest).reverse = rest.reverse ++ c :: cs.reverse := by simp
  rw [rsplitOnce, hreverse, splitOnce_append (fun d hd ↦ hrest d (List.mem_reverse.mp hd)) hc,
    Option.map_some, List.reverse_reverse, List.reverse_reverse]

end

/-! ## Fields -/

theorem splitWhitespace_append_cons {w : Char} (hw : isWhitespace w = true) (cs rest : List Char) :
    splitWhitespace (cs ++ w :: rest) = splitWhitespace cs ++ splitWhitespace rest := by
  rw [splitWhitespace, List.splitOnP_append_cons cs rest hw, List.filter_append]
  rfl

theorem splitWhitespace_blank {blank : List Char} (h : ∀ c ∈ blank, isWhitespace c = true)
    (cs : List Char) : splitWhitespace (blank ++ cs) = splitWhitespace cs := by
  induction blank with
  | nil => rfl
  | cons c blank ih =>
    have hc := splitWhitespace_append_cons (h c List.mem_cons_self) [] (blank ++ cs)
    rw [List.cons_append, ← ih fun d hd ↦ h d (List.mem_cons_of_mem _ hd)]
    exact hc

theorem splitWhitespace_append {cs rest : List Char}
    (h : ∀ d ∈ rest.head?, isWhitespace d = true) :
    splitWhitespace (cs ++ rest) = splitWhitespace cs ++ splitWhitespace rest := by
  cases rest with
  | nil => rw [List.append_nil]; exact (List.append_nil _).symm
  | cons w rest =>
    have hw := h w rfl
    rw [splitWhitespace_append_cons hw]
    exact congrArg _ (splitWhitespace_append_cons hw [] rest).symm

theorem splitWhitespace_field {field : List Char} (hne : field ≠ [])
    (h : ∀ c ∈ field, isWhitespace c = false) : splitWhitespace field = [field] := by
  rw [splitWhitespace, List.splitOnP_eq_singleton h]
  simp [hne]

/-- Fields, each behind white space. -/
def spaced (parts : List (List Char × List Char)) : List Char :=
  parts.flatMap fun part ↦ part.1 ++ part.2

/-- White space, and a field behind it. -/
structure SpacedField (part : List Char × List Char) : Prop where
  blank_ne_nil : part.1 ≠ []
  blank : ∀ c ∈ part.1, isWhitespace c = true
  field_ne_nil : part.2 ≠ []
  field : ∀ c ∈ part.2, isWhitespace c = false

theorem splitWhitespace_spaced {parts : List (List Char × List Char)}
    (h : ∀ part ∈ parts, SpacedField part) :
    splitWhitespace (spaced parts) = parts.map Prod.snd := by
  induction parts with
  | nil => rfl
  | cons part parts ih =>
    have hpart := h part List.mem_cons_self
    have hhead : ∀ d ∈ (spaced parts).head?, isWhitespace d = true := by
      intro d hd
      rcases parts with _ | ⟨next, parts⟩
      · cases hd
      · have hnext := h next (by simp)
        rcases hblank : next.1 with _ | ⟨w, blank⟩
        · exact absurd hblank hnext.blank_ne_nil
        · rw [spaced, List.flatMap_cons, hblank] at hd
          obtain rfl : w = d := Option.some.inj hd
          exact hnext.blank w (by rw [hblank]; exact List.mem_cons_self)
    rw [spaced, List.flatMap_cons, List.append_assoc, splitWhitespace_blank hpart.blank]
    refine (splitWhitespace_append hhead).trans ?_
    rw [splitWhitespace_field hpart.field_ne_nil hpart.field,
      ih fun other hother ↦ h other (List.mem_cons_of_mem _ hother)]
    rfl

/-! ## White space around a text -/

theorem splitWhitespace_trim (cs : List Char) :
    splitWhitespace (trim cs) = splitWhitespace cs := by
  set ds := cs.dropWhile isWhitespace with hds
  set blank := (ds.reverse.takeWhile isWhitespace).reverse with hblank
  have hcs : cs = cs.takeWhile isWhitespace ++ ds := List.takeWhile_append_dropWhile.symm
  have htail : ds = trim cs ++ blank := by
    rw [trim, hblank, ← List.reverse_append, List.takeWhile_append_dropWhile, List.reverse_reverse]
  have hspace : ∀ c ∈ blank, isWhitespace c = true :=
    fun c hc ↦ List.mem_takeWhile_imp (List.mem_reverse.mp hc)
  have hfront : ∀ c ∈ cs.takeWhile isWhitespace, isWhitespace c = true :=
    fun c hc ↦ List.mem_takeWhile_imp hc
  have hnone : splitWhitespace blank = [] := by
    have h := splitWhitespace_blank hspace []
    rwa [List.append_nil] at h
  calc splitWhitespace (trim cs)
      = splitWhitespace (trim cs) ++ splitWhitespace blank := by rw [hnone, List.append_nil]
    _ = splitWhitespace ds := by
        rw [← splitWhitespace_append fun d hd ↦ hspace d (List.mem_of_head? hd), ← htail]
    _ = splitWhitespace cs := by
        rw [← splitWhitespace_blank hfront ds, ← hcs]

theorem trim_append_singleton {w : Char} (hw : isWhitespace w = true) (cs : List Char) :
    trim (cs ++ [w]) = trim cs := by
  rw [trim, trim, List.dropWhile_append]
  split
  · rename_i hnil
    rw [List.isEmpty_iff.mp hnil, List.dropWhile_cons_of_pos hw]
    rfl
  · rw [List.reverse_append, List.reverse_singleton, List.singleton_append,
      List.dropWhile_cons_of_pos hw]

theorem toAsciiLowercase_of_isWhitespace {c : Char} (h : isWhitespace c = true) :
    toAsciiLowercase c = c := by
  refine if_neg fun hletter ↦ ?_
  have hlow : 65 ≤ c.toNat := hletter.1
  have hhigh : c.toNat ≤ 90 := hletter.2
  simp only [isWhitespace, Bool.or_eq_true, Bool.and_eq_true, decide_eq_true_eq,
    beq_iff_eq] at h
  omega

end Text
