import Mathlib.Data.List.Infix
import Mathlib.Logic.Function.Basic

/-!
# Sections of a text

A text can hold a list of sections, each between an opening and a closing tag that carry its name,
so that a program can find the section of a name again and write another one in its place. A tag
begins with `<`, ends with `>`, and has neither of them inside. Where nothing else in the text has a
`<`, a search for a tag finds that tag alone: no tag begins inside of a piece without `<`, and none
is the beginning of another.

Then writing a section is the update of a list of pairs: `write_document`.
-/

namespace Text

/-! ## The first place of a pattern -/

/-- What is in front of the first place of a pattern in a text, and what is behind it. -/
def cut (pattern : List Char) : List Char → Option (List Char × List Char)
  | [] => if pattern = [] then some ([], []) else none
  | c :: cs =>
    if pattern.isPrefixOf (c :: cs) then some ([], (c :: cs).drop pattern.length)
    else (cut pattern cs).map fun parts ↦ (c :: parts.1, parts.2)

theorem cut_of_starts {pattern text : List Char} (h : pattern <+: text) :
    cut pattern text = some ([], text.drop pattern.length) := by
  cases text with
  | nil =>
    rw [List.prefix_nil.mp h]
    rfl
  | cons c cs => rw [cut, if_pos (List.isPrefixOf_iff_prefix.mpr h)]

theorem cut_cons_of_ne {pattern cs : List Char} {c : Char} (h : ¬ pattern <+: c :: cs) :
    cut pattern (c :: cs) = (cut pattern cs).map fun parts ↦ (c :: parts.1, parts.2) := by
  rw [cut, if_neg fun hstarts ↦ h (List.isPrefixOf_iff_prefix.mp hstarts)]

theorem cut_append_self (pattern text : List Char) :
    cut pattern (pattern ++ text) = some ([], text) := by
  rw [cut_of_starts (List.prefix_append ..), List.drop_left]

/-! ## Tags -/

/-- A text between `<` and `>` that has neither of them. -/
def IsTag (tag : List Char) : Prop := ∃ cs, tag = '<' :: (cs ++ ['>']) ∧ '<' ∉ cs ∧ '>' ∉ cs

/-- A piece of text in which no tag begins. -/
def Tagless (text : List Char) : Prop := '<' ∉ text

variable {tag other text rest : List Char}

theorem tagless_append_iff : Tagless (text ++ rest) ↔ Tagless text ∧ Tagless rest := by
  rw [Tagless, List.mem_append, not_or]
  exact Iff.rfl

theorem Tagless.append (h : Tagless text) (h' : Tagless rest) : Tagless (text ++ rest) :=
  tagless_append_iff.mpr ⟨h, h'⟩

/-- What stands in front of the first `>` is determined. -/
theorem close_prefix_inj {cs ds : List Char} (hcs : '>' ∉ cs) (hds : '>' ∉ ds)
    (h : cs ++ ['>'] <+: ds ++ '>' :: rest) : cs = ds := by
  induction cs generalizing ds with
  | nil =>
    cases ds with
    | nil => rfl
    | cons d ds =>
      obtain ⟨rfl, -⟩ := List.cons_prefix_cons.mp h
      exact absurd List.mem_cons_self hds
  | cons c cs ih =>
    cases ds with
    | nil =>
      obtain ⟨rfl, -⟩ := List.cons_prefix_cons.mp h
      exact absurd List.mem_cons_self hcs
    | cons d ds =>
      obtain ⟨rfl, hrest⟩ := List.cons_prefix_cons.mp h
      rw [ih (fun hc ↦ hcs (List.mem_cons_of_mem _ hc)) (fun hd ↦ hds (List.mem_cons_of_mem _ hd))
        hrest]

/-- **No tag is the beginning of another.** -/
theorem IsTag.eq_of_starts (h : IsTag tag) (h' : IsTag other) (hstarts : tag <+: other ++ rest) :
    tag = other := by
  obtain ⟨cs, rfl, -, hcs⟩ := h
  obtain ⟨ds, rfl, -, hds⟩ := h'
  rw [List.cons_append, List.append_assoc] at hstarts
  obtain ⟨-, hrest⟩ := List.cons_prefix_cons.mp hstarts
  rw [close_prefix_inj hcs hds hrest]

theorem IsTag.cut_tagless_append (h : IsTag tag) (htext : Tagless text) (rest : List Char) :
    cut tag (text ++ rest) = (cut tag rest).map fun parts ↦ (text ++ parts.1, parts.2) := by
  induction text with
  | nil => simp
  | cons c cs ih =>
    obtain ⟨ds, rfl, -⟩ := h
    have hc : ¬ '<' :: (ds ++ ['>']) <+: c :: (cs ++ rest) := by
      intro hstarts
      obtain ⟨rfl, -⟩ := List.cons_prefix_cons.mp hstarts
      exact htext List.mem_cons_self
    rw [List.cons_append, cut_cons_of_ne hc,
      ih fun hmem ↦ htext (List.mem_cons_of_mem _ hmem), Option.map_map]
    rfl

theorem IsTag.cut_tag_append (h : IsTag tag) (h' : IsTag other) (hne : tag ≠ other)
    (rest : List Char) :
    cut tag (other ++ rest) = (cut tag rest).map fun parts ↦ (other ++ parts.1, parts.2) := by
  have hstarts : ¬ tag <+: other ++ rest := fun hstarts ↦ hne (h.eq_of_starts h' hstarts)
  obtain ⟨cs, rfl, hopen, -⟩ := h'
  have htagless : Tagless (cs ++ ['>']) := by
    intro hmem
    rcases List.mem_append.mp hmem with hmem | hmem
    · exact hopen hmem
    · cases List.mem_singleton.mp hmem
  rw [List.cons_append] at hstarts ⊢
  rw [cut_cons_of_ne hstarts, h.cut_tagless_append htagless, Option.map_map]
  rfl

/-! ## Sections -/

/-- The tags of the sections of a text. -/
structure Tagging (κ : Type*) where
  opening : κ → List Char
  closing : κ → List Char
  isTag_opening : ∀ k, IsTag (opening k)
  isTag_closing : ∀ k, IsTag (closing k)
  opening_injective : Function.Injective opening
  opening_ne_closing : ∀ k l, opening k ≠ closing l

/-- The list in which `k` has the value `v`: in the place where it has been, or at the end. -/
def put {κ α : Type*} [DecidableEq κ] (k : κ) (v : α) : List (κ × α) → List (κ × α)
  | [] => [(k, v)]
  | s :: ss => if s.1 = k then (k, v) :: ss else s :: put k v ss

theorem mem_put {κ α : Type*} [DecidableEq κ] {k : κ} {v : α} {sections : List (κ × α)}
    {s : κ × α} (h : s ∈ put k v sections) : s = (k, v) ∨ s ∈ sections := by
  induction sections with
  | nil => exact Or.inl (List.mem_singleton.mp h)
  | cons t sections ih =>
    rw [put] at h
    split at h
    · exact (List.mem_cons.mp h).imp_right (List.mem_cons_of_mem _)
    · rcases List.mem_cons.mp h with rfl | h
      · exact Or.inr List.mem_cons_self
      · exact (ih h).imp_right (List.mem_cons_of_mem _)

/-- The names stay in their order, and a new one comes at the end. -/
theorem map_fst_put {κ α : Type*} [DecidableEq κ] (k : κ) (v : α) (sections : List (κ × α)) :
    (put k v sections).map Prod.fst =
      if k ∈ sections.map Prod.fst then sections.map Prod.fst
      else sections.map Prod.fst ++ [k] := by
  induction sections with
  | nil => simp [put]
  | cons t sections ih =>
    rw [put]
    by_cases ht : t.1 = k
    · simp [ht]
    · rw [if_neg ht, List.map_cons, ih]
      simp only [List.map_cons, List.mem_cons, Ne.symm ht, false_or]
      split <;> rfl

theorem lookup_cons_eq_ite {κ α : Type*} [DecidableEq κ] [BEq κ] [LawfulBEq κ] (k l : κ) (v : α)
    (sections : List (κ × α)) :
    ((k, v) :: sections).lookup l = if l = k then some v else sections.lookup l := by
  rw [List.lookup_cons]
  by_cases hl : l = k
  · rw [beq_iff_eq.mpr hl, if_pos hl]
  · rw [beq_eq_false_iff_ne.mpr hl, if_neg hl]

/-- The value under a name is the one that has been put there last. -/
theorem lookup_put {κ α : Type*} [DecidableEq κ] [BEq κ] [LawfulBEq κ] (k l : κ) (v : α)
    (sections : List (κ × α)) :
    (put k v sections).lookup l = if l = k then some v else sections.lookup l := by
  induction sections with
  | nil => rw [put, lookup_cons_eq_ite]
  | cons t sections ih =>
    obtain ⟨t, old⟩ := t
    rw [put]
    by_cases ht : t = k
    · subst ht
      rw [if_pos rfl, lookup_cons_eq_ite, lookup_cons_eq_ite]
      split <;> rfl
    · rw [if_neg ht, lookup_cons_eq_ite, lookup_cons_eq_ite, ih]
      by_cases hl : l = t
      · rw [if_pos hl, if_neg (hl ▸ ht), if_pos hl]
      · rw [if_neg hl, if_neg hl]

namespace Tagging

variable {κ : Type*} (T : Tagging κ)

def wrap (k : κ) (content : List Char) : List Char := T.opening k ++ (content ++ T.closing k)

/-- The sections one after the other, each with something in front of it. -/
def body (glue : List Char) (sections : List (κ × List Char)) : List Char :=
  sections.flatMap fun s ↦ glue ++ T.wrap s.1 s.2

/-- Writes a section: in the place of the one of that name, or at the end of the text. -/
def write (glue : List Char) (k : κ) (content text : List Char) : Option (List Char) :=
  match cut (T.opening k) text with
  | none => some (text ++ (glue ++ T.wrap k content))
  | some (before, remainder) =>
    (cut (T.closing k) remainder).map fun parts ↦ before ++ (T.wrap k content ++ parts.2)

variable {T} {glue front : List Char} {k : κ} {content : List Char}

theorem cut_wrap_append (hcontent : Tagless content) {l : κ} (hne : l ≠ k) (rest : List Char) :
    cut (T.opening l) (T.wrap k content ++ rest) =
      (cut (T.opening l) rest).map fun parts ↦ (T.wrap k content ++ parts.1, parts.2) := by
  have hopen : T.opening l ≠ T.opening k := fun heq ↦ hne (T.opening_injective heq)
  rw [wrap, List.append_assoc, List.append_assoc,
    (T.isTag_opening l).cut_tag_append (T.isTag_opening k) hopen,
    (T.isTag_opening l).cut_tagless_append hcontent,
    (T.isTag_opening l).cut_tag_append (T.isTag_closing k) (T.opening_ne_closing l k),
    Option.map_map, Option.map_map]
  refine congrFun (congrArg Option.map (funext fun parts ↦ ?_)) _
  simp

/-- The section of the name is found, and behind its opening tag the content and the closing one. -/
theorem cut_wrap_self (hcontent : Tagless content) (rest : List Char) :
    cut (T.opening k) (T.wrap k content ++ rest) = some ([], content ++ (T.closing k ++ rest)) ∧
      cut (T.closing k) (content ++ (T.closing k ++ rest)) = some (content, rest) := by
  constructor
  · rw [wrap, List.append_assoc, List.append_assoc, cut_append_self]
  · rw [(T.isTag_closing k).cut_tagless_append hcontent, cut_append_self, Option.map_some,
      List.append_nil]

variable [DecidableEq κ]

/-- **Writing a section is the update of the list of sections.** The text in front of them is one in
which no opening tag is found. -/
theorem write_document {sections : List (κ × List Char)} (hglue : Tagless glue)
    (hsections : ∀ s ∈ sections, Tagless s.2)
    (hfront : ∀ rest, cut (T.opening k) (front ++ rest) =
      (cut (T.opening k) rest).map fun parts ↦ (front ++ parts.1, parts.2)) :
    T.write glue k content (front ++ T.body glue sections) =
      some (front ++ T.body glue (put k content sections)) := by
  have hnone : cut (T.opening k) [] = none := by
    obtain ⟨cs, hcs, -⟩ := T.isTag_opening k
    rw [hcs]
    rfl
  -- the text in front of the sections grows by the sections that are passed over
  induction sections generalizing front with
  | nil =>
    have hcut := hfront []
    rw [hnone, List.append_nil] at hcut
    rw [body, List.flatMap_nil, List.append_nil, write, hcut]
    simp [body, put]
  | cons s sections ih =>
    obtain ⟨l, old⟩ := s
    obtain ⟨hold, hrest⟩ := List.forall_mem_cons.mp hsections
    have hpass : ∀ rest, cut (T.opening k) (front ++ (glue ++ rest)) =
        (cut (T.opening k) rest).map fun parts ↦ (front ++ (glue ++ parts.1), parts.2) := by
      intro rest
      rw [hfront, (T.isTag_opening k).cut_tagless_append hglue, Option.map_map]
      rfl
    rw [body, List.flatMap_cons, ← body, List.append_assoc]
    by_cases hl : l = k
    · subst hl
      obtain ⟨hopening, hclosing⟩ :=
        cut_wrap_self (T := T) (k := l) hold (T.body glue sections)
      rw [write, hpass, hopening, Option.map_some]
      simp only [hclosing, Option.map_some, put, if_true]
      simp [body]
    · have hpassed : ∀ rest, cut (T.opening k) (front ++ (glue ++ T.wrap l old) ++ rest) =
          (cut (T.opening k) rest).map fun parts ↦
            (front ++ (glue ++ T.wrap l old) ++ parts.1, parts.2) := by
        intro rest
        rw [List.append_assoc, List.append_assoc, hpass, cut_wrap_append hold (Ne.symm hl),
          Option.map_map]
        refine congrFun (congrArg Option.map (funext fun parts ↦ ?_)) _
        simp
      have hnext := ih hrest hpassed
      rw [put, if_neg hl]
      simp only [body, List.flatMap_cons, List.append_assoc] at hnext ⊢
      exact hnext

end Tagging

end Text
