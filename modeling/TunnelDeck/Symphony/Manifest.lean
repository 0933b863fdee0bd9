import Mathlib.Data.List.TakeWhile
import TunnelDeck.Combinatorics.Insertion
import TunnelDeck.Text.Python

/-!
# Dependencies added to a manifest

`manifest_dependency_additions` compares two versions of a `Cargo.toml` and accepts the second one
when it is the first one with simple dependency declarations inserted in dependency tables. It goes
over the lines of the second version once and takes a line for the next old line whenever it equals
it. The table that a line stands in is the context of an inserted line, and a declaration does not
change it, so nothing is lost by being greedy.

## Main result

`manifest_additions`: what the comparison accepts, and what it returns.
-/

namespace TunnelDeck.Symphony

open Insertion
open Text.Python

/-! ## Lines of a manifest -/

/-- `[A-Za-z0-9_-]`. -/
def isNameChar (c : Char) : Bool := c.isAlphanum || c = '_' || c = '-'

/-- `[^"\\]`. -/
def isRequirementChar (c : Char) : Bool := c ≠ '"' && c ≠ '\\'

/-- `(?:\s*#.*)?`, up to the end. -/
def isComment (cs : List Char) : Bool :=
  cs = [] ||
    match cs.dropWhile isSpace with
    | '#' :: text => '\n' ∉ text
    | _ => false

/-- The name and the requirement of a line that is a declaration: the match of `declaration`. -/
def declaration (line : List Char) : Option (List Char × List Char) :=
  let name := line.takeWhile isNameChar
  match (line.dropWhile isNameChar).dropWhile isSpace with
  | '=' :: rest =>
    match rest.dropWhile isSpace with
    | '"' :: rest =>
      let requirement := rest.takeWhile isRequirementChar
      match rest.dropWhile isRequirementChar with
      | '"' :: rest =>
        if name ≠ [] ∧ requirement ≠ [] ∧ isComment rest then some (name, requirement) else none
      | _ => none
    | _ => none
  | _ => none

/-- What stands before `dependencies` in the name of a table. -/
def tableKinds : List (List Char) := [[], "dev-".toList, "build-".toList]

/-- `\[target\.[^]]+`, with an ending. -/
def isTargetTable (ending table : List Char) : Bool :=
  let front := "[target.".toList
  let target := (table.drop front.length).take (table.length - front.length - ending.length)
  table = front ++ target ++ ending && target ≠ [] && ']' ∉ target

/-- The line is the header of a dependency table: `dependency_section` matches it. -/
def isDependencySection (table : List Char) : Bool :=
  tableKinds.any fun kind ↦
    let ending := kind ++ "dependencies]".toList
    table = '[' :: ending || isTargetTable ('.' :: ending) table

/-! ## The comparison -/

def startsTable (raw : List Char) : Bool := (strip raw).head? = some '['

/-- The table that the lines behind `raw` stand in. -/
def tableAfter (table : Option (List Char)) (raw : List Char) : Option (List Char) :=
  if startsTable raw then some (strip raw) else table

/-- The loop of `manifest_dependency_additions`: the old lines that are left, and the additions. -/
def additionsFrom (table : Option (List Char)) (base : List (List Char)) :
    List (List Char) → Option (List (List Char) × List (List Char × List Char))
  | [] => some (base, [])
  | raw :: head =>
    let table := tableAfter table raw
    if base.head? = some raw then additionsFrom table base.tail head
    else
      match declaration (strip raw) with
      | none => none
      | some addition =>
        if isDependencySection (table.getD []) then
          (additionsFrom table base head).map fun found ↦ (found.1, addition :: found.2)
        else none

/-- `manifest_dependency_additions`. -/
def manifestDependencyAdditions (base head : List Char) :
    Option (List (List Char × List Char)) :=
  match additionsFrom none (splitlines base) (splitlines head) with
  | none => none
  | some (rest, additions) =>
    if rest ≠ [] ∨ additions = [] ∨ ¬ (additions.map Prod.fst).Nodup then none else some additions

/-! ## What is accepted -/

/-- A comment, with white space in front of it. -/
def Comment (cs : List Char) : Prop :=
  ∃ blank text, cs = blank ++ '#' :: text ∧ (∀ c ∈ blank, isSpace c = true) ∧ '\n' ∉ text

/-- `name = "requirement"`, and perhaps a comment. -/
structure Declares (line name requirement : List Char) : Prop where
  line : ∃ before after rest, line = name ++ (before ++ '=' :: (after ++ '"' :: (requirement ++
    '"' :: rest))) ∧ (∀ c ∈ before, isSpace c = true) ∧ (∀ c ∈ after, isSpace c = true) ∧
      (rest = [] ∨ Comment rest)
  name_ne_nil : name ≠ []
  name_char : ∀ c ∈ name, isNameChar c = true
  requirement_ne_nil : requirement ≠ []
  requirement_char : ∀ c ∈ requirement, c ≠ '"' ∧ c ≠ '\\'

/-- The header of a table of dependencies, perhaps for one target only. -/
def DependencyTable (table : List Char) : Prop :=
  ∃ kind ∈ tableKinds, table = '[' :: (kind ++ "dependencies]".toList) ∨
    ∃ target, target ≠ [] ∧ ']' ∉ target ∧
      table = "[target.".toList ++ target ++ '.' :: (kind ++ "dependencies]".toList)

/-- The nearest table in front is one of dependencies. -/
def UnderDependencies (preceding : List (List Char)) : Prop :=
  ∃ header, preceding.reverse.find? startsTable = some header ∧ DependencyTable (strip header)

/-- The lines of the second manifest are those of the first one with declarations of these names and
requirements inserted in tables of dependencies. -/
def Additions (base head : List Char) (pairs : List (List Char × List Char)) : Prop :=
  ∃ marks : List (List Char × Bool),
    marks.map Prod.fst = splitlines head ∧ kept marks = splitlines base ∧
    List.Forall₂ (fun line pair ↦ Declares (strip line) pair.1 pair.2) (inserted marks) pairs ∧
    (∀ before line after, marks = before ++ (line, true) :: after →
      UnderDependencies (before.map Prod.fst)) ∧
    pairs ≠ [] ∧ (pairs.map Prod.fst).Nodup

/-! ## Matching -/

theorem isComment_iff (cs : List Char) : isComment cs = true ↔ cs = [] ∨ Comment cs := by
  rw [isComment, Bool.or_eq_true, decide_eq_true_iff]
  refine or_congr_right ⟨fun h ↦ ?_, ?_⟩
  · split at h
    · rename_i text hdrop
      refine ⟨cs.takeWhile isSpace, text, ?_, fun c hc ↦ List.mem_takeWhile_imp hc,
        of_decide_eq_true h⟩
      rw [← hdrop, List.takeWhile_append_dropWhile]
    · cases h
  · rintro ⟨blank, text, rfl, hblank, htext⟩
    have hhash : ∀ d ∈ ('#' :: text).head?, isSpace d = false := by
      rintro d ⟨rfl⟩
      decide
    rw [(Text.span_append hblank hhash).2]
    exact decide_eq_true htext

theorem toNat_of_isNameChar {c : Char} (h : isNameChar c = true) :
    48 ≤ c.toNat ∧ c.toNat ≤ 57 ∨ 65 ≤ c.toNat ∧ c.toNat ≤ 90 ∨ 97 ≤ c.toNat ∧ c.toNat ≤ 122 ∨
      c.toNat = 95 ∨ c.toNat = 45 := by
  have hranges : isNameChar c = (decide ('A'.val ≤ c.val ∧ c.val ≤ 'Z'.val) ||
      (decide ('a'.val ≤ c.val) && decide (c.val ≤ 'z'.val)) ||
      (decide ('0'.val ≤ c.val) && decide (c.val ≤ '9'.val)) || c = '_' || c = '-') := rfl
  simp only [hranges, Bool.or_eq_true, Bool.and_eq_true, decide_eq_true_eq] at h
  rcases h with ((((h | h) | h) | rfl) | rfl)
  · exact Or.inr (Or.inl h)
  · exact Or.inr (Or.inr (Or.inl h))
  · exact Or.inl h
  · decide
  · decide

theorem isSpace_of_isNameChar {c : Char} (h : isNameChar c = true) :
    isSpace c = false ∧ c ≠ '[' ∧ c ≠ '=' := by
  have hn := toNat_of_isNameChar h
  refine ⟨?_, ?_, ?_⟩
  · simp only [isSpace, Text.isWhitespace, Bool.or_eq_false_iff, Bool.and_eq_false_iff,
      decide_eq_false_iff_not, beq_eq_false_iff_ne]
    omega
  · rintro rfl
    revert hn
    decide
  · rintro rfl
    revert hn
    decide

theorem declares_of_declaration {line name requirement : List Char}
    (h : declaration line = some (name, requirement)) : Declares line name requirement := by
  simp only [declaration] at h
  split at h
  · rename_i rest hequals
    split at h
    · rename_i rest' hquote
      split at h
      · rename_i rest'' hclose
        split at h
        · rename_i hvalid
          obtain ⟨hname, hrequirement, hcomment⟩ := hvalid
          cases h
          refine ⟨⟨(line.dropWhile isNameChar).takeWhile isSpace, rest.takeWhile isSpace, rest'',
            ?_, fun c hc ↦ List.mem_takeWhile_imp hc, fun c hc ↦ List.mem_takeWhile_imp hc,
            (isComment_iff rest'').mp hcomment⟩, hname, fun c hc ↦ List.mem_takeWhile_imp hc,
            hrequirement, fun c hc ↦ ?_⟩
          · rw [← hclose, List.takeWhile_append_dropWhile, ← hquote,
              List.takeWhile_append_dropWhile, ← hequals, List.takeWhile_append_dropWhile,
              List.takeWhile_append_dropWhile]
          · simpa [isRequirementChar] using List.mem_takeWhile_imp hc
        · cases h
      · cases h
    · cases h
  · cases h

theorem Declares.declaration_eq {line name requirement : List Char}
    (h : Declares line name requirement) : declaration line = some (name, requirement) := by
  obtain ⟨⟨before, after, rest, rfl, hbefore, hafter, hrest⟩, hname, hchar, hrequirement, hreq⟩ := h
  have hequals : ∀ d ∈ ('=' :: (after ++ '"' :: (requirement ++ '"' :: rest))).head?,
      isSpace d = false := by
    rintro d ⟨rfl⟩
    decide
  have hquote : ∀ d ∈ ('"' :: (requirement ++ '"' :: rest)).head?, isSpace d = false := by
    rintro d ⟨rfl⟩
    decide
  have hclose : ∀ d ∈ ('"' :: rest).head?, isRequirementChar d = false := by
    rintro d ⟨rfl⟩
    decide
  have hend : ∀ d ∈ (before ++ '=' :: (after ++ '"' :: (requirement ++ '"' :: rest))).head?,
      isNameChar d = false := by
    intro d hd
    by_contra hnamechar
    obtain ⟨hspace, -, hne⟩ := isSpace_of_isNameChar (eq_true_of_ne_false hnamechar)
    rcases before with _ | ⟨b, before⟩
    · obtain rfl : '=' = d := Option.some.inj hd
      exact hne rfl
    · obtain rfl : b = d := Option.some.inj hd
      rw [hbefore b List.mem_cons_self] at hspace
      cases hspace
  have hreqchar : ∀ c ∈ requirement, isRequirementChar c = true := by
    intro c hc
    simpa [isRequirementChar] using hreq c hc
  obtain ⟨htake, hdrop⟩ := Text.span_append hchar hend
  obtain ⟨hreqtake, hreqdrop⟩ := Text.span_append hreqchar hclose
  simp only [declaration, htake, hdrop, (Text.span_append hbefore hequals).2,
    (Text.span_append hafter hquote).2, hreqtake, hreqdrop]
  exact if_pos ⟨hname, hrequirement, (isComment_iff rest).mpr hrest⟩

/-- **What a declaration is.** -/
theorem declaration_eq_some_iff {line name requirement : List Char} :
    declaration line = some (name, requirement) ↔ Declares line name requirement :=
  ⟨declares_of_declaration, Declares.declaration_eq⟩

theorem isTargetTable_iff {ending table : List Char} :
    isTargetTable ending table = true ↔ ∃ target, target ≠ [] ∧ ']' ∉ target ∧
      table = "[target.".toList ++ target ++ ending := by
  simp only [isTargetTable, Bool.and_eq_true, decide_eq_true_iff]
  constructor
  · rintro ⟨⟨htable, hne⟩, hbracket⟩
    exact ⟨_, hne, hbracket, htable⟩
  · rintro ⟨target, hne, hbracket, rfl⟩
    have htarget : (("[target.".toList ++ target ++ ending).drop "[target.".toList.length).take
        (("[target.".toList ++ target ++ ending).length - "[target.".toList.length -
          ending.length) = target := by
      rw [List.append_assoc, List.drop_left, List.length_append, List.length_append,
        Nat.add_sub_cancel_left, Nat.add_sub_cancel, List.take_left]
    rw [htarget]
    exact ⟨⟨rfl, hne⟩, hbracket⟩

/-- **What the header of a dependency table is.** -/
theorem isDependencySection_iff {table : List Char} :
    isDependencySection table = true ↔ DependencyTable table := by
  simp only [isDependencySection, List.any_eq_true, Bool.or_eq_true, decide_eq_true_iff,
    isTargetTable_iff]
  rfl

/-! ## The table of a line -/

/-- The table is the nearest one in front. -/
theorem foldl_tableAfter (lines : List (List Char)) (table : Option (List Char)) :
    lines.foldl tableAfter table =
      ((lines.reverse.find? startsTable).map strip).or table := by
  induction lines generalizing table with
  | nil => rfl
  | cons raw lines ih =>
    rw [List.foldl_cons, ih, List.reverse_cons, List.find?_append, tableAfter]
    rcases lines.reverse.find? startsTable with _ | header
    · by_cases hstarts : startsTable raw = true
      · simp [hstarts]
      · simp [hstarts]
    · rfl

/-- What may be inserted where. -/
def Insertable (table : Option (List Char)) (raw : List Char) : Prop :=
  isDependencySection ((tableAfter table raw).getD []) = true ∧
    (declaration (strip raw)).isSome = true

instance (table : Option (List Char)) (raw : List Char) : Decidable (Insertable table raw) :=
  inferInstanceAs (Decidable (_ ∧ _))

theorem tableAfter_of_declaration {raw : List Char}
    (h : (declaration (strip raw)).isSome = true) (table : Option (List Char)) :
    tableAfter table raw = table := by
  obtain ⟨⟨name, requirement⟩, hdeclaration⟩ := Option.isSome_iff_exists.mp h
  obtain ⟨⟨before, after, rest, hline, -⟩, hname, hchar, -⟩ :=
    declaration_eq_some_iff.mp hdeclaration
  refine if_neg fun hstarts ↦ ?_
  rw [startsTable, decide_eq_true_iff, hline] at hstarts
  rcases name with _ | ⟨c, name⟩
  · exact hname rfl
  · exact (isSpace_of_isNameChar (hchar c List.mem_cons_self)).2.1 (Option.some.inj hstarts)

theorem insertable_iff {preceding : List (List Char)} {raw : List Char} :
    Insertable (preceding.foldl tableAfter none) raw ↔
      UnderDependencies preceding ∧ (declaration (strip raw)).isSome = true := by
  refine and_congr_left fun hdeclaration ↦ ?_
  rw [tableAfter_of_declaration hdeclaration, foldl_tableAfter, Option.or_none, UnderDependencies]
  rcases preceding.reverse.find? startsTable with _ | header
  · exact iff_of_false (by decide) (by simp)
  · simp [isDependencySection_iff]

/-! ## The law -/

/-- The loop is the matcher. -/
theorem additionsFrom_iff {table : Option (List Char)} {base head : List (List Char)}
    {additions : List (List Char × List Char)} :
    additionsFrom table base head = some ([], additions) ↔
      ∃ new, find tableAfter Insertable table base head = some new ∧
        new.map (fun raw ↦ declaration (strip raw)) = additions.map some := by
  induction head generalizing table base additions with
  | nil =>
    rcases base with _ | ⟨b, base⟩
    · constructor
      · intro h
        cases h
        exact ⟨[], rfl, rfl⟩
      · rintro ⟨new, hnew, hadditions⟩
        cases hnew
        rw [List.map_eq_nil_iff.mp hadditions.symm, additionsFrom]
    · exact iff_of_false nofun (by rintro ⟨new, hnew, -⟩; cases hnew)
  | cons raw head ih =>
    rw [additionsFrom, find]
    by_cases hkept : base.head? = some raw
    · rw [if_pos hkept, if_pos hkept]
      exact ih
    · rw [if_neg hkept, if_neg hkept]
      rcases hdeclaration : declaration (strip raw) with _ | addition
      · simp [Insertable, hdeclaration]
      · by_cases htable : isDependencySection ((tableAfter table raw).getD []) = true
        · have hinsertable : Insertable table raw := ⟨htable, by rw [hdeclaration]; rfl⟩
          simp only [htable, if_true, if_pos hinsertable]
          constructor
          · intro h
            obtain ⟨⟨rest, found⟩, hfound, hpair⟩ := Option.map_eq_some_iff.mp h
            obtain ⟨rfl, rfl⟩ := Prod.mk.inj hpair
            obtain ⟨new, hnew, hadditions⟩ := ih.mp hfound
            refine ⟨raw :: new, by rw [hnew, Option.map_some], ?_⟩
            rw [List.map_cons, hdeclaration, hadditions, List.map_cons]
          · rintro ⟨new, hnew, hadditions⟩
            obtain ⟨rest, hrest, rfl⟩ := Option.map_eq_some_iff.mp hnew
            rw [List.map_cons, hdeclaration] at hadditions
            obtain ⟨found, additions, rfl⟩ : ∃ found tail, additions = found :: tail := by
              cases additions with
              | nil => cases hadditions
              | cons found tail => exact ⟨found, tail, rfl⟩
            obtain ⟨hfirst, htail⟩ := List.cons.inj hadditions
            rw [ih.mpr ⟨rest, hrest, htail⟩, Option.map_some, Option.some.inj hfirst]
        · simp [Insertable, htable]

theorem forall₂_declares_iff {new : List (List Char)} {pairs : List (List Char × List Char)} :
    List.Forall₂ (fun line pair ↦ Declares (strip line) pair.1 pair.2) new pairs ↔
      new.map (fun raw ↦ declaration (strip raw)) = pairs.map some := by
  rw [← List.forall₂_eq_eq_eq, List.forall₂_map_left_iff, List.forall₂_map_right_iff]
  constructor
  · exact List.Forall₂.imp fun raw pair h ↦ declaration_eq_some_iff.mpr h
  · exact List.Forall₂.imp fun raw pair h ↦ declaration_eq_some_iff.mp h

/-- The lines that are inserted, as the matcher sees them. -/
theorem additions_iff {base head : List Char} {pairs : List (List Char × List Char)} :
    Additions base head pairs ↔
      ∃ new, Extends tableAfter Insertable none (splitlines base) (splitlines head) new ∧
        new.map (fun raw ↦ declaration (strip raw)) = pairs.map some ∧
        pairs ≠ [] ∧ (pairs.map Prod.fst).Nodup := by
  constructor
  · rintro ⟨marks, hhead, hbase, hdeclares, hunder, hne, hnodup⟩
    refine ⟨inserted marks, extends_iff_marks.mpr ⟨marks, hhead, hbase, rfl, ?_⟩,
      forall₂_declares_iff.mp hdeclares, hne, hnodup⟩
    intro before line after hmarks
    refine insertable_iff.mpr ⟨hunder before line after hmarks, ?_⟩
    have hmem : line ∈ inserted marks :=
      List.mem_map.mpr ⟨(line, true), List.mem_filter.mpr ⟨by rw [hmarks]; simp, rfl⟩, rfl⟩
    have hparsed : declaration (strip line) ∈ pairs.map some := by
      rw [← forall₂_declares_iff.mp hdeclares]
      exact List.mem_map_of_mem hmem
    obtain ⟨pair, -, hpair⟩ := List.mem_map.mp hparsed
    rw [← hpair]
    rfl
  · rintro ⟨new, hextends, hpairs, hne, hnodup⟩
    obtain ⟨marks, hhead, hbase, rfl, hfits⟩ := extends_iff_marks.mp hextends
    refine ⟨marks, hhead, hbase, forall₂_declares_iff.mpr hpairs, ?_, hne, hnodup⟩
    intro before line after hmarks
    exact (insertable_iff.mp (hfits before line after hmarks)).1

/-- The comparison is the matcher with the last checks behind it. -/
theorem manifestDependencyAdditions_eq_some_iff {base head : List Char}
    {additions : List (List Char × List Char)} :
    manifestDependencyAdditions base head = some additions ↔
      ∃ new, find tableAfter Insertable none (splitlines base) (splitlines head) = some new ∧
        new.map (fun raw ↦ declaration (strip raw)) = additions.map some ∧
        additions ≠ [] ∧ (additions.map Prod.fst).Nodup := by
  rw [← exists_congr fun new ↦ and_assoc, exists_and_right, ← additionsFrom_iff,
    manifestDependencyAdditions]
  rcases additionsFrom none (splitlines base) (splitlines head) with _ | ⟨rest, found⟩
  · exact iff_of_false nofun (by rintro ⟨h, -⟩; cases h)
  · by_cases hbad : rest ≠ [] ∨ found = [] ∨ ¬ (found.map Prod.fst).Nodup
    · refine iff_of_false (by simp only [if_pos hbad]; exact nofun) ?_
      rintro ⟨h, hne, hnodup⟩
      obtain ⟨rfl, rfl⟩ := Prod.mk.inj (Option.some.inj h)
      rcases hbad with hrest | hnil | hdup
      · exact hrest rfl
      · exact hne hnil
      · exact hdup hnodup
    · simp only [if_neg hbad]
      push Not at hbad
      obtain ⟨rfl, hne, hnodup⟩ := hbad
      constructor
      · intro h
        cases h
        exact ⟨rfl, hne, hnodup⟩
      · rintro ⟨h, -, -⟩
        cases h
        rfl

/-- What is taken for inserted declares the same, in some order. -/
theorem Additions.perm {base head : List Char} {pairs : List (List Char × List Char)}
    (h : Additions base head pairs) :
    ∃ additions, manifestDependencyAdditions base head = some additions ∧
      additions.Perm pairs := by
  obtain ⟨new, hextends, hpairs, hne, hnodup⟩ := additions_iff.mp h
  have hstable : ∀ table raw, Insertable table raw → tableAfter table raw = table :=
    fun table raw hinsertable ↦ tableAfter_of_declaration hinsertable.2 table
  obtain ⟨found, hfound, hperm⟩ := find_of_extends hstable hextends
  -- the lines that are found declare a rearrangement of the pairs
  obtain ⟨additions, hadditions, hadditionsPerm⟩ :=
    List.perm_comp_forall₂ hperm (forall₂_declares_iff.mpr hpairs)
  refine ⟨additions, manifestDependencyAdditions_eq_some_iff.mpr
    ⟨found, hfound, forall₂_declares_iff.mp hadditions, ?_, ?_⟩, hadditionsPerm⟩
  · rintro rfl
    exact hne hadditionsPerm.nil_eq.symm
  · exact ((hadditionsPerm.map Prod.fst).nodup_iff).mpr hnodup

/-- **A comparison returns a list exactly when the second manifest is the first one with
declarations inserted**, and the list then holds what they declare. -/
theorem manifest_additions (base head : List Char) :
    ((∃ additions, manifestDependencyAdditions base head = some additions) ↔
      ∃ pairs, Additions base head pairs) ∧
    (∀ additions, manifestDependencyAdditions base head = some additions →
      Additions base head additions) ∧
    ∀ additions pairs, manifestDependencyAdditions base head = some additions →
      Additions base head pairs → additions.Perm pairs := by
  have hsound : ∀ additions, manifestDependencyAdditions base head = some additions →
      Additions base head additions := by
    intro additions h
    obtain ⟨new, hnew, hrest⟩ := manifestDependencyAdditions_eq_some_iff.mp h
    exact additions_iff.mpr ⟨new, extends_of_find hnew, hrest⟩
  refine ⟨⟨fun ⟨additions, h⟩ ↦ ⟨additions, hsound additions h⟩, fun ⟨pairs, h⟩ ↦ ?_⟩, hsound,
    fun additions pairs hadditions h ↦ ?_⟩
  · obtain ⟨additions, hadditions, -⟩ := h.perm
    exact ⟨additions, hadditions⟩
  · obtain ⟨additions', hadditions', hperm⟩ := h.perm
    rw [hadditions] at hadditions'
    rw [Option.some.inj hadditions']
    exact hperm

def exampleBase : List Char := "[dependencies]\nserde = \"1\"\n".toList

def exampleHead : List Char := "[dependencies]\nlog = \"0.4\" # later\nserde = \"1\"\n".toList

theorem manifest_additions_exampleHead :
    Additions exampleBase exampleHead [("log".toList, "0.4".toList)] ∧
      [("log".toList, "0.4".toList)].Perm [("log".toList, "0.4".toList)] := by
  have hadded : manifestDependencyAdditions exampleBase exampleHead =
      some [("log".toList, "0.4".toList)] := by decide
  have hadditions := (manifest_additions exampleBase exampleHead).2.1 _ hadded
  exact ⟨hadditions, (manifest_additions exampleBase exampleHead).2.2 _ _ hadded hadditions⟩

end TunnelDeck.Symphony
