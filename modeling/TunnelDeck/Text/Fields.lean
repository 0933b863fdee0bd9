import Mathlib.Data.List.Basic

/-!
# Fields separated by colons

The grammar in which OpenSSH writes a forwarding: fields are separated by colons, and a field that
begins with `[` runs to the next `]` and stands for the text between the two. The reader goes over
the text once and keeps the part of the field that it has seen.
-/

namespace Text

/-- Where the reader stands in a field. -/
inductive FieldMode where
  /-- Before its first character. -/
  | start
  /-- In a field without brackets. -/
  | plain (field : List Char)
  /-- Between the brackets. -/
  | bracketed (field : List Char)
  /-- Behind the closing bracket. -/
  | closed (field : List Char)

/-- The fields of a text, if it can be read to its end. -/
def readFields : FieldMode → List Char → Option (List (List Char))
  | .start, [] => some [[]]
  | .plain field, [] => some [field]
  | .bracketed _, [] => none
  | .closed field, [] => some [field]
  | .start, c :: cs =>
    if c = '[' then readFields (.bracketed []) cs
    else if c = ':' then (readFields .start cs).map ([] :: ·)
    else readFields (.plain [c]) cs
  | .plain field, c :: cs =>
    if c = ':' then (readFields .start cs).map (field :: ·)
    else readFields (.plain (field ++ [c])) cs
  | .bracketed field, c :: cs =>
    if c = ']' then readFields (.closed field) cs
    else readFields (.bracketed (field ++ [c])) cs
  | .closed field, c :: cs =>
    if c = ':' then (readFields .start cs).map (field :: ·) else none

/-- What stands before and behind the first occurrence of an element. -/
theorem append_cons_inj {α : Type} {x : α} {a b s t : List α} (ha : x ∉ a) (hb : x ∉ b)
    (h : a ++ x :: s = b ++ x :: t) : a = b ∧ s = t := by
  induction a generalizing b with
  | nil =>
    cases b with
    | nil => exact ⟨rfl, (List.cons.inj h).2⟩
    | cons d b => exact absurd ((List.cons.inj h).1 ▸ List.mem_cons_self) hb
  | cons c a ih =>
    cases b with
    | nil => exact absurd ((List.cons.inj h).1 ▸ List.mem_cons_self) ha
    | cons d b =>
      obtain ⟨rfl, htail⟩ := List.cons.inj h
      obtain ⟨rfl, hst⟩ := ih (fun hx ↦ ha (List.mem_cons_of_mem _ hx))
        (fun hx ↦ hb (List.mem_cons_of_mem _ hx)) htail
      exact ⟨rfl, hst⟩

/-! ## Fields without brackets -/

theorem readFields_plain {field a : List Char} (h : ':' ∉ a) (rest : List Char) :
    readFields (.plain field) (a ++ ':' :: rest) =
      (readFields .start rest).map ((field ++ a) :: ·) := by
  induction a generalizing field with
  | nil => simp [readFields]
  | cons c a ih =>
    rw [List.mem_cons, not_or] at h
    rw [List.cons_append, readFields, if_neg (Ne.symm h.1), ih h.2]
    simp

theorem readFields_plain_end {field a : List Char} (h : ':' ∉ a) :
    readFields (.plain field) a = some [field ++ a] := by
  induction a generalizing field with
  | nil => simp [readFields]
  | cons c a ih =>
    rw [List.mem_cons, not_or] at h
    rw [readFields, if_neg (Ne.symm h.1), ih h.2]
    simp

/-- A text that stands for itself as a field. -/
structure Bare (a : List Char) : Prop where
  colon : ':' ∉ a
  bracket : a.head? ≠ some '['

theorem Bare.of_isDigit {a : List Char} (h : ∀ c ∈ a, c.isDigit = true) : Bare a where
  colon hcolon := absurd (h ':' hcolon) (by decide)
  bracket hhead := absurd (h '[' (List.mem_of_head? hhead)) (by decide)

theorem Bare.readFields {a : List Char} (h : Bare a) (rest : List Char) :
    readFields .start (a ++ ':' :: rest) = (readFields .start rest).map (a :: ·) := by
  cases a with
  | nil => simp [Text.readFields]
  | cons c a =>
    obtain ⟨hcolon, hbracket⟩ := h
    rw [List.mem_cons, not_or] at hcolon
    rw [List.cons_append, Text.readFields, if_neg fun hc ↦ hbracket (by rw [hc, List.head?_cons]),
      if_neg (Ne.symm hcolon.1), readFields_plain hcolon.2]
    rfl

theorem Bare.readFields_end {a : List Char} (h : Bare a) :
    Text.readFields .start a = some [a] := by
  cases a with
  | nil => rfl
  | cons c a =>
    obtain ⟨hcolon, hbracket⟩ := h
    rw [List.mem_cons, not_or] at hcolon
    rw [Text.readFields, if_neg fun hc ↦ hbracket (by rw [hc, List.head?_cons]),
      if_neg (Ne.symm hcolon.1), readFields_plain_end hcolon.2]
    rfl

/-! ## Fields in brackets -/

theorem readFields_bracketed {field a : List Char} (h : ']' ∉ a) (rest : List Char) :
    readFields (.bracketed field) (a ++ ']' :: rest) = readFields (.closed (field ++ a)) rest := by
  induction a generalizing field with
  | nil => simp [readFields]
  | cons c a ih =>
    rw [List.mem_cons, not_or] at h
    rw [List.cons_append, readFields, if_neg (Ne.symm h.1), ih h.2]
    simp

theorem readFields_unclosed {field cs : List Char} (h : ']' ∉ cs) :
    readFields (.bracketed field) cs = none := by
  induction cs generalizing field with
  | nil => rfl
  | cons c cs ih =>
    rw [List.mem_cons, not_or] at h
    rw [readFields, if_neg (Ne.symm h.1), ih h.2]

theorem readFields_brackets {a : List Char} (h : ']' ∉ a) (rest : List Char) :
    readFields .start ('[' :: (a ++ ']' :: ':' :: rest)) =
      (readFields .start rest).map (a :: ·) := by
  rw [readFields, if_pos rfl, readFields_bracketed h, readFields, if_pos rfl]
  rfl

/-- **A field that begins with a bracket is never read as it stands**: what is read, if anything, is
shorter. -/
theorem length_lt_of_readFields {a rest : List Char} (hcolon : ':' ∉ a)
    (hrest : ']' ∉ rest) {fields : List (List Char)}
    (h : readFields .start ('[' :: (a ++ ':' :: rest)) = some fields) :
    ∃ field others, fields = field :: others ∧ field.length < a.length := by
  rw [readFields, if_pos rfl] at h
  by_cases hclosing : ']' ∈ a
  · obtain ⟨inner, behind, rfl, hinner⟩ := List.eq_append_cons_of_mem hclosing
    rw [List.append_assoc, List.cons_append, readFields_bracketed hinner] at h
    have hshort : inner.length < (inner ++ ']' :: behind).length := by simp
    cases behind with
    | nil =>
      rw [List.nil_append, List.nil_append, readFields, if_pos rfl] at h
      obtain ⟨others, -, rfl⟩ := Option.map_eq_some_iff.mp h
      exact ⟨_, others, rfl, hshort⟩
    | cons c behind =>
      have hc : c ≠ ':' := by
        rintro rfl
        exact hcolon (by simp)
      rw [List.cons_append, readFields, if_neg hc] at h
      cases h
  · rw [readFields_unclosed] at h
    · cases h
    · simp [hclosing, hrest]

example : readFields .start "[::1]:80:db:5432".toList =
    some ["::1".toList, "80".toList, "db".toList, "5432".toList] := by decide

end Text
