import Mathlib.Data.List.Perm.Basic

/-!
# Finding what was inserted into a list

A list arises from another one by inserting elements. What may be inserted depends on what stands in
front of it: a context is carried along the list, and `fits` says what may be inserted in which
context.

The matcher takes an element for an old one whenever it can. It may thereby take an inserted element
for an old one that stands further behind, but when an inserted element does not change the context
nothing is lost, `Extends.exchange`: all that stands between the two was inserted as well, so the
old one could have been inserted in its place. Hence the matcher finds an extension whenever there
is one, and what it finds to be inserted is the same up to the order, `find_of_extends`.
-/

namespace Insertion

variable {α σ : Type*} (note : σ → α → σ) (fits : σ → α → Prop)

/-! ## Extensions -/

/-- From the context on, the second list is the first one with the third one inserted. -/
inductive Extends : σ → List α → List α → List α → Prop
  | nil (s : σ) : Extends s [] [] []
  | keep {s : σ} {a : α} {base head inserted : List α}
    (h : Extends (note s a) base head inserted) : Extends s (a :: base) (a :: head) inserted
  | insert {s : σ} {a : α} {base head inserted : List α} (hfits : fits s a)
    (h : Extends (note s a) base head inserted) : Extends s base (a :: head) (a :: inserted)

/-- The elements of a marked list that are marked as inserted. -/
def inserted (marks : List (α × Bool)) : List α := (marks.filter Prod.snd).map Prod.fst

def kept (marks : List (α × Bool)) : List α := (marks.filter fun m ↦ !m.2).map Prod.fst

/-- Every inserted element fits behind what stands in front of it. -/
def Fits (s : σ) (marks : List (α × Bool)) : Prop :=
  ∀ before a after, marks = before ++ (a, true) :: after →
    fits ((before.map Prod.fst).foldl note s) a

variable {note fits} {s : σ} {a : α} {base head new : List α}

theorem fits_cons_iff {flag : Bool} {marks : List (α × Bool)} :
    Fits note fits s ((a, flag) :: marks) ↔
      (flag = true → fits s a) ∧ Fits note fits (note s a) marks := by
  constructor
  · intro h
    refine ⟨fun hflag ↦ h [] a marks (by rw [hflag]; rfl), fun before b after hmarks ↦ ?_⟩
    exact h ((a, flag) :: before) b after (by rw [hmarks]; rfl)
  · rintro ⟨hfirst, hrest⟩ before b after hmarks
    rcases before with _ | ⟨m, before⟩
    · obtain ⟨hm, -⟩ := List.cons.inj hmarks
      obtain ⟨rfl, rfl⟩ := Prod.mk.inj hm
      exact hfirst rfl
    · obtain ⟨rfl, hbefore⟩ := List.cons.inj hmarks
      exact hrest before b after hbefore

/-- **An extension marks the elements of a list.** -/
theorem extends_iff_marks :
    Extends note fits s base head new ↔ ∃ marks : List (α × Bool),
      marks.map Prod.fst = head ∧ kept marks = base ∧ inserted marks = new ∧
        Fits note fits s marks := by
  constructor
  · intro h
    induction h with
    | nil s => exact ⟨[], rfl, rfl, rfl, fun before a after h ↦ by cases before <;> cases h⟩
    | @keep s a base head new h ih =>
      obtain ⟨marks, rfl, rfl, rfl, hmarks⟩ := ih
      exact ⟨(a, false) :: marks, rfl, rfl, rfl, fits_cons_iff.mpr ⟨nofun, hmarks⟩⟩
    | @insert s a base head new hfits h ih =>
      obtain ⟨marks, rfl, rfl, rfl, hmarks⟩ := ih
      exact ⟨(a, true) :: marks, rfl, rfl, rfl, fits_cons_iff.mpr ⟨fun _ ↦ hfits, hmarks⟩⟩
  · rintro ⟨marks, rfl, rfl, rfl, hmarks⟩
    induction marks generalizing s with
    | nil => exact .nil s
    | cons m marks ih =>
      obtain ⟨a, flag⟩ := m
      obtain ⟨hfirst, hrest⟩ := fits_cons_iff.mp hmarks
      cases flag with
      | false => exact .keep (ih hrest)
      | true => exact .insert (hfirst rfl) (ih hrest)

/-! ## The matcher -/

variable (note fits) in
/-- The elements of the second list that are not found in the first one, if they all fit and the
first one is used up. -/
def find [DecidableEq α] [∀ s a, Decidable (fits s a)] : σ → List α → List α → Option (List α)
  | _, [], [] => some []
  | _, _ :: _, [] => none
  | s, base, a :: head =>
    if base.head? = some a then find (note s a) base.tail head
    else if fits s a then (find (note s a) base head).map (a :: ·)
    else none

variable [DecidableEq α] [∀ s a, Decidable (fits s a)]

theorem extends_of_find (h : find note fits s base head = some new) :
    Extends note fits s base head new := by
  fun_induction find note fits s base head generalizing new with
  | case1 s =>
    cases h
    exact .nil s
  | case2 => cases h
  | case3 s base a head hhead ih =>
    obtain ⟨base, rfl⟩ := List.head?_eq_some_iff.mp hhead
    exact .keep (ih h)
  | case4 s base a head hhead hfits ih =>
    obtain ⟨rest, hrest, rfl⟩ := Option.map_eq_some_iff.mp h
    exact .insert hfits (ih hrest)
  | case5 => cases h

omit [DecidableEq α] [∀ s a, Decidable (fits s a)] in
/-- **The exchange.** When the first old element could have been inserted here, it can be taken for
an inserted one where it stands. -/
theorem Extends.exchange (hstable : ∀ s a, fits s a → note s a = s) (hfits : fits s a)
    (h : Extends note fits s (a :: base) head new) :
    ∃ new', Extends note fits s base head new' ∧ new'.Perm (a :: new) := by
  induction head generalizing new with
  | nil => cases h
  | cons b head ih =>
    cases h with
    | keep h => exact ⟨a :: new, .insert hfits h, .refl _⟩
    | insert hb h =>
      -- the first old element stands further behind
      rw [hstable s b hb] at h
      obtain ⟨new', hnew', hperm⟩ := ih h
      rw [← hstable s b hb] at hnew'
      exact ⟨b :: new', .insert hb hnew', (hperm.cons b).trans (.swap a b _)⟩

/-- **The matcher finds every extension**, up to the order of what was inserted. -/
theorem find_of_extends (hstable : ∀ s a, fits s a → note s a = s)
    (h : Extends note fits s base head new) :
    ∃ found, find note fits s base head = some found ∧ found.Perm new := by
  induction head generalizing s base new with
  | nil =>
    cases h
    exact ⟨[], rfl, .nil⟩
  | cons a head ih =>
    cases h with
    | keep h =>
      obtain ⟨found, hfound, hperm⟩ := ih h
      refine ⟨found, ?_, hperm⟩
      rw [find, List.head?_cons, if_pos rfl]
      exact hfound
    | @insert _ _ _ _ new hfits h =>
      by_cases hhead : base.head? = some a
      · -- the matcher takes it for the first old element
        obtain ⟨base, rfl⟩ := List.head?_eq_some_iff.mp hhead
        rw [hstable s a hfits] at h
        obtain ⟨new', hnew', hperm⟩ := h.exchange hstable hfits
        rw [← hstable s a hfits] at hnew'
        obtain ⟨found, hfound, hperm'⟩ := ih hnew'
        refine ⟨found, ?_, hperm'.trans hperm⟩
        rw [find, if_pos hhead]
        exact hfound
      · obtain ⟨found, hfound, hperm⟩ := ih h
        refine ⟨a :: found, ?_, hperm.cons a⟩
        rw [find, if_neg hhead, if_pos hfits, hfound, Option.map_some]

end Insertion
