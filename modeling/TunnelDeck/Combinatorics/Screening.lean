import Mathlib.Data.Finset.Insert
import Mathlib.Data.List.Pairwise

/-!
# Screening a stream

Items come one after the other. An item is accepted when it is new, nothing outside blocks it, and
it is in conflict with no item accepted before. The screen keeps the items seen and, in the order
of their arrival, those it accepted.

Screening is greedy, but for a symmetric conflict it can be repeated: when some of the accepted
items are held outside and block what they are or are in conflict with, screening the same stream
again accepts the other ones and nothing else, `next_without`. The point is an item that a later
accepted item is in conflict with. It was refused for another reason already, since otherwise the
later item would not have been accepted.
-/

namespace Screening

/-- The items seen so far and those of them that were accepted. -/
structure Screen (α : Type*) where
  seen : Finset α
  accepted : List α

variable {α : Type*} [DecidableEq α]

/-- Nothing has come yet. -/
def Screen.empty : Screen α := ⟨∅, []⟩

variable (conflict : α → α → Bool) (blocked : α → Bool)

/-- The screen accepts the item. -/
def Admits (s : Screen α) (a : α) : Prop :=
  a ∉ s.seen ∧ blocked a = false ∧ ∀ b ∈ s.accepted, conflict a b = false

instance (s : Screen α) (a : α) : Decidable (Admits conflict blocked s a) :=
  inferInstanceAs (Decidable (_ ∧ _ ∧ _))

/-- The screen after one more item. -/
def next (s : Screen α) (a : α) : Screen α where
  seen := insert a s.seen
  accepted := if Admits conflict blocked s a then s.accepted ++ [a] else s.accepted

/-- The screen after more items. -/
def run (s : Screen α) (items : List α) : Screen α := items.foldl (next conflict blocked) s

/-! ## What is accepted -/

/-- What holds of the accepted items. -/
structure Sound (s : Screen α) : Prop where
  seen : ∀ a ∈ s.accepted, a ∈ s.seen
  free : ∀ a ∈ s.accepted, blocked a = false
  apart : s.accepted.Pairwise fun a b ↦ a ≠ b ∧ conflict b a = false

variable {conflict blocked} {s : Screen α}

omit [DecidableEq α] in
theorem Sound.empty : Sound conflict blocked (Screen.empty : Screen α) where
  seen := fun _ h ↦ nomatch h
  free := fun _ h ↦ nomatch h
  apart := List.Pairwise.nil

omit [DecidableEq α] in
/-- For a symmetric conflict, two accepted items are in no conflict, whichever came first. -/
theorem Sound.no_conflict (h : Sound conflict blocked s)
    (hsymm : ∀ a b, conflict a b = conflict b a) {a b : α} (ha : a ∈ s.accepted)
    (hb : b ∈ s.accepted) (hne : a ≠ b) : conflict a b = false := by
  have : Std.Symm fun x y ↦ conflict y x = false := ⟨fun x y hxy ↦ by rw [hsymm, hxy]⟩
  rw [hsymm]
  exact (h.apart.imp fun h ↦ h.2).forall ha hb hne

theorem mem_accepted_next {a b : α} :
    b ∈ (next conflict blocked s a).accepted ↔
      b ∈ s.accepted ∨ (b = a ∧ Admits conflict blocked s a) := by
  rw [next]
  split
  · rename_i h
    rw [List.mem_append, List.mem_singleton, and_iff_left h]
  · rename_i h
    rw [iff_false_intro h, and_false, or_false]

theorem Sound.next (h : Sound conflict blocked s) (a : α) :
    Sound conflict blocked (next conflict blocked s a) := by
  constructor
  · intro b hb
    rcases mem_accepted_next.mp hb with hb | ⟨rfl, -⟩
    · exact Finset.mem_insert_of_mem (h.seen b hb)
    · exact Finset.mem_insert_self _ _
  · intro b hb
    rcases mem_accepted_next.mp hb with hb | ⟨rfl, hadmits⟩
    · exact h.free b hb
    · exact hadmits.2.1
  · rw [Screening.next]
    split
    · rename_i hadmits
      rw [List.pairwise_append]
      refine ⟨h.apart, List.pairwise_singleton _ _, fun b hb c hc ↦ ?_⟩
      rw [List.mem_singleton.mp hc]
      exact ⟨fun heq ↦ hadmits.1 (heq ▸ h.seen b hb), hadmits.2.2 b hb⟩
    · exact h.apart

theorem Sound.run (h : Sound conflict blocked s) (items : List α) :
    Sound conflict blocked (run conflict blocked s items) := by
  induction items generalizing s with
  | nil => exact h
  | cons a items ih => exact ih (h.next a)

theorem prefix_accepted_run (s : Screen α) (items : List α) :
    s.accepted <+: (run conflict blocked s items).accepted := by
  induction items generalizing s with
  | nil => exact List.prefix_rfl
  | cons a items ih =>
    refine List.IsPrefix.trans ?_ (ih (next conflict blocked s a))
    rw [next]
    split
    · exact List.prefix_append _ _
    · exact List.prefix_rfl

theorem not_mem_accepted_run {a : α} (hseen : a ∈ s.seen) (h : a ∉ s.accepted) (items : List α) :
    a ∉ (run conflict blocked s items).accepted := by
  induction items generalizing s with
  | nil => exact h
  | cons b items ih =>
    refine ih (Finset.mem_insert_of_mem hseen) fun hmem ↦ ?_
    rcases mem_accepted_next.mp hmem with hmem | ⟨rfl, hadmits⟩
    · exact h hmem
    · exact hadmits.1 hseen

/-- A new item that is accepted in the end is accepted at once. -/
theorem admits_of_mem_accepted {a : α} {items : List α} (hsound : Sound conflict blocked s)
    (hnew : a ∉ s.seen) (h : a ∈ (run conflict blocked s (a :: items)).accepted) :
    Admits conflict blocked s a := by
  by_contra hrefused
  refine not_mem_accepted_run (Finset.mem_insert_self a s.seen) (fun hmem ↦ ?_) items h
  rcases mem_accepted_next.mp hmem with hmem | ⟨-, hadmits⟩
  · exact hnew (hsound.seen a hmem)
  · exact hrefused hadmits

/-! ## Screening again -/

/-- Blocked before, or held, or in conflict with an item that is held. -/
def reserve (conflict : α → α → Bool) (blocked : α → Bool) (held : List α) (a : α) : Bool :=
  blocked a || decide (a ∈ held) || held.any (conflict a)

theorem reserve_eq_false_iff {held : List α} {a : α} :
    reserve conflict blocked held a = false ↔
      blocked a = false ∧ a ∉ held ∧ ∀ b ∈ held, conflict a b = false := by
  simp [reserve, and_assoc]

/-- The screen that accepted none of the items that are held. -/
def Screen.without (s : Screen α) (held : List α) : Screen α :=
  ⟨s.seen, s.accepted.filter fun a ↦ a ∉ held⟩

theorem mem_accepted_without {held : List α} {a : α} :
    a ∈ (s.without held).accepted ↔ a ∈ s.accepted ∧ a ∉ held := by
  simp [Screen.without]

variable {held : List α} {a : α} {items : List α}

/-- With some of the items held that the stream gets accepted, the screen admits what it admitted
before and is not held. -/
theorem admits_without_iff (hsymm : ∀ a b, conflict a b = conflict b a)
    (hsound : Sound conflict blocked (run conflict blocked s (a :: items)))
    (hheld : ∀ b ∈ held, b ∈ (run conflict blocked s (a :: items)).accepted) :
    Admits conflict (reserve conflict blocked held) (s.without held) a ↔
      Admits conflict blocked s a ∧ a ∉ held := by
  constructor
  · rintro ⟨hseen, hblocked, hconflict⟩
    obtain ⟨hfree, hnot, hclear⟩ := reserve_eq_false_iff.mp hblocked
    refine ⟨⟨hseen, hfree, fun b hb ↦ ?_⟩, hnot⟩
    by_cases hmem : b ∈ held
    · exact hclear b hmem
    · exact hconflict b (mem_accepted_without.mpr ⟨hb, hmem⟩)
  · rintro ⟨hadmits, hnot⟩
    -- the item is accepted itself, and the accepted items are in no conflict with each other
    have hself : a ∈ (run conflict blocked s (a :: items)).accepted :=
      (prefix_accepted_run (next conflict blocked s a) items).subset
        (mem_accepted_next.mpr (Or.inr ⟨rfl, hadmits⟩))
    refine ⟨hadmits.1, reserve_eq_false_iff.mpr ⟨hadmits.2.1, hnot, fun b hb ↦ ?_⟩, fun b hb ↦ ?_⟩
    · exact hsound.no_conflict hsymm hself (hheld b hb) fun heq ↦ hnot (heq ▸ hb)
    · exact hadmits.2.2 b (mem_accepted_without.mp hb).1

/-- **Screening again.** One item keeps the two screens in step. -/
theorem next_without (hsymm : ∀ a b, conflict a b = conflict b a)
    (hsound : Sound conflict blocked (run conflict blocked s (a :: items)))
    (hheld : ∀ b ∈ held, b ∈ (run conflict blocked s (a :: items)).accepted) :
    next conflict (reserve conflict blocked held) (s.without held) a =
      (next conflict blocked s a).without held := by
  have hiff := admits_without_iff hsymm hsound hheld
  have hfilter : (if Admits conflict (reserve conflict blocked held) (s.without held) a then
        (s.without held).accepted ++ [a] else (s.without held).accepted) =
      ((if Admits conflict blocked s a then s.accepted ++ [a] else s.accepted).filter
        fun b ↦ b ∉ held) := by
    by_cases hadmits : Admits conflict blocked s a
    · rw [if_pos hadmits, List.filter_append]
      by_cases hmem : a ∈ held
      · rw [if_neg fun h ↦ (hiff.mp h).2 hmem, List.filter_singleton]
        simp [Screen.without, hmem]
      · rw [if_pos (hiff.mpr ⟨hadmits, hmem⟩), List.filter_singleton]
        simp [Screen.without, hmem]
    · rw [if_neg hadmits, if_neg fun h ↦ hadmits (hiff.mp h).1]
      rfl
  rw [next, hfilter]
  rfl

end Screening
