import Mathlib.Data.List.Count

/-!
# The log of several threads

A log lists what has been done, each entry with the thread that did it. A bound that holds for the
entries of each thread holds for all entries: what a thread spends it has been given itself, so all
of them together have spent no more than was given.
-/

namespace Concurrency

variable {α : Type*}

/-- How many entries of a thread there are of a kind. -/
def ownCount (log : List (ℕ × α)) (t : ℕ) (p : α → Bool) : ℕ :=
  log.countP fun e ↦ e.1 = t && p e.2

/-- How many entries there are of a kind. -/
def totalCount (log : List (ℕ × α)) (p : α → Bool) : ℕ := log.countP fun e ↦ p e.2

variable {log : List (ℕ × α)} {t : ℕ} {p q : α → Bool}

@[simp] theorem ownCount_nil : ownCount ([] : List (ℕ × α)) t p = 0 := rfl

@[simp] theorem totalCount_nil : totalCount ([] : List (ℕ × α)) p = 0 := rfl

/-- A thread adds an entry or none. -/
theorem ownCount_append (u : ℕ) (entry : Option α) :
    ownCount (log ++ (entry.map (u, ·)).toList) t p =
      ownCount log t p + (decide (u = t) && entry.any p).toNat := by
  rw [ownCount, List.countP_append, ownCount]
  cases entry with
  | none => simp
  | some a =>
    rw [Option.map_some, Option.toList_some, List.countP_singleton, Option.any_some]
    cases decide (u = t) && p a <;> rfl

theorem totalCount_append (u : ℕ) (entry : Option α) :
    totalCount (log ++ (entry.map (u, ·)).toList) p = totalCount log p + (entry.any p).toNat := by
  rw [totalCount, List.countP_append, totalCount]
  cases entry with
  | none => rfl
  | some a =>
    rw [Option.map_some, Option.toList_some, List.countP_singleton, Option.any_some]
    cases p a <;> rfl

theorem totalCount_eq (t : ℕ) : totalCount log p =
    ownCount log t p + totalCount (log.filter fun e ↦ e.1 ≠ t) p := by
  induction log with
  | nil => rfl
  | cons e log ih =>
    rw [totalCount, ownCount] at ih ⊢
    rw [List.countP_cons, List.countP_cons, ih, List.filter_cons]
    by_cases ht : e.1 = t
    · simp [ht]
      omega
    · simp only [ht, decide_false, Bool.false_and, Bool.false_eq_true, if_false, Nat.add_zero,
        ne_eq, not_false_eq_true, decide_true, if_true]
      rw [totalCount, totalCount, List.countP_cons]
      omega

theorem ownCount_filter_self :
    ownCount (log.filter fun e ↦ e.1 ≠ t) t p = 0 := by
  rw [ownCount, List.countP_eq_zero]
  intro e he
  have hne := (List.mem_filter.mp he).2
  simp only [ne_eq, decide_not, Bool.not_eq_true', decide_eq_false_iff_not] at hne
  simp [hne]

theorem ownCount_filter_of_ne {u : ℕ} (h : u ≠ t) :
    ownCount (log.filter fun e ↦ e.1 ≠ t) u p = ownCount log u p := by
  rw [ownCount, List.countP_filter, ownCount]
  refine List.countP_congr fun e _ ↦ ?_
  by_cases hu : e.1 = u
  · simp [hu, h]
  · simp [hu]

/-- **What each thread keeps to, all threads keep to.** -/
theorem totalCount_le_of_ownCount_le (h : ∀ t, ownCount log t p ≤ ownCount log t q) :
    totalCount log p ≤ totalCount log q := by
  -- the entries of one thread are taken out of the log after the other
  induction hlength : log.length using Nat.strongRecOn generalizing log with
  | ind n ih =>
    cases log with
    | nil => exact Nat.le_refl 0
    | cons e rest =>
      let others := (e :: rest).filter fun f ↦ f.1 ≠ e.1
      have hless : others.length < n := by
        rw [← hlength]
        refine List.length_filter_lt_length_iff_exists.mpr ⟨e, List.mem_cons_self, ?_⟩
        simp
      have hothers : ∀ u, ownCount others u p ≤ ownCount others u q := by
        intro u
        by_cases hu : u = e.1
        · rw [hu, ownCount_filter_self]
          exact Nat.zero_le _
        · rw [ownCount_filter_of_ne hu, ownCount_filter_of_ne hu]
          exact h u
      have hrest := ih others.length hless hothers rfl
      rw [totalCount_eq e.1 (p := p), totalCount_eq e.1 (p := q)]
      exact Nat.add_le_add (h e.1) hrest

end Concurrency
