import Mathlib.Data.List.Basic
import Mathlib.Logic.Function.Basic

/-!
# Histories kept in generations

A sequence is kept in numbered parts, the generations: `g 0` is the newest one and grows at its end,
and the whole sequence is `g n ++ ⋯ ++ g 1 ++ g 0`. Moving a part to an empty older place keeps the
sequence, and emptying the oldest place drops a beginning of it, whatever places are empty in
between.
-/

namespace Generations

variable {α : Type*}

/-- What the generations up to the `n`-th hold, from the oldest on. -/
def history (g : ℕ → List α) : ℕ → List α
  | 0 => g 0
  | n + 1 => g (n + 1) ++ history g n

variable {g g' : ℕ → List α} {i n : ℕ}

theorem history_congr (h : ∀ i ≤ n, g i = g' i) : history g n = history g' n := by
  induction n with
  | zero => exact h 0 (Nat.le_refl _)
  | succ n ih =>
    rw [history, history, h _ (Nat.le_refl _), ih fun i hi ↦ h i (Nat.le_succ_of_le hi)]

/-- A change of an older generation. -/
theorem history_update_of_lt (h : n < i) (part : List α) :
    history (Function.update g i part) n = history g n :=
  history_congr fun _ hj ↦ Function.update_of_ne (Nat.ne_of_lt (Nat.lt_of_le_of_lt hj h)) ..

theorem history_push (new : List α) (n : ℕ) :
    history (Function.update g 0 (g 0 ++ new)) n = history g n ++ new := by
  induction n with
  | zero => rw [history, history, Function.update_self]
  | succ n ih =>
    rw [history, history, ih, Function.update_of_ne n.succ_ne_zero, List.append_assoc]

/-- A generation moves to the next older place, which is empty. -/
theorem history_move (hempty : g (i + 1) = []) (hi : i < n) :
    history (Function.update (Function.update g (i + 1) (g i)) i []) n = history g n := by
  induction n with
  | zero => exact absurd hi (Nat.not_lt_zero i)
  | succ n ih =>
    rw [history, history]
    rcases Nat.lt_succ_iff_lt_or_eq.mp hi with hless | rfl
    · -- both places are below the oldest one
      have hne : n + 1 ≠ i := by omega
      have hne' : n + 1 ≠ i + 1 := by omega
      rw [ih hless, Function.update_of_ne hne, Function.update_of_ne hne']
    · rw [Function.update_of_ne (Nat.succ_ne_self i), Function.update_self, hempty,
        List.nil_append]
      cases i with
      | zero => rw [history, history, Function.update_self, List.append_nil]
      | succ i =>
        rw [history, history, Function.update_self, List.nil_append,
          history_update_of_lt (Nat.lt_succ_self i),
          history_update_of_lt (Nat.lt_succ_of_lt (Nat.lt_succ_self i))]

/-- Emptying the oldest place drops what it holds, which is the beginning. -/
theorem history_drop (g : ℕ → List α) (n : ℕ) :
    history g n = g n ++ history (Function.update g n []) n := by
  cases n with
  | zero => rw [history, history, Function.update_self, List.append_nil]
  | succ n =>
    rw [history, history, Function.update_self, List.nil_append,
      history_update_of_lt (Nat.lt_succ_self n)]

end Generations
