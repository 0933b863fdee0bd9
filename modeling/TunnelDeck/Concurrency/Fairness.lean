import Mathlib.Data.List.Range
import Mathlib.Data.Nat.Find
import TunnelDeck.Concurrency.Interleaving

/-!
# Fair schedules

An endless run of interleaved threads is a sequence of inputs, and its states are those after the
first `n` of them. It is fair to a thread if it schedules the thread again and again.

`Ends exec C goal p` says that a thread at `p` reaches a point of `goal` by sections of its own,
whatever the environment answers and whatever the other threads do to the shared state in between:
there is no bound on how long that takes, but it does not go on forever. With a fair schedule a
thread at such a point gets there, `Ends.eventually`.
-/

namespace Concurrency

/-! ## Endless runs -/

section Prefixes

variable {σ ι : Type*} (step : σ → ι → σ)

/-- The state after the first `n` inputs of a sequence. -/
def runFor (s : σ) (inputs : ℕ → ι) (n : ℕ) : σ := run step s ((List.range n).map inputs)

@[simp] theorem runFor_zero (s : σ) (inputs : ℕ → ι) : runFor step s inputs 0 = s := rfl

theorem runFor_succ (s : σ) (inputs : ℕ → ι) (n : ℕ) :
    runFor step s inputs (n + 1) = step (runFor step s inputs n) (inputs n) := by
  rw [runFor, List.range_succ, List.map_append, run_append, runFor, List.map_singleton, run_cons,
    run_nil]

end Prefixes

/-- The schedule comes back to the thread `t` again and again. -/
def Fair {ε : Type*} (t : ℕ) (schedule : ℕ → ℕ × ε) : Prop := ∀ n, ∃ m, n ≤ m ∧ (schedule m).1 = t

/-- The next section of a thread after `n`. -/
theorem Fair.next {ε : Type*} {t : ℕ} {schedule : ℕ → ℕ × ε} (h : Fair t schedule) (n : ℕ) :
    ∃ m, n ≤ m ∧ (schedule m).1 = t ∧ ∀ k, n ≤ k → k < m → (schedule k).1 ≠ t := by
  classical
  refine ⟨Nat.find (h n), (Nat.find_spec (h n)).1, (Nat.find_spec (h n)).2, fun k hk hless ht ↦ ?_⟩
  exact Nat.find_min (h n) hless ⟨hk, ht⟩

namespace World

variable {σ π ε : Type*} (exec : ε → σ → π → σ × π)

/-- The world after the first `n` sections of a schedule. -/
abbrev after (w : World σ π) (schedule : ℕ → ℕ × ε) (n : ℕ) : World σ π :=
  runFor (World.step exec) w schedule n

theorem after_thread_of_ne (w : World σ π) {schedule : ℕ → ℕ × ε} {t n m : ℕ} (hnm : n ≤ m)
    (h : ∀ k, n ≤ k → k < m → (schedule k).1 ≠ t) :
    (w.after exec schedule m).thread t = (w.after exec schedule n).thread t := by
  induction m, hnm using Nat.le_induction with
  | base => rfl
  | succ m hnm ih =>
    rw [after, runFor_succ, step_thread_of_ne exec _ (h m hnm (Nat.lt_succ_self m)).symm]
    exact ih fun k hk hless ↦ h k hk (Nat.lt_succ_of_lt hless)

theorem after_succ_thread_self (w : World σ π) {schedule : ℕ → ℕ × ε} {t n : ℕ}
    (h : (schedule n).1 = t) :
    (w.after exec schedule (n + 1)).thread t =
      (exec (schedule n).2 (w.after exec schedule n).shared
        ((w.after exec schedule n).thread t)).2 := by
  rw [after, runFor_succ, ← h, step_thread_self]

/-- What the sections of a thread keep under a condition on them holds of it in an endless run. -/
theorem invariant_after {I : π → Prop} {C : ε → π → Prop}
    (hexec : ∀ e s p, I p → C e p → I (exec e s p).2) {w : World σ π} {schedule : ℕ → ℕ × ε} {t : ℕ}
    (hw : I (w.thread t))
    (hC : ∀ n, (schedule n).1 = t → C (schedule n).2 ((w.after exec schedule n).thread t)) (n : ℕ) :
    I ((w.after exec schedule n).thread t) := by
  induction n with
  | zero => exact hw
  | succ n ih =>
    by_cases ht : (schedule n).1 = t
    · rw [after_succ_thread_self exec w ht]
      exact hexec _ _ _ ih (hC n ht)
    · rw [after, runFor_succ, step_thread_of_ne exec _ (Ne.symm ht)]
      exact ih

end World

/-! ## Threads that end -/

/-- From `p` every sequence of sections that meet `C` comes to `goal`, whatever the state in each
of them is. -/
inductive Ends {σ π ε : Type*} (exec : ε → σ → π → σ × π) (C : ε → π → Prop) (goal : π → Prop) :
    π → Prop
  | reached {p : π} (h : goal p) : Ends exec C goal p
  | next {p : π} (h : ∀ e s, C e p → Ends exec C goal (exec e s p).2) : Ends exec C goal p

namespace Ends

variable {σ π ε : Type*} {exec : ε → σ → π → σ × π} {C : ε → π → Prop} {goal goal' : π → Prop}

/-- **The liveness rule.** A fair schedule takes a thread that ends to its goal. -/
theorem eventually {w : World σ π} {schedule : ℕ → ℕ × ε} {t : ℕ} (hfair : Fair t schedule)
    (hC : ∀ n, (schedule n).1 = t → C (schedule n).2 ((w.after exec schedule n).thread t)) {p : π}
    (h : Ends exec C goal p) {n : ℕ} (hn : (w.after exec schedule n).thread t = p) :
    ∃ m, n ≤ m ∧ goal ((w.after exec schedule m).thread t) := by
  induction h generalizing n with
  | reached h => exact ⟨n, le_rfl, by rw [hn]; exact h⟩
  | next _ ih =>
    -- nothing happens to the thread until its next section
    obtain ⟨m, hm, ht, hquiet⟩ := hfair.next n
    have hstay := World.after_thread_of_ne exec w hm hquiet
    rw [hn] at hstay
    obtain ⟨k, hk, hgoal⟩ := ih (schedule m).2 (w.after exec schedule m).shared
      (by rw [← hstay]; exact hC m ht) (n := m + 1)
      (by rw [World.after_succ_thread_self exec w ht, hstay])
    exact ⟨k, by omega, hgoal⟩

end Ends

end Concurrency
