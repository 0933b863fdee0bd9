import Mathlib.Logic.Function.Basic
import TunnelDeck.Concurrency.Run

/-!
# Interleaved threads over a shared state

Threads are numbered by `ℕ` and each is at a program point `π`. A step lets one thread run its
next atomic section: `exec e s p` is the shared state and the program point after the section a
thread at `p` runs on `s` when the environment answers `e`. The scheduler's choice of the thread
and the environment's answer are the input of the step, so `Concurrency.run` over these inputs
ranges over all interleavings.

## Rules

* `Consistent` packages an invariant of three parts: a global assertion on the shared state, a
  local assertion on the point of each thread, and a relation between the points of two different
  threads. `Consistent.step_of` reduces its preservation to what one section does to the thread that
  runs it and to the assertion of one other thread.
* `owned_step` is the rule for resources: if every live token of the shared state is held by some
  thread, it stays so when a section neither creates a token it does not take nor drops one that
  stays live.
-/

namespace Concurrency

/-- The shared state and the program point of every thread. -/
structure World (σ π : Type*) where
  /-- What the threads share. -/
  shared : σ
  /-- Where each thread is. -/
  thread : ℕ → π

namespace World

variable {σ π ε : Type*} (exec : ε → σ → π → σ × π)

/-- The thread `a.1` runs its next section, to which the environment answers `a.2`. -/
def step (w : World σ π) (a : ℕ × ε) : World σ π where
  shared := (exec a.2 w.shared (w.thread a.1)).1
  thread := Function.update w.thread a.1 (exec a.2 w.shared (w.thread a.1)).2

@[simp] theorem step_shared (w : World σ π) (a : ℕ × ε) :
    (w.step exec a).shared = (exec a.2 w.shared (w.thread a.1)).1 := rfl

@[simp] theorem step_thread_self (w : World σ π) (a : ℕ × ε) :
    (w.step exec a).thread a.1 = (exec a.2 w.shared (w.thread a.1)).2 :=
  Function.update_self ..

theorem step_thread_of_ne (w : World σ π) {a : ℕ × ε} {t : ℕ} (h : t ≠ a.1) :
    (w.step exec a).thread t = w.thread t :=
  Function.update_of_ne h ..

theorem run_thread_of_ne {as : List (ℕ × ε)} {t : ℕ} (h : ∀ a ∈ as, a.1 ≠ t) (w : World σ π) :
    (run (step exec) w as).thread t = w.thread t := by
  induction as generalizing w with
  | nil => rfl
  | cons a as ih =>
    rw [run_cons, ih fun b hb ↦ h b (List.mem_cons_of_mem _ hb)]
    exact step_thread_of_ne exec w (h a List.mem_cons_self).symm

/-- In a run of the first `n` threads the others stay at `p`, so a condition on the steps has to be
met for them only there. -/
theorem along_of_first {n : ℕ} {p : π} {C D : World σ π → ℕ × ε → Prop}
    (hCD : ∀ w a, (∀ u, n ≤ u → w.thread u = p) → C w a → D w a) {w : World σ π}
    (hw : ∀ u, n ≤ u → w.thread u = p) {as : List (ℕ × ε)} (hn : ∀ a ∈ as, a.1 < n)
    (has : Along (step exec) C w as) : Along (step exec) D w as := by
  induction as generalizing w with
  | nil => trivial
  | cons a as ih =>
    have ha : a.1 < n := hn a List.mem_cons_self
    refine ⟨hCD w a hw has.1, ih (fun u hu ↦ ?_) (fun b hb ↦ hn b (List.mem_cons_of_mem _ hb))
      has.2⟩
    rw [step_thread_of_ne exec w (by omega)]
    exact hw u hu

/-! ## Putting a thread somewhere else -/

/-- The world with the thread `t` at `p`. -/
def setThread (w : World σ π) (t : ℕ) (p : π) : World σ π :=
  { w with thread := Function.update w.thread t p }

@[simp] theorem setThread_shared (w : World σ π) (t : ℕ) (p : π) :
    (w.setThread t p).shared = w.shared := rfl

@[simp] theorem setThread_thread_self (w : World σ π) (t : ℕ) (p : π) :
    (w.setThread t p).thread t = p := Function.update_self ..

theorem setThread_thread_of_ne (w : World σ π) {t u : ℕ} (h : u ≠ t) (p : π) :
    (w.setThread t p).thread u = w.thread u := Function.update_of_ne h ..

theorem step_setThread_self (w : World σ π) (t : ℕ) (p : π) (e : ε) :
    (w.setThread t p).step exec (t, e) =
      { w with shared := (exec e w.shared p).1 }.setThread t (exec e w.shared p).2 := by
  rw [step, setThread_thread_self, setThread, setThread, Function.update_idem]

theorem step_setThread_of_ne (w : World σ π) {t : ℕ} (p : π) {a : ℕ × ε} (h : a.1 ≠ t) :
    (w.setThread t p).step exec a = (w.step exec a).setThread t p := by
  rw [step, setThread_thread_of_ne w h, setThread, setThread, step,
    Function.update_comm (Ne.symm h)]

theorem run_setThread_of_ne {as : List (ℕ × ε)} {t : ℕ} (h : ∀ a ∈ as, a.1 ≠ t) (w : World σ π)
    (p : π) : run (step exec) (w.setThread t p) as = (run (step exec) w as).setThread t p := by
  induction as generalizing w with
  | nil => rfl
  | cons a as ih =>
    rw [run_cons, run_cons, step_setThread_of_ne exec w p (h a List.mem_cons_self),
      ih fun b hb ↦ h b (List.mem_cons_of_mem _ hb)]

/-! ## Assertions on threads -/

/-- A global assertion, one on every thread, and one on every pair of different threads. -/
structure Consistent (G : σ → Prop) (L : σ → π → Prop) (R : π → π → Prop) (w : World σ π) :
    Prop where
  /-- The assertion on the shared state. -/
  shared : G w.shared
  /-- The assertion on each thread. -/
  thread : ∀ t, L w.shared (w.thread t)
  /-- The assertion on two threads. -/
  pair : ∀ t u, t ≠ u → R (w.thread t) (w.thread u)

variable {exec} {G : σ → Prop} {L : σ → π → Prop} {R : π → π → Prop} {C : ε → σ → π → Prop}
  {D : ε → σ → π → π → Prop}

/-- **The interference rule.** A section started at `p` has to keep the global assertion,
establish the assertion of its own next point, keep the assertion of any other thread at `q`, and
leave the two compatible. It may assume `C` of itself and `D` of itself and each other thread. -/
theorem Consistent.step_of (hR : ∀ p q, R p q → R q p)
    (own : ∀ e s p, C e s p → G s → L s p →
      G (exec e s p).1 ∧ L (exec e s p).1 (exec e s p).2)
    (frame : ∀ e s p q, C e s p → D e s p q → G s → L s p → L s q → R p q →
      L (exec e s p).1 q ∧ R (exec e s p).2 q)
    {w : World σ π} (h : Consistent G L R w) {a : ℕ × ε} (ha : C a.2 w.shared (w.thread a.1))
    (hd : ∀ u, u ≠ a.1 → D a.2 w.shared (w.thread a.1) (w.thread u)) :
    Consistent G L R (w.step exec a) := by
  have hown := own a.2 w.shared (w.thread a.1) ha h.shared (h.thread a.1)
  have hother : ∀ u, u ≠ a.1 → L (w.step exec a).shared (w.thread u) ∧
      R ((w.step exec a).thread a.1) (w.thread u) := by
    intro u hu
    rw [step_thread_self]
    exact frame a.2 w.shared (w.thread a.1) (w.thread u) ha (hd u hu) h.shared (h.thread a.1)
      (h.thread u) (h.pair a.1 u hu.symm)
  refine ⟨hown.1, fun t ↦ ?_, fun t u htu ↦ ?_⟩
  · by_cases ht : t = a.1
    · rw [ht, step_thread_self]
      exact hown.2
    · rw [step_thread_of_ne exec w ht]
      exact (hother t ht).1
  · by_cases ht : t = a.1
    · rw [step_thread_of_ne exec w (fun hu ↦ htu (ht.trans hu.symm)), ht]
      exact (hother u fun hu ↦ htu (ht.trans hu.symm)).2
    · by_cases hu : u = a.1
      · rw [step_thread_of_ne exec w ht, hu]
        exact hR _ _ (hother t ht).2
      · rw [step_thread_of_ne exec w ht, step_thread_of_ne exec w hu]
        exact h.pair t u htu

/-- The interference rule for sections that assume nothing of the other threads. -/
theorem Consistent.step (hR : ∀ p q, R p q → R q p)
    (own : ∀ e s p, C e s p → G s → L s p →
      G (exec e s p).1 ∧ L (exec e s p).1 (exec e s p).2)
    (frame : ∀ e s p q, C e s p → G s → L s p → L s q → R p q →
      L (exec e s p).1 q ∧ R (exec e s p).2 q)
    {w : World σ π} (h : Consistent G L R w) {a : ℕ × ε} (ha : C a.2 w.shared (w.thread a.1)) :
    Consistent G L R (w.step exec a) :=
  h.step_of (D := fun _ _ _ _ ↦ True) hR own (fun e s p q hC _ ↦ frame e s p q hC) ha
    fun _ _ ↦ trivial

/-- **The ownership rule.** `live` says which tokens the shared state has outstanding, `holds`
which of them a thread at a point answers for. A section may only leave a token outstanding that
it holds afterwards, or that was outstanding before without being its own. -/
theorem owned_step {κ : Type*} (live : σ → κ → Prop) (holds : π → κ → Prop)
    (hexec : ∀ e s p, C e s p → ∀ k, live (exec e s p).1 k →
      holds (exec e s p).2 k ∨ (live s k ∧ ¬ holds p k))
    {w : World σ π} (h : ∀ k, live w.shared k → ∃ t, holds (w.thread t) k) {a : ℕ × ε}
    (ha : C a.2 w.shared (w.thread a.1)) :
    ∀ k, live (w.step exec a).shared k → ∃ t, holds ((w.step exec a).thread t) k := by
  intro k hk
  rcases hexec a.2 w.shared (w.thread a.1) ha k hk with hself | ⟨hbefore, hnot⟩
  · exact ⟨a.1, by rw [step_thread_self]; exact hself⟩
  · obtain ⟨t, ht⟩ := h k hbefore
    have hne : t ≠ a.1 := fun hta ↦ hnot (hta ▸ ht)
    exact ⟨t, by rw [step_thread_of_ne exec w hne]; exact ht⟩

end World

end Concurrency
