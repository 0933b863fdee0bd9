import Mathlib.Data.List.Basic

/-!
# Runs of a system with inputs

A system is a function `step : σ → ι → σ`: one step takes the state and an input and gives the
next state. Everything the environment decides (which party moves, what a call into the outside
returns) is part of the input, so a *run* is a list of inputs and quantifying over runs is
quantifying over lists.

## Conditions along a run

An assumption about the environment, or a hypothesis of the form "no step of this kind happens",
is a relation between the state before a step and the input of that step. `Along C s as` says that
every step of the run `as` from `s` satisfies `C`; the invariant rules take such a condition as a
premise of their step case.
-/

namespace Concurrency

variable {σ ι : Type*} (step : σ → ι → σ)

/-! ## Runs -/

/-- The state after the inputs `as`. -/
def run (s : σ) (as : List ι) : σ := as.foldl step s

@[simp] theorem run_nil (s : σ) : run step s [] = s := rfl

@[simp] theorem run_cons (s : σ) (a : ι) (as : List ι) :
    run step s (a :: as) = run step (step s a) as := rfl

theorem run_append (s : σ) (as bs : List ι) :
    run step s (as ++ bs) = run step (run step s as) bs :=
  List.foldl_append

/-! ## Conditions along a run -/

/-- Every step of the run meets `C`, which reads the state before the step and its input. -/
def Along (C : σ → ι → Prop) : σ → List ι → Prop
  | _, [] => True
  | s, a :: as => C s a ∧ Along C (step s a) as

@[simp] theorem along_nil (C : σ → ι → Prop) (s : σ) : Along step C s [] := trivial

@[simp] theorem along_cons (C : σ → ι → Prop) (s : σ) (a : ι) (as : List ι) :
    Along step C s (a :: as) ↔ C s a ∧ Along step C (step s a) as := Iff.rfl

instance (C : σ → ι → Prop) [∀ s a, Decidable (C s a)] (s : σ) (as : List ι) :
    Decidable (Along step C s as) :=
  match as with
  | [] => isTrue trivial
  | a :: as =>
    have := instDecidableAlong C (step s a) as
    inferInstanceAs (Decidable (_ ∧ _))

theorem along_append (C : σ → ι → Prop) (s : σ) (as bs : List ι) :
    Along step C s (as ++ bs) ↔ Along step C s as ∧ Along step C (run step s as) bs := by
  induction as generalizing s with
  | nil => rw [List.nil_append, run_nil]; exact (and_iff_right trivial).symm
  | cons a as ih => rw [List.cons_append, along_cons, along_cons, ih, run_cons, and_assoc]

/-- A condition along a run is a condition on every step of it. -/
theorem along_iff_initial (C : σ → ι → Prop) (s : σ) (as : List ι) :
    Along step C s as ↔ ∀ bs a, bs ++ [a] <+: as → C (run step s bs) a := by
  constructor
  · rintro h bs a ⟨cs, rfl⟩
    rw [List.append_assoc, along_append] at h
    exact h.2.1
  · intro h
    induction as generalizing s with
    | nil => trivial
    | cons a as ih =>
      refine ⟨h [] a ⟨as, rfl⟩, ih _ fun bs b hbs ↦ ?_⟩
      exact h (a :: bs) b (List.cons_prefix_cons.mpr ⟨rfl, hbs⟩)

variable {step} in
theorem Along.imp {C D : σ → ι → Prop} (h : ∀ s a, C s a → D s a) {s : σ} {as : List ι}
    (has : Along step C s as) : Along step D s as := by
  induction as generalizing s with
  | nil => trivial
  | cons a as ih => exact ⟨h s a has.1, ih has.2⟩

/-! ## Invariants -/

/-- **The invariant rule.** What every step meeting `C` keeps, every run meeting `C` keeps. -/
theorem invariant_along {I : σ → Prop} {C : σ → ι → Prop}
    (hstep : ∀ s a, I s → C s a → I (step s a)) {s : σ} {as : List ι} (hs : I s)
    (hC : Along step C s as) : I (run step s as) := by
  induction as generalizing s with
  | nil => exact hs
  | cons a as ih => exact ih (hstep s a hs hC.1) hC.2

theorem invariant_run {I : σ → Prop} (hstep : ∀ s a, I s → I (step s a)) {s : σ} (hs : I s)
    (as : List ι) : I (run step s as) := by
  induction as generalizing s with
  | nil => exact hs
  | cons a as ih => exact ih (hstep s a hs)

/-- **The simulation rule.** If every step of a system can be matched in another one, so can every
run. -/
theorem simulation_run {τ κ : Type*} (step' : τ → κ → τ) {R : σ → τ → Prop}
    (hstep : ∀ s t a, R s t → ∃ b, R (step s a) (step' t b)) {s : σ} {t : τ} (h : R s t)
    (as : List ι) : ∃ bs, R (run step s as) (run step' t bs) := by
  induction as generalizing s t with
  | nil => exact ⟨[], h⟩
  | cons a as ih =>
    obtain ⟨b, hb⟩ := hstep s t a h
    obtain ⟨bs, hbs⟩ := ih hb
    exact ⟨b :: bs, hbs⟩

/-- **The bound rule.** If every step meeting `C` decreases a measure, a run meeting `C` is no
longer than the measure has room for. -/
theorem length_add_le_of_along {I : σ → Prop} {C : σ → ι → Prop} (μ : σ → ℕ)
    (hstep : ∀ s a, I s → C s a → I (step s a) ∧ μ (step s a) < μ s) {s : σ} {as : List ι}
    (hs : I s) (hC : Along step C s as) : as.length + μ (run step s as) ≤ μ s := by
  induction as generalizing s with
  | nil => simp
  | cons a as ih =>
    obtain ⟨hnext, hless⟩ := hstep s a hs hC.1
    have hrest := ih hnext hC.2
    rw [List.length_cons, run_cons]
    omega

end Concurrency
