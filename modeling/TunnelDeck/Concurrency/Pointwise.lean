import Mathlib.Data.List.Nodup

/-!
# Loops that change a state key by key

A state is often read as a map: `view s k` is what it holds under the key `k`. If one round of a
loop changes what is under its own key only, and by a function of what was there, then a loop over
distinct keys changes each of them once, whatever the order.
-/

namespace Concurrency

variable {σ κ ν : Type*} [DecidableEq κ]

/-- `f` changes a state under its key only, as `g` says. -/
def Pointwise (view : σ → κ → ν) (f : σ → κ → σ) (g : ν → ν) : Prop :=
  ∀ s k j, view (f s k) j = if j = k then g (view s j) else view s j

theorem Pointwise.foldl {view : σ → κ → ν} {f : σ → κ → σ} {g : ν → ν}
    (h : Pointwise view f g) {ks : List κ} (hks : ks.Nodup) (s : σ) (j : κ) :
    view (ks.foldl f s) j = if j ∈ ks then g (view s j) else view s j := by
  induction ks generalizing s with
  | nil => simp
  | cons k ks ih =>
    have hk := List.nodup_cons.mp hks
    rw [List.foldl_cons, ih hk.2, h]
    by_cases hj : j = k
    · subst hj
      rw [if_neg hk.1, if_pos rfl, if_pos List.mem_cons_self]
    · rw [if_neg hj]
      simp only [List.mem_cons, hj, false_or]

end Concurrency
