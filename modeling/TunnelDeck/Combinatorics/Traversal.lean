import Mathlib.Data.Finset.Card
import Mathlib.Logic.Relation

/-!
# Walking a graph depth first

A node has a list of steps: it yields an item, or it points somewhere. What is pointed to may be
another node or nothing. The walk goes through the steps in their order, enters a node that it has
not seen, and stops when it is too deep or has seen too many nodes.

While the walk is inside a node, not everything that the node points to has been seen. What holds at
all times is about the nodes that a call has added: when the call comes back without an error, all
of these are finished. At the end of the walk these are all the nodes it has seen, so what was seen
is what is reachable.

## Main results

* `mem_found_iff`: a walk that ends without an error has found what the reachable nodes yield.
* `Bounded.visit`: however it ends, it has gone through a bounded number of distinct nodes.
-/

namespace Traversal

/-- A graph over nodes `κ` that are pointed to by references `ι` and yield items `α`. -/
structure Graph (ι κ α : Type*) where
  /-- The node behind a reference. -/
  resolve : ι → Option κ
  /-- What a node yields and points to, in order. -/
  steps : κ → List (α ⊕ ι)

/-- What the walk has seen, gone through and found. -/
structure State (κ α : Type*) where
  seen : Finset κ
  expanded : List κ
  found : List α

/-- Why a walk stopped. -/
inductive Limit where
  | depth
  | count

def State.empty {κ α : Type*} : State κ α := ⟨∅, [], []⟩

/-- How a call ends, and what it leaves. -/
abbrev Outcome (κ α : Type*) := Except Limit Unit × State κ α

variable {ι κ α : Type*}

def follow (visit : ι → State κ α → Outcome κ α) : List (α ⊕ ι) → State κ α → Outcome κ α
  | [], s => (.ok (), s)
  | .inl item :: rest, s => follow visit rest { s with found := s.found ++ [item] }
  | .inr reference :: rest, s =>
    match visit reference s with
    | (.ok (), s) => follow visit rest s
    | (.error limit, s) => (.error limit, s)

theorem follow_append (visit : ι → State κ α → Outcome κ α) (steps steps' : List (α ⊕ ι))
    (s : State κ α) :
    follow visit (steps ++ steps') s =
      match follow visit steps s with
      | (.ok (), s) => follow visit steps' s
      | (.error limit, s) => (.error limit, s) := by
  induction steps generalizing s with
  | nil => rfl
  | cons step rest ih =>
    cases step with
    | inl item => exact ih _
    | inr reference =>
      rw [List.cons_append, follow, follow]
      split
      · exact ih _
      · rfl

variable [DecidableEq κ]

/-- The state in which a new node has been entered. -/
def State.enter (s : State κ α) (node : κ) : State κ α := { s with seen := insert node s.seen }

/-- Visits what is behind a reference, `depth` levels deep at most. -/
def visit (g : Graph ι κ α) (count : ℕ) : ℕ → ι → State κ α → Outcome κ α
  | 0, _, s => (.error .depth, s)
  | depth + 1, reference, s =>
    match g.resolve reference with
    | none => (.ok (), s)
    | some node =>
      if node ∈ s.seen then (.ok (), s)
      else if count < (s.enter node).seen.card then (.error .count, s.enter node)
      else
        follow (visit g count depth) (g.steps node)
          { s.enter node with expanded := s.expanded ++ [node] }

/-! ## What a walk adds -/

variable {g : Graph ι κ α} {count : ℕ}

/-- The node points to the other node. -/
def Edge (g : Graph ι κ α) (node other : κ) : Prop :=
  ∃ reference, .inr reference ∈ g.steps node ∧ g.resolve reference = some other

/-- The nodes that can be reached from behind a reference. -/
def Reachable (g : Graph ι κ α) (root : ι) (node : κ) : Prop :=
  ∃ first, g.resolve root = some first ∧ Relation.ReflTransGen (Edge g) first node

/-- What the step calls for has been done. -/
def Done (g : Graph ι κ α) (s : State κ α) : α ⊕ ι → Prop
  | .inl item => item ∈ s.found
  | .inr reference => ∀ node, g.resolve reference = some node → node ∈ s.seen

/-- All steps of the node have been done. -/
def Finished (g : Graph ι κ α) (s : State κ α) (node : κ) : Prop :=
  ∀ step ∈ g.steps node, Done g s step

/-- What a call adds: nodes that are finished, and nothing is taken away. -/
structure Grows (g : Graph ι κ α) (s s' : State κ α) : Prop where
  seen : s.seen ⊆ s'.seen
  found : s.found ⊆ s'.found
  finished : ∀ node ∈ s'.seen, node ∉ s.seen → Finished g s' node

omit [DecidableEq κ] in
theorem Done.mono {s s' : State κ α} (hseen : s.seen ⊆ s'.seen) (hfound : s.found ⊆ s'.found)
    {step : α ⊕ ι} (h : Done g s step) : Done g s' step := by
  cases step with
  | inl item => exact hfound h
  | inr reference => exact fun node hnode ↦ hseen (h node hnode)

omit [DecidableEq κ] in
theorem Grows.refl (s : State κ α) : Grows g s s :=
  ⟨fun _ h ↦ h, fun _ h ↦ h, fun _ h hnot ↦ absurd h hnot⟩

omit [DecidableEq κ] in
theorem Grows.trans {s s' s'' : State κ α} (h : Grows g s s') (h' : Grows g s' s'') :
    Grows g s s'' where
  seen := h.seen.trans h'.seen
  found := List.Subset.trans h.found h'.found
  finished node hnode hnot := by
    by_cases hmid : node ∈ s'.seen
    · exact fun step hstep ↦ (h.finished node hmid hnot step hstep).mono h'.seen h'.found
    · exact h'.finished node hnode hmid

omit [DecidableEq κ] in
/-- Going through steps, when each visit adds finished nodes and sees what it is to visit. -/
theorem grows_follow {visit : ι → State κ α → Outcome κ α}
    (hvisit : ∀ reference s s', visit reference s = (.ok (), s') →
      Grows g s s' ∧ Done g s' (.inr reference))
    {steps : List (α ⊕ ι)} {s s' : State κ α} (h : follow visit steps s = (.ok (), s')) :
    Grows g s s' ∧ ∀ step ∈ steps, Done g s' step := by
  induction steps generalizing s with
  | nil =>
    cases h
    exact ⟨.refl _, fun _ h ↦ absurd h List.not_mem_nil⟩
  | cons step rest ih =>
    cases step with
    | inl item =>
      obtain ⟨hgrows, hrest⟩ := ih h
      have hitem : item ∈ s'.found := hgrows.found (by simp)
      refine ⟨⟨hgrows.seen, fun a ha ↦ hgrows.found (by simp [ha]), hgrows.finished⟩, ?_⟩
      rintro step (_ | ⟨_, hstep⟩)
      · exact hitem
      · exact hrest step hstep
    | inr reference =>
      rw [follow] at h
      split at h
      · next s₁ hfirst =>
        obtain ⟨hgrows, hdone⟩ := hvisit reference s s₁ hfirst
        obtain ⟨hgrows', hrest⟩ := ih h
        refine ⟨hgrows.trans hgrows', ?_⟩
        rintro step (_ | ⟨_, hstep⟩)
        · exact hdone.mono hgrows'.seen hgrows'.found
        · exact hrest step hstep
      · cases h

/-- **A visit adds finished nodes only**, and the node it was to visit is seen. -/
theorem grows_visit (depth : ℕ) (reference : ι) {s s' : State κ α}
    (h : visit g count depth reference s = (.ok (), s')) :
    Grows g s s' ∧ Done g s' (.inr reference) := by
  induction depth generalizing reference s s' with
  | zero => cases h
  | succ depth ih =>
    rw [visit] at h
    split at h
    · next hresolve =>
      cases h
      exact ⟨.refl s, fun node hnode ↦ by rw [hresolve] at hnode; cases hnode⟩
    next node hresolve =>
    have honly {t : State κ α} (ht : node ∈ t.seen) : Done g t (.inr reference) := by
      intro other hother
      rw [hresolve] at hother
      exact Option.some.inj hother ▸ ht
    split at h
    · next hseen =>
      cases h
      exact ⟨.refl s, honly hseen⟩
    split at h
    · cases h
    obtain ⟨hgrows, hsteps⟩ := grows_follow (fun reference s s' h ↦ ih reference h) h
    have hnode : node ∈ s'.seen := hgrows.seen (Finset.mem_insert_self node s.seen)
    refine ⟨⟨fun k hk ↦ hgrows.seen (Finset.mem_insert_of_mem hk), hgrows.found, ?_⟩, honly hnode⟩
    -- the node itself is finished since its steps were gone through
    intro other hother hnot
    by_cases heq : other = node
    · rw [heq]
      exact hsteps
    · exact hgrows.finished other hother fun hmem ↦
        (Finset.mem_insert.mp hmem).elim heq hnot

/-! ## Where a walk comes from -/

/-- Everything that was seen and found comes from nodes of a kind. -/
structure Within (g : Graph ι κ α) (P : κ → Prop) (s : State κ α) : Prop where
  seen : ∀ node ∈ s.seen, P node
  found : ∀ item ∈ s.found, ∃ node, P node ∧ .inl item ∈ g.steps node

omit [DecidableEq κ] in
theorem within_follow {P : κ → Prop} {visit : ι → State κ α → Outcome κ α}
    {steps : List (α ⊕ ι)}
    (hvisit : ∀ reference, .inr reference ∈ steps → ∀ s, Within g P s →
      Within g P (visit reference s).2)
    (hitems : ∀ item, .inl item ∈ steps → ∃ node, P node ∧ .inl item ∈ g.steps node)
    {s : State κ α} (h : Within g P s) : Within g P (follow visit steps s).2 := by
  induction steps generalizing s with
  | nil => exact h
  | cons step rest ih =>
    have hrest := @ih (fun reference hmem ↦ hvisit reference (List.mem_cons_of_mem _ hmem))
      (fun item hmem ↦ hitems item (List.mem_cons_of_mem _ hmem))
    cases step with
    | inl item =>
      refine hrest ⟨h.seen, fun other hother ↦ ?_⟩
      rcases List.mem_append.mp hother with hother | hother
      · exact h.found other hother
      · rw [List.mem_singleton.mp hother]
        exact hitems item List.mem_cons_self
    | inr reference =>
      have hfirst := hvisit reference List.mem_cons_self s h
      rw [follow]
      split
      · next s₁ hvisited =>
        rw [hvisited] at hfirst
        exact hrest hfirst
      · next limit s₁ hvisited =>
        rw [hvisited] at hfirst
        exact hfirst

theorem within_visit {P : κ → Prop} (hclosed : ∀ node other, P node → Edge g node other → P other)
    (depth : ℕ) (reference : ι) (hroot : ∀ node, g.resolve reference = some node → P node)
    {s : State κ α} (h : Within g P s) : Within g P (visit g count depth reference s).2 := by
  induction depth generalizing reference s with
  | zero => exact h
  | succ depth ih =>
    rw [visit]
    split
    · exact h
    next node hresolve =>
    split
    · exact h
    have hnode := hroot node hresolve
    have henter : Within g P (s.enter node) :=
      ⟨fun k hk ↦ (Finset.mem_insert.mp hk).elim (fun heq ↦ heq ▸ hnode) (h.seen k), h.found⟩
    split
    · exact henter
    · refine within_follow (fun other hother s hs ↦ ih other (fun k hk ↦ ?_) hs)
        (fun item hitem ↦ ⟨node, hnode, hitem⟩) ⟨henter.seen, henter.found⟩
      exact hclosed node k hnode ⟨other, hother, hk⟩

/-! ## What a walk finds -/

theorem within_reachable (g : Graph ι κ α) (count : ℕ) (depth : ℕ) (root : ι) :
    Within g (Reachable g root) (visit g count depth root .empty).2 := by
  refine within_visit ?_ depth root (fun k hk ↦ ⟨k, hk, .refl⟩) ?_
  · rintro node other ⟨first, hfirst, hpath⟩ hedge
    exact ⟨first, hfirst, hpath.tail hedge⟩
  · exact ⟨by simp [State.empty], by simp [State.empty]⟩

/-- A walk that ends without an error has seen the reachable nodes. -/
theorem mem_seen_iff {depth : ℕ} {root : ι} {s : State κ α}
    (h : visit g count depth root .empty = (.ok (), s)) (node : κ) :
    node ∈ s.seen ↔ Reachable g root node := by
  obtain ⟨hgrows, hroot⟩ := grows_visit depth root h
  constructor
  · intro hnode
    have hwithin := within_reachable g count depth root
    rw [h] at hwithin
    exact hwithin.seen node hnode
  · rintro ⟨first, hfirst, hpath⟩
    induction hpath with
    | refl => exact hroot first hfirst
    | tail _ hedge ih =>
      obtain ⟨reference, hstep, hresolve⟩ := hedge
      exact hgrows.finished _ ih (by simp [State.empty]) _ hstep _ hresolve

/-- **A walk finds what the reachable nodes yield.** -/
theorem mem_found_iff {depth : ℕ} {root : ι} {s : State κ α}
    (h : visit g count depth root .empty = (.ok (), s)) (item : α) :
    item ∈ s.found ↔ ∃ node, Reachable g root node ∧ .inl item ∈ g.steps node := by
  constructor
  · intro hitem
    have hwithin := within_reachable g count depth root
    rw [h] at hwithin
    exact hwithin.found item hitem
  · rintro ⟨node, hreachable, hstep⟩
    have hnode := (mem_seen_iff h node).mpr hreachable
    exact (grows_visit depth root h).1.finished node hnode (by simp [State.empty]) _ hstep

/-! ## How much a walk goes through -/

/-- The nodes gone through are distinct, seen, and not too many. -/
structure Bounded (count : ℕ) (s : State κ α) : Prop where
  nodup : s.expanded.Nodup
  seen : ∀ node ∈ s.expanded, node ∈ s.seen
  length : s.expanded.length ≤ count

omit [DecidableEq κ] in
theorem Bounded.follow {visit : ι → State κ α → Outcome κ α}
    (hvisit : ∀ reference s, Bounded count s → Bounded count (visit reference s).2)
    (steps : List (α ⊕ ι)) {s : State κ α} (h : Bounded count s) :
    Bounded count (Traversal.follow visit steps s).2 := by
  induction steps generalizing s with
  | nil => exact h
  | cons step rest ih =>
    cases step with
    | inl item => exact ih ⟨h.nodup, h.seen, h.length⟩
    | inr reference =>
      have hfirst := hvisit reference s h
      rw [Traversal.follow]
      split
      · next s₁ hvisited =>
        rw [hvisited] at hfirst
        exact ih hfirst
      · next limit s₁ hvisited =>
        rw [hvisited] at hfirst
        exact hfirst

/-- **A visit goes through a bounded number of nodes**, each of them once. -/
theorem Bounded.visit (depth : ℕ) (reference : ι) {s : State κ α} (h : Bounded count s) :
    Bounded count (Traversal.visit g count depth reference s).2 := by
  induction depth generalizing reference s with
  | zero => exact h
  | succ depth ih =>
    rw [Traversal.visit]
    split
    · exact h
    next node hresolve =>
    split
    · exact h
    next hnew =>
    have hseen : ∀ k ∈ s.expanded, k ∈ (s.enter node).seen :=
      fun k hk ↦ Finset.mem_insert_of_mem (h.seen k hk)
    split
    · exact ⟨h.nodup, hseen, h.length⟩
    next hcount =>
    have hnodup : (s.expanded ++ [node]).Nodup := by
      rw [List.nodup_append]
      exact ⟨h.nodup, List.nodup_singleton node, fun k hk other hother ↦
        fun heq ↦ hnew (List.mem_singleton.mp hother ▸ heq ▸ h.seen k hk)⟩
    have hall : ∀ k ∈ s.expanded ++ [node], k ∈ (s.enter node).seen := by
      intro k hk
      rcases List.mem_append.mp hk with hk | hk
      · exact hseen k hk
      · rw [List.mem_singleton.mp hk]
        exact Finset.mem_insert_self node s.seen
    have hlength : (s.expanded ++ [node]).length ≤ count := by
      rw [← List.toFinset_card_of_nodup hnodup]
      refine (Finset.card_le_card fun k hk ↦ ?_).trans (Nat.le_of_not_lt hcount)
      exact hall k (List.mem_toFinset.mp hk)
    exact Bounded.follow (fun reference s hs ↦ ih reference hs) _ ⟨hnodup, hall, hlength⟩

end Traversal
