import Mathlib.Data.List.Chain

/-!
# Effects that are recorded before they are performed

A process that can stop at any point records an effect, under a label, before it performs it. What
has happened is then a log of two kinds of events. If a label is recorded only when it is not the
last one recorded, and performed only right after it was recorded, then there are no more effects
than records, and between two effects under one label another label was recorded. That second record
need not have been followed by its effect, which is what a stop in between leaves.
-/

namespace WriteAhead

inductive Logged (α : Type*) where
  | recorded (label : α)
  | performed (label : α)
  deriving DecidableEq

variable {α : Type*}

namespace Logged

def label : Logged α → α
  | recorded a | performed a => a

def isRecorded : Logged α → Bool
  | recorded _ => true
  | performed _ => false

def isPerformed : Logged α → Bool
  | recorded _ => false
  | performed _ => true

/-- What may come right after an event. -/
def Follows : Logged α → Logged α → Prop
  | e, recorded a => a ≠ e.label
  | recorded b, performed a => a = b
  | performed _, performed _ => False

end Logged

open Logged

/-- A log that begins with a record and in which every event may follow the one before. -/
structure Proper (log : List (Logged α)) : Prop where
  first : ∀ e ∈ log.head?, e.isRecorded
  chain : log.IsChain Follows

variable {log : List (Logged α)} {a : α}

theorem proper_nil : Proper ([] : List (Logged α)) := by
  refine ⟨?_, List.IsChain.nil⟩
  intro e he
  cases he

theorem Proper.append {e : Logged α} (h : Proper log) (hnil : log = [] → e.isRecorded)
    (hlast : ∀ f ∈ log.getLast?, Follows f e) : Proper (log ++ [e]) := by
  constructor
  · cases log with
    | nil =>
      intro f hf
      obtain rfl := Option.some.inj hf
      exact hnil rfl
    | cons b log => exact h.first
  · refine h.chain.append (List.isChain_singleton e) fun f hf g hg ↦ ?_
    obtain rfl := Option.some.inj hg
    exact hlast f hf

theorem Proper.record (h : Proper log) (hlast : (log.getLast?).map label ≠ some a) :
    Proper (log ++ [recorded a]) := by
  refine h.append (fun _ ↦ rfl) fun f hf heq ↦ hlast ?_
  rw [Option.mem_def.mp hf, Option.map_some, heq]

theorem Proper.perform (h : Proper log) (hlast : log.getLast? = some (recorded a)) :
    Proper (log ++ [performed a]) := by
  refine h.append (fun hnil ↦ ?_) fun f hf ↦ ?_
  · rw [hnil] at hlast
    cases hlast
  · obtain rfl := Option.some.inj (hf.symm.trans hlast)
    exact rfl

/-- In a chain each effect has the record before it, but perhaps for the first. -/
theorem countP_performed_le (h : log.IsChain Follows) :
    log.countP isPerformed ≤ log.countP isRecorded + (log.head?.any isPerformed).toNat := by
  induction log with
  | nil => exact Nat.zero_le _
  | cons e log ih =>
    have hrest := ih h.tail
    cases e with
    | recorded a =>
      simp only [List.countP_cons, isPerformed, isRecorded, List.head?_cons, Option.any_some,
        Bool.toNat_false, Bool.false_eq_true, if_true, if_false]
      have hone := Bool.toNat_le (log.head?.any isPerformed)
      omega
    | performed a =>
      have hnext : log.head?.any isPerformed = false := by
        cases log with
        | nil => rfl
        | cons f log =>
          cases f with
          | recorded b => rfl
          | performed b => exact absurd (List.isChain_cons_cons.mp h).1 not_false
      rw [hnext] at hrest
      simp only [List.countP_cons, isPerformed, isRecorded, List.head?_cons, Option.any_some,
        Bool.toNat_true, Bool.toNat_false, Bool.false_eq_true, if_true, if_false] at hrest ⊢
      omega

/-- **There are no more effects than records.** -/
theorem Proper.performed_le (h : Proper log) :
    log.countP isPerformed ≤ log.countP isRecorded := by
  have hle := countP_performed_le h.chain
  cases log with
  | nil => exact Nat.zero_le _
  | cons e log =>
    cases e with
    | recorded a => exact hle
    | performed a => exact absurd (h.first _ rfl) Bool.false_ne_true

/-- **Between two effects under one label another label was recorded.** -/
theorem Proper.between {before middle after : List (Logged α)}
    (h : Proper (before ++ performed a :: (middle ++ performed a :: after))) :
    ∃ b, b ≠ a ∧ recorded b ∈ middle := by
  have htail := (List.isChain_append.mp h.chain).2.1
  cases middle with
  | nil => exact absurd (List.isChain_cons_cons.mp htail).1 not_false
  | cons e middle =>
    have hfirst := (List.isChain_cons_cons.mp htail).1
    cases e with
    | recorded b => exact ⟨b, hfirst, List.mem_cons_self⟩
    | performed b => exact absurd hfirst not_false

end WriteAhead
