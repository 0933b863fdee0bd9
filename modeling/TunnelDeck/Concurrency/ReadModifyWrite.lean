import Mathlib.Data.List.Induction
import Mathlib.Logic.Function.Basic
import TunnelDeck.Concurrency.Run

/-!
# Two clients that read, modify and write a register

Two clients share a register. Each reads it once, changes the value it read, and writes the result
back as a whole; nothing compares the register with what was read. A schedule is the list of the
clients in the order of their steps.

Up to steps of clients that are done there are few schedules, and `Phase` names where one of them
stands. The phase says what the register and the clients hold, and whether a write has been
*overtaken*: whether the other client had read before it and writes after it.

## Main results

* `register_run`: the register after a schedule, from its phase.
* `kept_iff`: when both clients are done, both changes are in the register exactly if those of an
  overtaken client were there from the start.
-/

namespace Concurrency.ReadModifyWrite

variable {α : Type*}

/-! ## The register -/

/-- Where a client stands. -/
inductive Stage (α : Type*) where
  | start
  | held (read : α)
  | done

/-- The register and its two clients. -/
structure Register (α : Type*) where
  value : α
  client : Bool → Stage α

/-- One step of a client: it reads, or it writes what it made of the value it read. -/
def Register.next (put : Bool → α → α) (r : Register α) (t : Bool) : Register α :=
  match r.client t with
  | .start => { r with client := Function.update r.client t (.held r.value) }
  | .held read => { value := put t read, client := Function.update r.client t .done }
  | .done => r

def Register.init (value : α) : Register α := ⟨value, fun _ ↦ .start⟩

/-- The client `t` writes when both clients have read and neither has written. -/
def Overtaken (t : Bool) (ts : List Bool) : Prop :=
  ∃ before after, ts = before ++ t :: after ∧ before.count t = 1 ∧ before.count (!t) = 1

/-! ## Phases -/

/-- How far a schedule is. The client named is the one that read or wrote first. -/
inductive Phase where
  | idle
  | read (t : Bool)
  | both
  | wrote (t : Bool)
  | overtaken (t : Bool)
  | reread (t : Bool)
  | serial (t : Bool)
  | lost (t : Bool)
  deriving DecidableEq

namespace Phase

def next : Phase → Bool → Phase
  | idle, u => read u
  | read t, u => if u = t then wrote t else both
  | both, u => overtaken u
  | wrote t, u => if u = t then wrote t else reread t
  | overtaken t, u => if u = t then overtaken t else lost t
  | reread t, u => if u = t then reread t else serial t
  | serial t, _ => serial t
  | lost t, _ => lost t

def register (put : Bool → α → α) (a : α) : Phase → Register α
  | idle => .init a
  | read t => ⟨a, fun u ↦ if u = t then .held a else .start⟩
  | both => ⟨a, fun _ ↦ .held a⟩
  | wrote t => ⟨put t a, fun u ↦ if u = t then .done else .start⟩
  | overtaken t => ⟨put t a, fun u ↦ if u = t then .done else .held a⟩
  | reread t => ⟨put t a, fun u ↦ if u = t then .done else .held (put t a)⟩
  | serial t => ⟨put (!t) (put t a), fun _ ↦ .done⟩
  | lost t => ⟨put (!t) a, fun _ ↦ .done⟩

/-- How many of its two steps a client has made. -/
def steps : Phase → Bool → ℕ
  | idle, _ => 0
  | read t, u => if u = t then 1 else 0
  | both, _ => 1
  | wrote t, u => if u = t then 2 else 0
  | overtaken t, u | reread t, u => if u = t then 2 else 1
  | serial _, _ | lost _, _ => 2

theorem next_register (put : Bool → α → α) (a : α) (p : Phase) (u : Bool) :
    (p.register put a).next put u = (p.next u).register put a := by
  have hext : ∀ {r r' : Register α}, r.value = r'.value → r.client false = r'.client false →
      r.client true = r'.client true → r = r' := by
    rintro ⟨value, client⟩ ⟨value', client'⟩ rfl hfalse htrue
    congr
    funext t
    cases t
    · exact hfalse
    · exact htrue
  rcases p with _ | t | _ | t | t | t | t | t
  all_goals
    first
      | (cases t <;> cases u <;> exact hext rfl rfl rfl)
      | (cases u <;> exact hext rfl rfl rfl)

theorem steps_next (p : Phase) (t u : Bool) :
    (p.next u).steps t = if u = t then min (p.steps t + 1) 2 else p.steps t := by
  rcases p with _ | s | _ | s | s | s | s | s
  all_goals
    first
      | (cases s <;> cases t <;> cases u <;> rfl)
      | (cases t <;> cases u <;> rfl)

theorem next_lost_iff (p : Phase) (t u : Bool) :
    (p.next u = overtaken t ∨ p.next u = lost t) ↔
      (p = overtaken t ∨ p = lost t) ∨ (u = t ∧ p.steps t = 1 ∧ p.steps (!t) = 1) := by
  rcases p with _ | s | _ | s | s | s | s | s
  all_goals
    first
      | (cases s <;> cases t <;> cases u <;> decide)
      | (cases t <;> cases u <;> decide)

end Phase

/-! ## Schedules -/

def phase (ts : List Bool) : Phase := run Phase.next .idle ts

theorem phase_append_singleton (ts : List Bool) (u : Bool) :
    phase (ts ++ [u]) = (phase ts).next u :=
  run_append Phase.next .idle ts [u]

/-- **The register after a schedule.** -/
theorem register_run (put : Bool → α → α) (a : α) (ts : List Bool) :
    run (Register.next put) (.init a) ts = (phase ts).register put a := by
  induction ts using List.reverseRecOn with
  | nil => rfl
  | append_singleton ts u ih =>
    rw [run_append, ih, phase_append_singleton, ← Phase.next_register]
    rfl

theorem steps_phase (ts : List Bool) (t : Bool) : (phase ts).steps t = min (ts.count t) 2 := by
  induction ts using List.reverseRecOn with
  | nil => rfl
  | append_singleton ts u ih =>
    rw [phase_append_singleton, Phase.steps_next, ih, List.count_append, List.count_singleton]
    by_cases hu : u = t
    · simp only [hu, if_pos, beq_self_eq_true]
      omega
    · simp [hu]

theorem overtaken_append_singleton (t u : Bool) (ts : List Bool) :
    Overtaken t (ts ++ [u]) ↔
      Overtaken t ts ∨ (u = t ∧ ts.count t = 1 ∧ ts.count (!t) = 1) := by
  constructor
  · rintro ⟨before, after, hsplit, hcount, hother⟩
    -- the write is the last step, or it lies in the schedule before
    rcases List.eq_nil_or_concat after with rfl | ⟨after, v, rfl⟩
    · obtain ⟨rfl, hlast⟩ := List.append_inj' hsplit rfl
      exact Or.inr ⟨by simpa using hlast, hcount, hother⟩
    · rw [List.concat_eq_append, ← List.cons_append, ← List.append_assoc] at hsplit
      obtain ⟨rfl, -⟩ := List.append_inj' hsplit rfl
      exact Or.inl ⟨before, after, rfl, hcount, hother⟩
  · rintro (⟨before, after, rfl, hcount, hother⟩ | ⟨rfl, hcount, hother⟩)
    · exact ⟨before, after ++ [u], by simp, hcount, hother⟩
    · exact ⟨ts, [], rfl, hcount, hother⟩

/-- The phase tells whether a write was overtaken. -/
theorem overtaken_iff_phase (t : Bool) (ts : List Bool) :
    Overtaken t ts ↔ phase ts = .overtaken t ∨ phase ts = .lost t := by
  induction ts using List.reverseRecOn with
  | nil =>
    constructor
    · rintro ⟨before, after, hsplit, -⟩
      exact absurd hsplit (by simp)
    · rintro (h | h) <;> cases h
  | append_singleton ts u ih =>
    have hone : ∀ v, (phase ts).steps v = 1 ↔ ts.count v = 1 := by
      intro v
      rw [steps_phase]
      omega
    rw [overtaken_append_singleton, ih, phase_append_singleton, Phase.next_lost_iff, hone, hone]

/-! ## Lost changes -/

/-- **When both changes are kept.** Each client's change holds of what it wrote, and the other
client's change neither makes nor breaks it. When both clients are done, both changes hold of the
register exactly if those of an overtaken client held at the start. -/
theorem kept_iff {put : Bool → α → α} {Kept : Bool → α → Prop} (hput : ∀ t a, Kept t (put t a))
    (hother : ∀ t a, Kept t (put (!t) a) ↔ Kept t a) (a : α) {ts : List Bool}
    (hdone : ∀ t, (run (Register.next put) (.init a) ts).client t = .done) :
    (∀ t, Kept t (run (Register.next put) (.init a) ts).value) ↔
      ∀ t, Overtaken t ts → Kept t a := by
  rw [register_run] at hdone ⊢
  simp only [overtaken_iff_phase]
  rcases hphase : phase ts with _ | t | _ | t | t | t | t | t
  · rw [hphase] at hdone
    cases hdone true
  · rw [hphase] at hdone
    have hstart := hdone !t
    simp [Phase.register] at hstart
  · rw [hphase] at hdone
    cases hdone true
  · rw [hphase] at hdone
    have hstart := hdone !t
    simp [Phase.register] at hstart
  · rw [hphase] at hdone
    have hheld := hdone !t
    simp [Phase.register] at hheld
  · rw [hphase] at hdone
    have hheld := hdone !t
    simp [Phase.register] at hheld
  · -- one client wrote before the other read
    refine iff_of_true (fun u ↦ ?_) fun u h ↦ ?_
    · by_cases hu : u = t
      · rw [hu]
        exact (hother t _).mpr (hput t a)
      · rw [Bool.eq_not_of_ne hu]
        exact hput _ _
    · rcases h with h | h <;> cases h
  · -- both read before either wrote
    constructor
    · rintro h u (hu | hu)
      · cases hu
      · cases hu
        exact (hother t a).mp (h t)
    · intro h u
      by_cases hu : u = t
      · rw [hu]
        exact (hother t a).mpr (h t (Or.inr rfl))
      · rw [Bool.eq_not_of_ne hu]
        exact hput _ _

end Concurrency.ReadModifyWrite
