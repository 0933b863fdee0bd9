import TunnelDeck.Process.Guardian

/-!
# The lock of the daemons and their guardians

A daemon holds the lock of the runtime directory, and every guardian it spawns inherits a copy of
the descriptor. The lock is free once all copies are closed, so a new daemon acquires it only when
the daemon before it has ended and each of its guardians has returned. Daemons are numbered in the
order in which they acquire the lock, and each guardian carries the number of its daemon.

## Main results

* `Runtime.Sound`: a guardian of an earlier daemon has closed the lock.
* `lock_closed_clean`: a guardian that has closed the lock has reaped its master and removed its
  directory, and no daemon lives beside a master of an earlier one.
-/

namespace TunnelDeck.Process

open Concurrency

/-- The daemon that holds the lock, how many there have been, and all guardians. -/
structure Runtime where
  daemon : Option ℕ
  daemons : ℕ
  guardians : List (ℕ × Guardian)

/-- What can happen. -/
inductive RuntimeStep where
  /-- A new daemon tries to acquire the lock. -/
  | acquire
  /-- The daemon ends, in order or not. -/
  | ends
  /-- The daemon spawns the guardian of an attempt. -/
  | spawns
  /-- A daemon removes the directory of an attempt itself. -/
  | removes (index : ℕ)
  /-- Something happens to a guardian. -/
  | guardian (index : ℕ) (what : Happening)

namespace Runtime

def lockFree (r : Runtime) : Bool :=
  r.daemon.isNone && r.guardians.all fun g ↦ !g.2.lock

def step (r : Runtime) : RuntimeStep → Runtime
  | .acquire =>
    if r.lockFree then { r with daemon := some r.daemons, daemons := r.daemons + 1 } else r
  | .ends => { r with daemon := none }
  | .spawns =>
    match r.daemon with
    | some n => { r with guardians := r.guardians ++ [(n, .spawned)] }
    | none => r
  | .removes index =>
    { r with guardians := r.guardians.modify index fun g ↦ (g.1, { g.2 with attemptDir := false }) }
  | .guardian index what =>
    { r with guardians := r.guardians.modify index fun g ↦ (g.1, g.2.happen what) }

def init : Runtime := ⟨none, 0, []⟩

structure Sound (r : Runtime) : Prop where
  guardians : ∀ g ∈ r.guardians, g.2.Sound ∧ g.1 < r.daemons
  current : ∀ n, r.daemon = some n → r.daemons = n + 1
  earlier : ∀ n, r.daemon = some n → ∀ g ∈ r.guardians, g.1 < n → g.2.lock = false

theorem sound_init : Sound init := by
  constructor
  · intro g hg
    cases hg
  · intro n hn
    cases hn
  · intro n hn
    cases hn

theorem forall_mem_modify {α : Type} {P Q : α → Prop} {f : α → α} (hf : ∀ a, P a → Q (f a))
    (hPQ : ∀ a, P a → Q a) {l : List α} (h : ∀ a ∈ l, P a) (index : ℕ) :
    ∀ a ∈ l.modify index f, Q a := by
  induction l generalizing index with
  | nil =>
    intro a ha
    simp at ha
  | cons b l ih =>
    obtain ⟨hb, hl⟩ := List.forall_mem_cons.mp h
    rcases index with _ | index
    · exact List.forall_mem_cons.mpr ⟨hf b hb, fun a ha ↦ hPQ a (hl a ha)⟩
    · exact List.forall_mem_cons.mpr ⟨hPQ b hb, ih hl index⟩

/-- A change of one guardian that keeps what a guardian keeps. -/
theorem Sound.modify {r : Runtime} (h : r.Sound) {f : Guardian → Guardian}
    (hsound : ∀ g : Guardian, g.Sound → (f g).Sound)
    (hlock : ∀ g : Guardian, g.Sound → g.lock = false → (f g).lock = false) (index : ℕ) :
    Sound { r with guardians := r.guardians.modify index fun g ↦ (g.1, f g.2) } := by
  refine ⟨forall_mem_modify (fun g hg ↦ ⟨hsound _ hg.1, hg.2⟩) (fun _ hg ↦ hg) h.guardians index,
    h.current, fun n hn ↦ ?_⟩
  have hall : ∀ g ∈ r.guardians, g.2.Sound ∧ (g.1 < n → g.2.lock = false) :=
    fun g hg ↦ ⟨(h.guardians g hg).1, h.earlier n hn g hg⟩
  refine forall_mem_modify (fun g hg hless ↦ ?_) (fun _ hg ↦ hg.2) hall index
  exact hlock _ hg.1 (hg.2 hless)

theorem lock_happen {g : Guardian} (h : g.Sound) (hlock : g.lock = false) (what : Happening) :
    (g.happen what).lock = false := by
  rcases what with answer | _ | index | d
  · obtain ⟨ok, hclosed⟩ := h.lock hlock
    rw [Guardian.happen, Guardian.next, hclosed]
    exact hlock
  · exact hlock
  · exact hlock
  · rw [Guardian.happen]
    split <;> exact hlock

theorem Sound.step {r : Runtime} (h : r.Sound) (a : RuntimeStep) : (r.step a).Sound := by
  rcases a with _ | _ | _ | index | ⟨index, what⟩
  · -- the new daemon got the lock because every guardian had closed it
    rw [Runtime.step]
    split
    · rename_i hfree
      obtain ⟨-, hlocks⟩ := Bool.and_eq_true_iff.mp hfree
      rw [List.all_eq_true] at hlocks
      constructor
      · intro g hg
        exact ⟨(h.guardians g hg).1, Nat.lt_succ_of_lt (h.guardians g hg).2⟩
      · rintro n ⟨⟩
        rfl
      · intro n _ g hg _
        simpa using hlocks g hg
    · exact h
  · exact ⟨h.guardians, nofun, nofun⟩
  · -- a guardian is spawned with the lock open, by the daemon that lives
    rw [Runtime.step]
    split
    · rename_i n hn
      have hdaemons := h.current n hn
      constructor
      · intro g hg
        rcases List.mem_append.mp hg with hg | hg
        · exact h.guardians g hg
        · rw [List.mem_singleton.mp hg]
          exact ⟨Guardian.sound_spawned, by show n < r.daemons; omega⟩
      · exact h.current
      · intro m hm g hg hless
        rcases List.mem_append.mp hg with hg | hg
        · exact h.earlier m hm g hg hless
        · -- the new guardian belongs to the daemon that lives
          have hsame : m = n := Option.some.inj (hm.symm.trans hn)
          rw [List.mem_singleton.mp hg, hsame] at hless
          exact absurd hless (Nat.lt_irrefl n)
    · exact h
  · refine h.modify (f := fun g ↦ { g with attemptDir := false }) (fun g hg ↦ ?_)
      (fun g _ hlock ↦ hlock) index
    exact ⟨hg.leader, hg.unread, fun _ _ ↦ rfl, hg.lock⟩
  · exact h.modify (fun g hg ↦ hg.happen what) (fun g hg hlock ↦ lock_happen hg hlock what) index

/-- **What a closed lock means.** In every run of daemons that acquire the lock, spawn guardians and
end at any moment, and of guardians whose calls go as they like: a guardian that has read its spec
and has closed the lock has reaped the master it spawned and removed its directory, and while a
daemon lives no guardian of an earlier one has a master. -/
theorem lock_closed_clean (steps : List RuntimeStep) :
    (∀ g ∈ (run step init steps).guardians, g.2.lock = false → g.2.specRead = true →
      (g.2.leader = .absent ∨ g.2.leader = .reaped) ∧ g.2.attemptDir = false) ∧
    ∀ n, (run step init steps).daemon = some n →
      ∀ g ∈ (run step init steps).guardians, g.1 < n →
        g.2.leader = .absent ∨ g.2.leader = .reaped := by
  have h : (run step init steps).Sound := invariant_run step (fun _ _ h ↦ h.step _) sound_init steps
  have hclosed : ∀ g ∈ (run step init steps).guardians, g.2.lock = false →
      (g.2.leader = .absent ∨ g.2.leader = .reaped) ∧
        (g.2.specRead = true → g.2.attemptDir = false) := by
    intro g hg hlock
    have hsound := (h.guardians g hg).1
    obtain ⟨ok, hpoint⟩ := hsound.lock hlock
    constructor
    · have hleader := hsound.leader
      rw [hpoint] at hleader
      exact (List.mem_cons.mp hleader).imp_right List.mem_singleton.mp
    · exact hsound.attemptDir (hpoint ▸ rfl)
  constructor
  · intro g hg hlock hread
    exact (hclosed g hg hlock).imp_right fun hdir ↦ hdir hread
  · intro n hn g hg hless
    exact (hclosed g hg (h.earlier n hn g hg hless)).1

/-- A daemon is killed while its attempt is active. The guardian finds the lease ended, terminates
the master and returns, and a new daemon acquires the lock. -/
def exampleCrash : List RuntimeStep :=
  [.acquire, .spawns] ++
    (List.replicate 7 (.step {})).map (.guardian 0) ++ [.ends, .acquire] ++
    [.guardian 0 (.step { leaseEnded := true }), .guardian 0 (.step { leaderExits := true })] ++
    (List.replicate 4 (.step {})).map (.guardian 0) ++ [.acquire]

/-- The attempt to acquire the lock before the guardian returns fails, the one after it succeeds,
and the guardian has cleaned up. -/
theorem lock_closed_clean_exampleCrash :
    (run step init (exampleCrash.take 11)).daemon = none ∧
      (run step init exampleCrash).daemon = some 1 ∧
      ∀ g ∈ (run step init exampleCrash).guardians,
        (g.2.leader = .absent ∨ g.2.leader = .reaped) ∧ g.2.attemptDir = false := by
  have hclosed : (run step init exampleCrash).guardians.all
      (fun g ↦ !g.2.lock && g.2.specRead) = true := rfl
  refine ⟨rfl, rfl, fun g hg ↦ ?_⟩
  obtain ⟨hlock, hread⟩ := Bool.and_eq_true_iff.mp (List.all_eq_true.mp hclosed g hg)
  exact (lock_closed_clean exampleCrash).1 g hg (by simpa using hlock) hread

end Runtime

end TunnelDeck.Process
