import TunnelDeck.Daemon.Handover

/-!
# Ownership of attempts

Every attempt that a start has returned is owned by exactly one party: the thread that launched it
or took it, or the runtime entry of its rule. It stays so until it is cleaned up, which happens
once. The invariant is one of the interference rule and of the ownership rule; both go through
`ProcessStep`.

An attempt is identified by its process.

## Main results

* `attempts_accounted`: no attempt is lost, stored twice or cleaned up twice.
-/

namespace TunnelDeck

open Concurrency

variable {crates : Crates} {managed : Bool} {env : Env} {d : Daemon}

/-! ## The invariant -/

/-- What holds of the processes: an active entry is a running attempt of its rule, and cleanups are
counted right. -/
structure Stored (d : Daemon) : Prop where
  active : ∀ id a, d.stores id a → ∃ process, d.processes[a.process]? = some process ∧
    process.phase = .running ∧ process.launch.id = id
  counted : ∀ (k : ℕ) (process : Process), d.processes[k]? = some process →
    process.cleanups = if process.phase = .cleaned then 1 else 0

/-- What a thread can rely on about the process it answers for. -/
structure Held (d : Daemon) (p : Pc) : Prop where
  process : ∀ k phase, p.owns = some (k, phase) → ∃ process, d.processes[k]? = some process ∧
    process.phase = phase ∧ p.busy = some process.launch.id ∧
      ∀ l, p.launching = some l → process.launch = l
  unstored : ∀ k phase, p.owns = some (k, phase) → ∀ id a, d.stores id a → a.process ≠ k

theorem Pc.phase_of_owns {p : Pc} {k : ℕ} {phase : Phase} (h : p.owns = some (k, phase)) :
    phase = .launching ∨ phase = .running := by
  unfold Pc.owns at h
  split at h <;> cases h
  · exact Or.inl rfl
  all_goals exact Or.inr rfl

/-- Two threads do not answer for the same process. -/
def Apart (p q : Pc) : Prop :=
  ∀ k phase phase', p.owns = some (k, phase) → q.owns ≠ some (k, phase')

/-- A process that is alive and that no entry stores. -/
def Daemon.Unstored (d : Daemon) (k : ℕ) : Prop :=
  (∃ process, d.processes[k]? = some process ∧
    (process.phase = .launching ∨ process.phase = .running)) ∧
  ∀ id a, d.stores id a → a.process ≠ k

theorem Stored.once (h : Stored d) : d.StoresOnce := by
  intro i j a b ha hb hprocess
  obtain ⟨process, hget, -, rfl⟩ := h.active i a ha
  obtain ⟨process', hget', -, rfl⟩ := h.active j b hb
  rw [hprocess] at hget
  rw [Option.some.inj (hget.symm.trans hget')]

theorem ProcessStep.stored_before {k : ℕ} {p p' : Pc} {d' : Daemon} (h : ProcessStep d k p p' d')
    (hstored : Stored d) (hheld : Held d p) {id : Uuid} {a : ManagedAttempt}
    (hafter : d'.stores id a) (hk : a.process = k) : d'.processes[k]? = d.processes[k]? ∧
      (d.stores id a ∨ ∃ caller launch, p = .start caller (.launched launch (some a)) ∧
        id = launch.id ∧ launch.current d.state) := by
  cases h with
  | keep hprocess howns hbusy hstores => exact ⟨hprocess, Or.inl ((hstores id a hk).mp hafter)⟩
  | spawn hlength hprocess hstores =>
    obtain ⟨process, hget, -⟩ := hstored.active id a ((hstores id a).mp hafter)
    rw [hk, hlength, List.getElem?_eq_none le_rfl] at hget
    cases hget
  | expire hget habandoned hprocess hstores =>
    -- a stored process runs
    obtain ⟨process, hget', hrunning, -⟩ := hstored.active id a ((hstores id a).mp hafter)
    obtain rfl := Option.some.inj (hget.symm.trans (hk ▸ hget'))
    exact nomatch hrunning.symm.trans habandoned
  | ready hprocess hstores | fail hprocess _ hstores | clean howns howns' hprocess hstores =>
    -- a process in the hands of a thread is not stored
    exact absurd hk (hheld.unstored k _ (by first | rfl | assumption) id a
      ((hstores id a).mp hafter))
  | @store caller launch attempt _ _ hattempt hcurrent howns hprocess hstores =>
    refine ⟨hprocess, ?_⟩
    rcases (hstores id a hk).mp hafter with ⟨hid, rfl⟩ | hbefore
    · exact Or.inr ⟨caller, launch, rfl, hid, hcurrent⟩
    · exact Or.inl hbefore
  | take hattempt hbefore howns' hbusy hlaunching hprocess hstores =>
    obtain ⟨hstill, hne⟩ := hstores id a hk hafter
    exact absurd (hstored.once _ _ a _ hstill hbefore (hk.trans hattempt.symm)) hne
  | drop hattempt hbefore howns howns' hprocess hstores => exact absurd hafter (hstores id a hk)

theorem Stored.own (hcrates : crates.Faithful) {p : Pc} (h : Stored d) (hp : Reserves d p)
    (hheld : Held d p) : Stored (exec crates managed env d p).1 := by
  have hstep := fun k ↦ exec_processStep hcrates managed env h.once k hp
  generalize (exec crates managed env d p).1 = d' at hstep ⊢
  generalize (exec crates managed env d p).2 = p' at hstep
  refine ⟨fun id a hafter ↦ ?_, fun k process hget ↦ ?_⟩
  · obtain ⟨hprocess, hbefore | ⟨caller, launch, rfl, rfl, -⟩⟩ :=
      (hstep a.process).stored_before h hheld hafter rfl
    · rw [hprocess]
      exact h.active id a hbefore
    · obtain ⟨process, hget, hphase, hbusy, -⟩ := hheld.process a.process .running rfl
      exact ⟨process, hprocess.trans hget, hphase, (Option.some.inj hbusy).symm⟩
  · have hstepk := hstep k
    cases hstepk with
    | keep hprocess => exact h.counted k process (hprocess ▸ hget)
    | spawn hlength hprocess =>
      rw [hprocess] at hget
      obtain rfl := Option.some.inj hget
      rfl
    | store hattempt hcurrent howns hprocess => exact h.counted k process (hprocess ▸ hget)
    | take hattempt hstored howns' hbusy hlaunching hprocess =>
      exact h.counted k process (hprocess ▸ hget)
    | ready hprocess =>
      obtain ⟨before, hbefore, hphase, -⟩ := hheld.process k .launching rfl
      have hcounted := h.counted k before hbefore
      rw [hprocess, hbefore] at hget
      obtain rfl := Option.some.inj hget
      rw [hphase] at hcounted
      exact hcounted
    | fail hprocess hfailed =>
      obtain ⟨before, hbefore, hphase, -⟩ := hheld.process k .launching rfl
      have hcounted := h.counted k before hbefore
      rw [hprocess, hbefore] at hget
      obtain rfl := Option.some.inj hget
      rw [hphase] at hcounted
      rcases hfailed with rfl | rfl <;> exact hcounted
    | expire hbefore habandoned hprocess =>
      have hcounted := h.counted k _ hbefore
      rw [hprocess] at hget
      obtain rfl := Option.some.inj hget
      rw [habandoned] at hcounted
      exact hcounted
    | clean howns howns' hprocess =>
      obtain ⟨before, hbefore, hphase, -⟩ := hheld.process k .running howns
      have hcounted := h.counted k before hbefore
      rw [hprocess, hbefore] at hget
      obtain rfl := Option.some.inj hget
      rw [hphase] at hcounted
      exact congrArg (· + 1) hcounted
    | drop hattempt hstored howns howns' hprocess =>
      obtain ⟨before, hbefore, hphase, -⟩ := h.active _ _ hstored
      rw [hattempt] at hbefore
      have hcounted := h.counted k before hbefore
      rw [hprocess, hbefore] at hget
      obtain rfl := Option.some.inj hget
      rw [hphase] at hcounted
      exact congrArg (· + 1) hcounted

theorem Held.next (hcrates : crates.Faithful) {p : Pc} (h : Held d p) (hp : Reserves d p)
    (hstored : Stored d) :
    Held (exec crates managed env d p).1 (exec crates managed env d p).2 := by
  have hstep := fun k ↦ exec_processStep hcrates managed env hstored.once k hp
  generalize (exec crates managed env d p).1 = d' at hstep ⊢
  generalize (exec crates managed env d p).2 = p' at hstep ⊢
  refine ⟨fun k phase howned ↦ ?_, fun k phase howned id a hafter ha ↦ ?_⟩
  · have hstepk := hstep k
    cases hstepk with
    | keep hprocess howns hbusy =>
      obtain ⟨process, hget, hphase, hrule, hlaunch⟩ := h.process k phase ((howns phase).mp howned)
      -- the process keeps its owner, which keeps its launch
      obtain ⟨hsame, hlaunching⟩ := hbusy phase howned
      exact ⟨process, hprocess.trans hget, hphase, hsame.trans hrule,
        fun l hl ↦ hlaunch l (hlaunching l hl)⟩
    | spawn hlength hprocess =>
      -- the process is new, and so is its launch
      obtain rfl : Phase.launching = phase := congrArg Prod.snd (Option.some.inj howned)
      exact ⟨_, hprocess, rfl, rfl, fun l hl ↦ Option.some.inj hl⟩
    | ready hprocess =>
      obtain rfl : Phase.running = phase := congrArg Prod.snd (Option.some.inj howned)
      obtain ⟨process, hget, -, hrule, hlaunch⟩ := h.process k .launching rfl
      refine ⟨{ process with phase := .running }, ?_, rfl, hrule, hlaunch⟩
      rw [hprocess, hget, Option.map_some]
    | take hattempt hbefore howns' hbusy hlaunching hprocess =>
      obtain rfl : Phase.running = phase :=
        congrArg Prod.snd (Option.some.inj (howns'.symm.trans howned))
      -- the process of a stored attempt runs, and for this rule
      obtain ⟨process, hget, hphase, hid⟩ := hstored.active _ _ hbefore
      rw [hattempt] at hget
      exact ⟨process, hprocess.trans hget, hphase, hid ▸ hbusy,
        fun l hl ↦ nomatch hlaunching.symm.trans hl⟩
    | fail | expire => cases howned
    | store hattempt hcurrent howns' => exact nomatch howns'.symm.trans howned
    | clean howns howns' => exact nomatch howns'.symm.trans howned
    | drop hattempt hbefore howns howns' => exact nomatch howns'.symm.trans howned
  · have hstepk := hstep k
    cases hstepk with
    | keep hprocess howns hbusy hstores =>
      exact h.unstored k phase ((howns phase).mp howned) id a ((hstores id a ha).mp hafter) ha
    | spawn hlength hprocess hstores =>
      -- a stored attempt has a process that was there before
      obtain ⟨process, hget, -⟩ := hstored.active id a ((hstores id a).mp hafter)
      rw [ha, hlength, List.getElem?_eq_none le_rfl] at hget
      cases hget
    | ready hprocess hstores =>
      exact h.unstored k .launching rfl id a ((hstores id a).mp hafter) ha
    | take hattempt hbefore howns' hbusy hlaunching hprocess hstores =>
      -- a process is not stored under two rules
      obtain ⟨hstill, hne⟩ := hstores id a ha hafter
      exact hne (hstored.once _ _ a _ hstill hbefore (ha.trans hattempt.symm))
    | fail | expire => cases howned
    | store hattempt hcurrent howns' => exact nomatch howns'.symm.trans howned
    | clean howns howns' => exact nomatch howns'.symm.trans howned
    | drop hattempt hbefore howns howns' => exact nomatch howns'.symm.trans howned

theorem ProcessStep.of_other {k : ℕ} {p p' q : Pc} {d' : Daemon} (h : ProcessStep d k p p' d')
    {phase : Phase} (hq : q.owns = some (k, phase)) (hheld : Held d q) (hapart : Apart p q) :
    d'.processes[k]? = d.processes[k]? ∧ (∀ phase, p'.owns ≠ some (k, phase)) ∧
      ∀ id a, a.process = k → (d'.stores id a ↔ d.stores id a) := by
  have hp : ∀ phase, p.owns ≠ some (k, phase) := fun phase' howns ↦ hapart k phase' phase howns hq
  cases h with
  | keep hprocess howns hbusy hstores =>
    exact ⟨hprocess, fun phase' h' ↦ hp phase' ((howns phase').mp h'), hstores⟩
  | spawn hlength =>
    obtain ⟨process, hget, -⟩ := hheld.process k phase hq
    rw [hlength, List.getElem?_eq_none le_rfl] at hget
    cases hget
  | ready | fail => exact absurd rfl (hp .launching)
  | expire hget habandoned hprocess hstores =>
    -- a process that a thread answers for was not left behind
    obtain ⟨process, hget', hphase, -⟩ := hheld.process k phase hq
    obtain rfl := Option.some.inj (hget.symm.trans hget')
    rcases Pc.phase_of_owns hq with rfl | rfl <;> exact nomatch hphase.symm.trans habandoned
  | store hattempt => exact absurd (congrArg (fun k ↦ some (k, _)) hattempt) (hp .running)
  | clean howns => exact absurd howns (hp .running)
  | take hattempt hstored | drop hattempt hstored =>
    exact absurd hattempt (hheld.unstored k phase hq _ _ hstored)

theorem Held.frame (hcrates : crates.Faithful) {p q : Pc} (h : Held d q) (hp : Reserves d p)
    (hstored : Stored d) (hapart : Apart p q) : Held (exec crates managed env d p).1 q := by
  refine ⟨fun k phase howned ↦ ?_, fun k phase howned id a hafter ha ↦ ?_⟩
  · have hstep := exec_processStep hcrates managed env hstored.once k hp
    rw [(hstep.of_other howned h hapart).1]
    exact h.process k phase howned
  · have hstep := exec_processStep hcrates managed env hstored.once k hp
    rw [(hstep.of_other howned h hapart).2.2 id a ha] at hafter
    exact h.unstored k phase howned id a hafter ha

theorem Apart.own (hcrates : crates.Faithful) {p q : Pc} (h : Apart p q) (hp : Reserves d p)
    (hstored : Stored d) (hq : Held d q) : Apart (exec crates managed env d p).2 q := by
  intro k phase phase' hp' howned
  have hstep := exec_processStep hcrates managed env hstored.once k hp
  exact (hstep.of_other howned hq h).2.1 phase hp'

/-- An attempt that is alive and not stored is in the hands of the thread that has just run, or it
was unstored before and in other hands. -/
theorem ProcessStep.unstored_before {k : ℕ} {p p' : Pc} {d' : Daemon}
    (h : ProcessStep d k p p' d') (hheld : Held d p) (hafter : d'.Unstored k) :
    (∃ phase, p'.owns = some (k, phase)) ∨
      (d.Unstored k ∧ ¬ ∃ phase, p.owns = some (k, phase)) := by
  obtain ⟨⟨process, hget, hphase⟩, hunstored⟩ := hafter
  cases h with
  | keep hprocess howns hbusy hstores =>
    by_cases hp : ∃ phase, p.owns = some (k, phase)
    · obtain ⟨phase, hp⟩ := hp
      exact Or.inl ⟨phase, (howns phase).mpr hp⟩
    · refine Or.inr ⟨⟨⟨process, hprocess ▸ hget, hphase⟩, fun id a hstored ha ↦ ?_⟩, hp⟩
      exact hunstored id a ((hstores id a ha).mpr hstored) ha
  | spawn => exact Or.inl ⟨_, rfl⟩
  | ready => exact Or.inl ⟨_, rfl⟩
  | take hattempt hstored howns' => exact Or.inl ⟨_, howns'⟩
  | fail hprocess hfailed =>
    obtain ⟨before, hbefore, -⟩ := hheld.process k .launching rfl
    rw [hprocess, hbefore] at hget
    obtain rfl := Option.some.inj hget
    rcases hfailed with rfl | rfl <;> rcases hphase with hphase | hphase <;> cases hphase
  | expire hbefore habandoned hprocess =>
    rw [hprocess] at hget
    obtain rfl := Option.some.inj hget
    rcases hphase with hphase | hphase <;> cases hphase
  | @store caller launch attempt _ _ hattempt hcurrent howns' hprocess hstores =>
    exact absurd hattempt (hunstored launch.id attempt
      ((hstores launch.id attempt hattempt).mpr (Or.inl ⟨rfl, rfl⟩)))
  | clean howns howns' hprocess =>
    obtain ⟨before, hbefore, -⟩ := hheld.process k .running howns
    rw [hprocess, hbefore] at hget
    obtain rfl := Option.some.inj hget
    rcases hphase with hphase | hphase <;> cases hphase
  | drop hattempt hstored howns howns' hprocess =>
    rw [hprocess] at hget
    obtain ⟨before, -, rfl⟩ := Option.map_eq_some_iff.mp hget
    rcases hphase with hphase | hphase <;> cases hphase

/-- **Attempts have one owner each.** -/
structure Owned (w : System) : Prop where
  reservations : Reservations w
  consistent : World.Consistent Stored Held Apart w
  owned : ∀ k, w.shared.Unstored k → ∃ t phase, (w.thread t).owns = some (k, phase)

theorem Owned.next (hcrates : crates.Faithful) {w : System} (h : Owned w) (a : Choice) :
    Owned (System.step crates managed w a) := by
  refine ⟨h.reservations.step hcrates a, ?_, ?_⟩
  · exact World.Consistent.step (C := fun _ d p ↦ Reserves d p)
      (fun p q hpq k phase phase' hq hp ↦ hpq k phase' phase hp hq)
      (fun env d p hC hG hL ↦ ⟨hG.own hcrates hC hL, hL.next hcrates hC hG⟩)
      (fun env d p q hC hG _ hq hpq ↦ ⟨hq.frame hcrates hC hG hpq, hpq.own hcrates hC hG hq⟩)
      h.consistent (h.reservations.consistent.thread a.1)
  · refine World.owned_step (C := fun _ d p ↦ Reserves d p ∧ Stored d ∧ Held d p) Daemon.Unstored
      (fun p k ↦ ∃ phase, p.owns = some (k, phase)) ?_ h.owned
      ⟨h.reservations.consistent.thread a.1, h.consistent.shared, h.consistent.thread a.1⟩
    intro env d p hC k hafter
    exact (exec_processStep hcrates managed env hC.2.1.once k hC.1).unstored_before hC.2.2 hafter

theorem Owned.opened {s : State} (hs : s.Idle) : Owned (System.opened s) := by
  have hnone : ∀ id a, ¬ (System.opened s).shared.stores id a := by
    intro id a h
    simp [Daemon.stores, System.opened, State.view, hs.running] at h
  refine ⟨.opened hs.editing, ⟨⟨fun id a h ↦ absurd h (hnone id a), ?_⟩, fun t ↦ ⟨?_, ?_⟩, ?_⟩, ?_⟩
  · intro k process h
    cases h
  · intro k phase h
    cases h
  · intro k phase h
    cases h
  · intro t u _ k phase phase' h
    cases h
  · rintro k ⟨⟨process, h, -⟩, -⟩
    cases h

theorem Owned.run (hcrates : crates.Faithful) {w : System} (h : Owned w) (as : List Choice) :
    Owned (Concurrency.run (System.step crates managed) w as) :=
  invariant_run _ (fun _ a h ↦ h.next hcrates a) h as

theorem Owned.no_processes (hcrates : crates.Faithful) {w : System} (h : Owned w)
    (hw : w.shared.processes = []) (as : List Choice) :
    (Concurrency.run (System.step crates false) w as).shared.processes = [] := by
  refine (invariant_run (System.step crates false)
    (I := fun w ↦ Owned w ∧ w.shared.processes = []) (fun w a hI ↦ ⟨hI.1.next hcrates a, ?_⟩)
    ⟨h, hw⟩ as).2
  have hstep := exec_processStep hcrates false a.2 hI.1.consistent.shared.once 0
    (hI.1.reservations.consistent.thread a.1)
  rw [World.step_shared, List.eq_nil_iff_length_eq_zero, ← Nat.le_zero,
    ← List.getElem?_eq_none_iff]
  have hnone : w.shared.processes[0]? = none := by rw [hI.2]; rfl
  generalize hp : w.thread a.1 = p at hstep ⊢
  generalize hd : (exec crates false a.2 w.shared p).1 = d' at hstep ⊢
  generalize hp' : (exec crates false a.2 w.shared p).2 = p' at hstep
  cases hstep with
  | spawn hlength =>
    -- without processes there is nothing to wait for
    cases hp'
  | keep hprocess | store _ _ _ hprocess | take _ _ _ _ _ hprocess =>
    rw [hprocess, hnone]
  | ready hprocess | fail hprocess | clean _ _ hprocess | drop _ _ _ _ hprocess =>
    rw [hprocess, hnone]
    rfl
  | expire hget => exact nomatch hnone.symm.trans hget

/-! ## Attempts that were returned -/

/-- The start of the attempt has returned it: it runs, or it was cleaned up since. -/
def Daemon.Returned (d : Daemon) (launch : Launch) (k : ℕ) : Prop :=
  ∃ process, d.processes[k]? = some process ∧ process.launch = launch ∧
    (process.phase = .running ∨ process.phase = .cleaned)

theorem ProcessStep.returned {k : ℕ} {p p' : Pc} {d' : Daemon} (h : ProcessStep d k p p' d')
    (hheld : Held d p) {launch : Launch} (hreturned : d.Returned launch k) :
    d'.Returned launch k := by
  obtain ⟨process, hget, hlaunch, hphase⟩ := hreturned
  cases h with
  | keep hprocess => exact ⟨process, hprocess.trans hget, hlaunch, hphase⟩
  | store hattempt hcurrent howns' hprocess =>
    exact ⟨process, hprocess.trans hget, hlaunch, hphase⟩
  | take hattempt hstored howns' hbusy hlaunching hprocess =>
    exact ⟨process, hprocess.trans hget, hlaunch, hphase⟩
  | spawn hlength =>
    rw [hlength, List.getElem?_eq_none le_rfl] at hget
    cases hget
  | ready hprocess | fail hprocess =>
    -- a launch that is under way has not returned
    obtain ⟨before, hbefore, hlaunching, -⟩ := hheld.process k .launching rfl
    obtain rfl := Option.some.inj (hbefore.symm.trans hget)
    rw [hlaunching] at hphase
    rcases hphase with hphase | hphase <;> cases hphase
  | expire hbefore habandoned =>
    obtain rfl := Option.some.inj (hbefore.symm.trans hget)
    rw [habandoned] at hphase
    rcases hphase with hphase | hphase <;> cases hphase
  | clean howns howns' hprocess | drop hattempt hstored howns howns' hprocess =>
    refine ⟨{ process with phase := .cleaned, cleanups := process.cleanups + 1 }, ?_, hlaunch,
      Or.inr rfl⟩
    rw [hprocess, hget, Option.map_some]

theorem Owned.returned (hcrates : crates.Faithful) {w : System} (h : Owned w) {launch : Launch}
    {k : ℕ} (hreturned : w.shared.Returned launch k) (as : List Choice) :
    (Concurrency.run (System.step crates managed) w as).shared.Returned launch k :=
  (invariant_run (System.step crates managed)
    (I := fun w ↦ Owned w ∧ w.shared.Returned launch k)
    (fun _ a hI ↦ ⟨hI.1.next hcrates a,
      (exec_processStep hcrates managed a.2 hI.1.consistent.shared.once k
        (hI.1.reservations.consistent.thread a.1)).returned (hI.1.consistent.thread a.1) hI.2⟩)
    ⟨h, hreturned⟩ as).2

/-! ## Where an attempt is -/

/-- The places of an attempt that was returned. -/
inductive Place where
  /-- In the hands of the thread that launched it or took it, and not cleaned up yet. -/
  | held
  /-- In the active entry of a rule. -/
  | stored
  | cleaned

/-- The attempt `k` is at a place. -/
def System.At (w : System) (k : ℕ) : Place → Prop
  | .held => ∃ t, (w.thread t).owns = some (k, .running)
  | .stored => ∃ id a, w.shared.stores id a ∧ a.process = k
  | .cleaned => ∃ process, w.shared.processes[k]? = some process ∧ process.cleanups ≠ 0

/-- The attempt `k` of a launch is accounted for. -/
structure System.Accounts (w : System) (launch : Launch) (k : ℕ) : Prop where
  place : ∃! place, w.At k place
  holder : ∀ t u, (w.thread t).owns = some (k, .running) → (w.thread u).owns = some (k, .running) →
    t = u
  entry : ∀ id a, w.shared.stores id a → a.process = k → id = launch.id
  cleanups : ∀ process, w.shared.processes[k]? = some process → process.cleanups ≤ 1

theorem Owned.place {w : System} (h : Owned w) {launch : Launch} {k : ℕ}
    (hreturned : w.shared.Returned launch k) : ∃! place, w.At k place := by
  obtain ⟨process, hget, -, hphase⟩ := hreturned
  have hcounted := h.consistent.shared.counted k process hget
  -- what is held or stored runs, and what was cleaned up has ended
  have hheld : w.At k .held → process.phase = .running := by
    rintro ⟨t, ht⟩
    obtain ⟨process', hget', hrunning, -⟩ := (h.consistent.thread t).process k .running ht
    rwa [Option.some.inj (hget.symm.trans hget')]
  have hstored : w.At k .stored → process.phase = .running := by
    rintro ⟨id, a, ha, rfl⟩
    obtain ⟨process', hget', hrunning, -⟩ := h.consistent.shared.active id a ha
    rwa [Option.some.inj (hget.symm.trans hget')]
  have hcleaned : w.At k .cleaned → process.phase = .cleaned := by
    rintro ⟨process', hget', hcleanups⟩
    obtain rfl := Option.some.inj (hget.symm.trans hget')
    by_contra hne
    rw [if_neg hne] at hcounted
    exact hcleanups hcounted
  rcases hphase with hrunning | hdone
  · have hnot : ¬ w.At k .cleaned := fun hat ↦ nomatch hrunning.symm.trans (hcleaned hat)
    -- a process that runs is held or stored
    by_cases hat : w.At k .stored
    · refine ⟨.stored, hat, fun place hplace ↦ ?_⟩
      obtain ⟨id, a, ha, hk⟩ := hat
      cases place with
      | held =>
        obtain ⟨t, ht⟩ := hplace
        exact absurd hk ((h.consistent.thread t).unstored k .running ht id a ha)
      | stored => rfl
      | cleaned => exact absurd hplace hnot
    · -- nobody stores it, so a thread has it
      have hunstored : w.shared.Unstored k :=
        ⟨⟨process, hget, Or.inr hrunning⟩, fun id a ha hk ↦ hat ⟨id, a, ha, hk⟩⟩
      obtain ⟨t, phase, ht⟩ := h.owned k hunstored
      obtain ⟨process', hget', hphase, -⟩ := (h.consistent.thread t).process k phase ht
      obtain rfl := Option.some.inj (hget.symm.trans hget')
      rw [← hphase, hrunning] at ht
      refine ⟨.held, ⟨t, ht⟩, fun place hplace ↦ ?_⟩
      cases place with
      | held => rfl
      | stored => exact absurd hplace hat
      | cleaned => exact absurd hplace hnot
  · rw [if_pos hdone] at hcounted
    refine ⟨.cleaned, ⟨process, hget, by rw [hcounted]; exact Nat.one_ne_zero⟩,
      fun place hplace ↦ ?_⟩
    cases place with
    | held => exact nomatch hdone.symm.trans (hheld hplace)
    | stored => exact nomatch hdone.symm.trans (hstored hplace)
    | cleaned => rfl

theorem Owned.accounts {w : System} (h : Owned w) {launch : Launch} {k : ℕ}
    (hreturned : w.shared.Returned launch k) : w.Accounts launch k := by
  refine ⟨h.place hreturned, fun t u ht hu ↦ ?_, fun id a ha hk ↦ ?_, fun process hget ↦ ?_⟩
  · by_contra hne
    exact h.consistent.pair t u hne k .running .running ht hu
  · obtain ⟨process, hget, hlaunch, -⟩ := hreturned
    obtain ⟨process', hget', -, hid⟩ := h.consistent.shared.active id a ha
    rw [hk] at hget'
    rw [← hid, ← hlaunch, Option.some.inj (hget.symm.trans hget')]
  · rw [h.consistent.shared.counted k process hget]
    split <;> omega

/-- The attempt that `start_attempt` has just returned to a thread, and its launch. -/
def Pc.returnedAttempt : Pc → Option (Launch × ManagedAttempt)
  | .start _ (.launched launch (some attempt)) => some (launch, attempt)
  | _ => none

theorem Held.returned {p : Pc} (h : Held d p) {launch : Launch} {attempt : ManagedAttempt}
    (hreturned : p.returnedAttempt = some (launch, attempt)) :
    d.Returned launch attempt.process := by
  unfold Pc.returnedAttempt at hreturned
  split at hreturned
  · cases hreturned
    obtain ⟨process, hget, hphase, -, hlaunch⟩ := h.process attempt.process .running rfl
    exact ⟨process, hget, hlaunch launch rfl, Or.inl hphase⟩
  · cases hreturned

/-- No call is in flight in a thread at this point. The supervisor is between two rounds. -/
def Pc.free : Pc → Bool
  | .idle | .returned _ _ | .maintain .supervisor .scan => true
  | _ => false

theorem owns_of_free {p : Pc} (h : p.free = true) : p.owns = none := by
  cases p with
  | start caller pc => cases h
  | stop request pc => cases h
  | edit request edit pc => cases h
  | _ => rfl

/-- Every entry belongs to a rule, whatever UUIDs are drawn. -/
theorem rule_of_entry (hcrates : crates.Faithful) {s : State} (hs : s.Idle) (as : List Choice)
    {id : Uuid} (hentry : ((run (System.step crates managed) (System.opened s)
      as).shared.state.view id).entry ≠ none) :
    ((run (System.step crates managed) (System.opened s)
      as).shared.state.view id).rule.isSome = true := by
  have hmarked := invariant_run (System.step crates managed)
    (I := fun w ↦ Reservations w ∧ Marked w.shared)
    (fun w a hI ↦ ⟨hI.1.step hcrates a, hI.2.own hcrates (hI.1.consistent.thread a.1)⟩)
    ⟨(Sound.opened hs).reservations, (Sound.opened hs).markers.shared⟩ as
  exact hmarked.2.rule id hentry

/-- **No attempt is lost.** From the moment a start has returned an attempt it is at exactly one
place: in the hands of one thread, in the active entry of its own rule, or cleaned up, which happens
once. While no call is in flight it is cleaned up or the active entry of a rule of the list. -/
theorem attempts_accounted (hcrates : crates.Faithful) {faults : OpenFaults}
    {directory : Directory} {s : State} (hopen : openState crates faults directory = .ok s)
    (as : List Choice) {t : ℕ} {launch : Launch} {attempt : ManagedAttempt}
    (hreturned : ((run (System.step crates managed) (System.opened s) as).thread
      t).returnedAttempt = some (launch, attempt)) (bs : List Choice) {w : System}
    (hw : run (System.step crates managed) (System.opened s) (as ++ bs) = w) :
    w.Accounts launch attempt.process ∧
      ((∀ u, (w.thread u).free = true) → w.At attempt.process .cleaned ∨
        ∃ a rule, w.shared.stores launch.id a ∧ a.process = attempt.process ∧
          rule ∈ w.shared.state.rules ∧ rule.id = launch.id) := by
  have hidle := idle_of_open hopen
  have howned : Owned (run (System.step crates managed) (System.opened s) as) :=
    (Owned.opened hidle).run hcrates as
  have hfirst := (howned.consistent.thread t).returned hreturned
  have hlater : w.shared.Returned launch attempt.process := by
    rw [← hw, run_append]
    exact howned.returned hcrates hfirst bs
  have howned' : Owned w := by
    rw [← hw]
    exact (Owned.opened hidle).run hcrates (as ++ bs)
  refine ⟨howned'.accounts hlater, fun hfree ↦ ?_⟩
  obtain ⟨place, hat, -⟩ := howned'.place hlater
  cases place with
  | cleaned => exact Or.inl hat
  | held =>
    obtain ⟨u, hu⟩ := hat
    exact nomatch (owns_of_free (hfree u)).symm.trans hu
  | stored =>
    obtain ⟨id, a, ha, hk⟩ := hat
    obtain rfl := (howned'.accounts hlater).entry id a ha hk
    have hentry : (w.shared.state.view launch.id).entry ≠ none := fun h ↦ nomatch h.symm.trans ha
    rw [← hw] at hentry
    obtain ⟨rule, hrule⟩ := Option.isSome_iff_exists.mp (rule_of_entry hcrates hidle _ hentry)
    rw [hw] at hrule
    exact Or.inr ⟨a, rule, ha, hk, mem_of_findRule hrule, id_of_findRule hrule⟩

/-! ### An example -/

/-- A client starts the example rule by its name, and the guardian reports success. -/
def exampleStarted : List Choice :=
  [(0, { call := some (.request ⟨.forwardStart, selectName "database"⟩) }),
    (0, { attemptId := 1 }), (0, {}), (0, {})]

/-- A second client stops the rule before the start has stored the attempt. -/
def exampleStopped : List Choice :=
  [(1, { call := some (.request ⟨.forwardStop, selectName "database"⟩) }), (1, {}), (0, {})]

/-- The attempt that the stop has overtaken is accounted for: the start still has it. -/
theorem attempts_accounted_exampleStarted :
    (run (System.step exampleCrates true) exampleOpened
      (exampleStarted ++ exampleStopped)).Accounts ⟨exampleRule.id, exampleRule, 1⟩ 0 :=
  (attempts_accounted exampleCrates_faithful exampleOpened_open exampleStarted
    (show ((run (System.step exampleCrates true) exampleOpened exampleStarted).thread
      0).returnedAttempt = some (⟨exampleRule.id, exampleRule, 1⟩, ⟨0, 0⟩) by decide +kernel)
    exampleStopped rfl).1

end TunnelDeck
