import TunnelDeck.Daemon.Ownership
import TunnelDeck.Daemon.Stops

/-!
# One attempt per rule

An attempt is alive from the spawning of its guardian until its cleanup. The runtime entry of a
rule keeps two starts apart only while it is there: a stop takes it before the launch or the
cleanup that it belongs to has ended, and the next start finds the rule free. Two attempts of a
rule are then alive at once, and a stop replies although one is. A start that fails may also leave
its guardian behind, and no entry tells of it.

The condition `System.Separate` on a section says that this does not happen: no rule is started or
stopped while another thread is still launching an attempt of it or cleaning one up, or while one
that was left behind has not ended.

## Main results

* `one_attempt_alive`: in a run of separate sections at most one attempt of a rule is alive, and
  none when a stop of the rule replies that it succeeded.
* `exampleOverlap_alive`: a run in which a stop replies during a launch and a second start follows.
-/

namespace TunnelDeck

open Concurrency

variable {crates : Crates} {managed : Bool} {env : Env} {d : Daemon}

/-! ## Launches and cleanups under way -/

/-- The rule that a stop has stopped, where the stop has not replied yet. -/
def Pc.stopping : Pc → Option Uuid
  | .stop _ (.publish id) => some id
  | _ => none

@[simp] theorem Pc.Resting.busy {p : Pc} (h : p.Resting) : p.busy = none := by
  cases h <;> rfl

@[simp] theorem Pc.Resting.stopping {p : Pc} (h : p.Resting) : p.stopping = none := by
  cases h <;> rfl

/-- The section is the first of a start that launches the rule. -/
def AboutToLaunch (crates : Crates) (env : Env) (d : Daemon) (id : Uuid) (p : Pc) : Prop :=
  ∃ caller rule, p = .start caller .enter ∧ Admitted crates d id caller ∧
    (d.state.view id).rule = some rule ∧
    ((d.state.view id).entry = none ∨ (d.state.view id).entry = some .failed) ∧
    checkLocalPort env.bind rule = .ok ()

/-- The section is the one in which a stop takes the entry of the rule. -/
def AboutToStop (crates : Crates) (d : Daemon) (id : Uuid) (p : Pc) : Prop :=
  ∃ request, p = .stop request .enter ∧ ruleId crates request.payload d.state = .ok id ∧
    ¬ (d.state.view id).editing ∧ (d.state.view id).rule.isSome = true

/-- A thread at `q` is not in the way of the section at `p`. -/
structure Clear (crates : Crates) (env : Env) (d : Daemon) (p q : Pc) : Prop where
  launch : ∀ id, AboutToLaunch crates env d id p → q.busy ≠ some id ∧ q.stopping ≠ some id
  stop : ∀ id, AboutToStop crates d id p → q.busy ≠ some id

/-- A start of the rule has left the attempt `k` behind, and it has not ended. -/
def Daemon.Left (d : Daemon) (id : Uuid) (k : ℕ) : Prop :=
  ∃ process, d.processes[k]? = some process ∧ process.phase = .abandoned ∧ process.launch.id = id

/-- No other thread is in the middle of launching or cleaning up an attempt of the rule that the
section starts or stops, no other stop of a rule that it starts has still to reply, and no attempt
of the rule is left behind. -/
structure System.Separate (crates : Crates) (w : System) (a : Choice) : Prop where
  threads : ∀ u, u ≠ a.1 → Clear crates a.2 w.shared (w.thread a.1) (w.thread u)
  left : ∀ id, AboutToLaunch crates a.2 w.shared id (w.thread a.1) ∨
    AboutToStop crates w.shared id (w.thread a.1) → ∀ k, ¬ w.shared.Left id k

/-! ## How threads become busy -/

theorem aboutToLaunch_of_enter (hcrates : crates.Faithful) {caller : Caller} {launch : Launch}
    (h : (exec crates managed env d (.start caller .enter)).2.launching = some launch) :
    AboutToLaunch crates env d launch.id (.start caller .enter) := by
  have hstep := exec_ruleStep hcrates managed env d launch.id (.start caller .enter)
  generalize (exec crates managed env d (.start caller .enter)).2 = p' at h hstep
  generalize (exec crates managed env d (.start caller .enter)).1.state.view launch.id = v at hstep
  cases hstep with
  | keep hlaunch => cases hlaunch launch h rfl
  | release | refuse => simp at h
  | @launch _ rule hadmitted hrule hentry hport =>
    exact ⟨caller, rule, rfl, hadmitted, hrule, hentry, hport⟩

theorem busy_of_start (hcrates : crates.Faithful) {caller : Caller} {pc : StartPc} {id : Uuid}
    (h : (exec crates managed env d (.start caller pc)).2.busy = some id) :
    (Pc.start caller pc).busy = some id ∨ AboutToLaunch crates env d id (.start caller pc) := by
  cases pc with
  | enter =>
    rcases hstart : startEnter crates caller.automatic caller.editOwned (caller.payload crates)
      env.attemptId env.bind d.state with ⟨entry, s⟩
    cases entry with
    | refused failure =>
      simp only [exec, execStart, hstart, Pc.Resting.busy, resting_resume] at h
      cases h
    | unchanged j startRequested =>
      simp only [exec, execStart, hstart, Pc.Resting.busy, resting_resume] at h
      cases h
    | launch launch =>
      -- the marker has just been stored
      have hlaunch : (exec crates managed env d (.start caller .enter)).2.launching =
          some launch := by
        simp only [exec, execStart, hstart]
        rfl
      simp only [exec, execStart, hstart] at h
      obtain rfl : launch.id = id := Option.some.inj h
      exact Or.inr (aboutToLaunch_of_enter hcrates hlaunch)
  | launch launch =>
    refine Or.inl ?_
    simp only [exec, execStart] at h
    split at h
    · split at h
      · cases h
      · exact h
    · exact h
  | spawned launch process =>
    refine Or.inl ?_
    simp only [exec, execStart] at h
    split at h
    · cases h
    · exact h
  | launched launch attempt =>
    refine Or.inl ?_
    simp only [exec, execStart] at h
    split at h
    · cases h
    · split at h
      · exact h
      · rw [(resting_resume ..).busy] at h
        cases h
  | failed launch error =>
    simp only [exec, execStart] at h
    split at h
    · rw [(resting_resume ..).busy] at h
      cases h
    · cases h
    · rw [(resting_resume ..).busy] at h
      cases h
  | discard launch attempt =>
    simp only [exec, execStart, Pc.Resting.busy, resting_resume] at h
    cases h
  | publish event j reply =>
    simp only [exec, execStart, Pc.Resting.busy, resting_resume] at h
    cases h

theorem busy_of_stop {request : Request} {pc : StopPc} {id : Uuid}
    (h : (exec crates managed env d (.stop request pc)).2.busy = some id) :
    (∃ a, d.stores id a) ∧
      ((exec crates managed env d (.stop request pc)).1.state.view id).entry = none := by
  cases pc with
  | enter =>
    rcases hstop : stopEnter crates request.payload d.state with ⟨result, s⟩
    rcases stopEnter_spec hstop with ⟨failure, rfl, rfl⟩ | ⟨j, -, -, -, rfl, rfl⟩
    · simp only [exec, execStop, hstop] at h
      cases h
    · simp only [exec, execStop, hstop] at h ⊢
      -- only a stop that took an attempt goes on to its cleanup
      rcases hentry : d.state.running.lookup j with _ | (_ | attempt | _ | _)
      case some.active =>
        rw [hentry] at h
        obtain rfl : j = id := Option.some.inj h
        exact ⟨⟨attempt, hentry⟩, congrArg RuleView.entry (view_stopped d.state j)⟩
      all_goals
        rw [hentry] at h
        cases h
  | cleanup j attempt =>
    simp only [exec, execStop] at h
    split at h <;> cases h
  | publish j => cases h

theorem busy_of_editEnter {request : Request} {id : Uuid}
    (h : (exec crates managed env d (.editEnter request)).2.busy = some id) :
    (∃ a, d.stores id a) ∧
      ((exec crates managed env d (.editEnter request)).1.state.view id).entry = none := by
  rcases hparse : parseEdit crates request.payload with failure | edit
  · simp only [exec, execEditEnter, hparse] at h
    cases h
  · rcases hreserve : editReserve crates edit d.state with ⟨result, s⟩
    rcases editReserve_spec hreserve with ⟨failure, rfl, rfl⟩ | ⟨attempt, -, -, hentry, rfl, rfl⟩
    · simp only [exec, execEditEnter, hparse, hreserve] at h
      cases h
    · simp only [exec, execEditEnter, hparse, hreserve] at h ⊢
      obtain rfl : edit.id = id := Option.some.inj h
      exact ⟨⟨attempt, hentry⟩, congrArg RuleView.entry (view_reserved d.state edit.id)⟩

/-- A thread is busy with a rule because it was before, because it is about to launch it, or
because it has just taken the attempt of it. -/
theorem exec_busy (hcrates : crates.Faithful) {p : Pc} {id : Uuid}
    (h : (exec crates managed env d p).2.busy = some id) :
    p.busy = some id ∨ AboutToLaunch crates env d id p ∨
      ((∃ a, d.stores id a) ∧ ((exec crates managed env d p).1.state.view id).entry = none) := by
  cases p with
  | idle =>
    simp only [exec] at h
    split at h
    · cases h
    · rw [(resting_handle ..).busy] at h
      cases h
    · cases h
  | returned request reply => cases h
  | dispatch request => cases h
  | start caller pc =>
    rcases busy_of_start hcrates h with hbusy | habout
    · exact Or.inl hbusy
    · exact Or.inr (Or.inl habout)
  | stop request pc => exact Or.inr (Or.inr (busy_of_stop h))
  | editEnter request => exact Or.inr (Or.inr (busy_of_editEnter h))
  | edit request edit pc =>
    cases pc with
    | cleanup attempt =>
      simp only [exec, execEdit] at h
      split at h <;> cases h
    | save =>
      simp only [exec, execEdit] at h
      split at h <;> cases h
    | stopFailed error | publishFailed error | publishStopped | finish reply => cases h
  | maintain poller pc =>
    cases pc with
    | scan => cases h
    | publish events retry =>
      cases events with
      | nil =>
        simp only [exec, execMaintain, Pc.Resting.busy, resting_nextRetry] at h
        cases h
      | cons event events => cases h
  | supervise =>
    simp only [exec, Pc.Resting.busy, resting_nextRestore] at h
    cases h

theorem stopping_exec {p : Pc} (hp : ∀ request pc, p ≠ .stop request pc) :
    (exec crates managed env d p).2.stopping = none := by
  cases p with
  | stop request pc => exact absurd rfl (hp request pc)
  | idle =>
    simp only [exec]
    split
    · rfl
    · exact (resting_handle _).stopping
    · rfl
  | returned request reply => rfl
  | dispatch request => rfl
  | start caller pc =>
    cases pc with
    | enter | launch | spawned | launched | failed =>
      simp only [exec, execStart]
      repeat' split
      all_goals first | rfl | exact (resting_resume ..).stopping
    | discard launch attempt => exact (resting_resume ..).stopping
    | publish event id reply => exact (resting_resume ..).stopping
  | editEnter request =>
    simp only [exec, execEditEnter]
    repeat' split
    all_goals rfl
  | edit request edit pc =>
    cases pc with
    | save =>
      simp only [exec, execEdit]
      split <;> rfl
    | cleanup attempt | stopFailed error | publishFailed error | publishStopped
    | finish reply => rfl
  | maintain poller pc =>
    cases pc with
    | scan => rfl
    | publish events retry =>
      cases events with
      | nil => exact (resting_nextRetry ..).stopping
      | cons event events => rfl
  | supervise => exact (resting_nextRestore _).stopping

theorem exec_stopping {p : Pc} {id : Uuid}
    (h : (exec crates managed env d p).2.stopping = some id) :
    (p.busy = some id ∧ ∀ a, (exec crates managed env d p).1.stores id a ↔ d.stores id a) ∨
      (AboutToStop crates d id p ∧
        ((exec crates managed env d p).1.state.view id).entry = none) := by
  cases p with
  | stop request pc =>
    cases pc with
    | enter =>
      refine Or.inr ?_
      rcases hstop : stopEnter crates request.payload d.state with ⟨result, s⟩
      rcases stopEnter_spec hstop with ⟨failure, rfl, rfl⟩ | ⟨j, hj, hediting, hrule, rfl, rfl⟩
      · simp only [exec, execStop, hstop] at h
        cases h
      · simp only [exec, execStop, hstop] at h ⊢
        have hid : j = id := by
          rcases hentry : d.state.running.lookup j with _ | (_ | attempt | _ | _) <;>
            rw [hentry] at h <;> first | exact Option.some.inj h | cases h
        subst hid
        exact ⟨⟨request, rfl, hj, hediting, hrule⟩,
          congrArg RuleView.entry (view_stopped d.state j)⟩
    | cleanup j attempt =>
      refine Or.inl ⟨?_, fun a ↦ Iff.rfl⟩
      simp only [exec, execStop] at h
      split at h
      · cases h
      · exact h
    | publish j => cases h
  | _ =>
    rw [stopping_exec (by rintro request pc ⟨⟩)] at h
    cases h

theorem RuleStep.active_before {id : Uuid} {p p' : Pc} {v : RuleView}
    (h : RuleStep crates env d id p p' v) {a : ManagedAttempt} (hv : v.entry = some (.active a)) :
    d.stores id a ∨ (p.busy = some id ∧ p'.busy = none ∧ p'.stopping = none) := by
  cases h with
  | keep | configure | release | commit | unreserve => exact Or.inl hv
  | refuse | stop | reserve | launch | stopFailed => cases hv
  | @fail caller launch error =>
    rcases (d.state.view id).launchFailed_entry caller.editOwned launch error env.now with
      ⟨due, h⟩ | h | ⟨-, h⟩ <;> cases h.symm.trans hv
  | @finish caller launch attempt hid hcurrent => exact Or.inr ⟨congrArg some hid, rfl, rfl⟩
  | scan =>
    rw [RuleView.scan_active_iff] at hv
    exact Or.inl hv.1

theorem ProcessStep.left_before {k : ℕ} {p p' : Pc} {d' : Daemon} (h : ProcessStep d k p p' d')
    (hheld : Held d p) {id : Uuid} (hleft : d'.Left id k) :
    d.Left id k ∨ (p.owns = some (k, .launching) ∧ p.busy = some id ∧ p'.busy = none ∧
      p'.stopping = none) := by
  obtain ⟨process, hget, habandoned, hid⟩ := hleft
  cases h with
  | keep hprocess | store _ _ _ hprocess | take _ _ _ _ _ hprocess =>
    exact Or.inl ⟨process, hprocess ▸ hget, habandoned, hid⟩
  | spawn _ hprocess | expire _ _ hprocess =>
    rw [hprocess] at hget
    obtain rfl := Option.some.inj hget
    cases habandoned
  | ready hprocess | clean _ _ hprocess | drop _ _ _ _ hprocess =>
    rw [hprocess] at hget
    obtain ⟨before, -, rfl⟩ := Option.map_eq_some_iff.mp hget
    cases habandoned
  | fail hprocess =>
    obtain ⟨before, hbefore, -, hbusy, -⟩ := hheld.process k .launching rfl
    rw [hprocess, hbefore] at hget
    obtain rfl := Option.some.inj hget
    exact Or.inr ⟨rfl, hid ▸ hbusy, rfl, rfl⟩

theorem transfers_of_launching {p : Pc} {k : ℕ} (h : p.owns = some (k, .launching)) :
    p.transfers = false := by
  unfold Pc.owns at h
  split at h <;> first | rfl | cases h

/-! ## The invariant -/

/-- An attempt that was left behind is the only one of its rule. -/
def Lone (d : Daemon) : Prop :=
  ∀ id k, d.Left id k → (∀ a, ¬ d.stores id a) ∧ ∀ j, d.Left id j → j = k

/-- While a thread launches or cleans up an attempt of a rule, or has still to reply that it stopped
the rule, no attempt is stored under it and none is left behind. -/
def Excludes (d : Daemon) (p : Pc) : Prop :=
  ∀ id, p.busy = some id ∨ p.stopping = some id →
    (∀ a, ¬ d.stores id a) ∧ ∀ k, ¬ d.Left id k

/-- Two threads do not launch or clean up attempts of the same rule, and neither does one of them
while the other has still to reply that it stopped the rule. -/
structure Alone (p q : Pc) : Prop where
  busy : ∀ id, p.busy = some id → q.busy ≠ some id
  stopping : ∀ id, p.busy = some id → q.stopping ≠ some id
  stopping' : ∀ id, p.stopping = some id → q.busy ≠ some id

theorem Alone.symm {p q : Pc} (h : Alone p q) : Alone q p :=
  ⟨fun id hq hp ↦ h.busy id hp hq, fun id hq hp ↦ h.stopping' id hp hq,
    fun id hq hp ↦ h.stopping id hp hq⟩

theorem Lone.own (hcrates : crates.Faithful) {p : Pc} (h : Lone d) (hp : Excludes d p)
    (hreserves : Reserves d p) (hstored : Stored d) (hheld : Held d p) :
    Lone (exec crates managed env d p).1 := by
  have hbefore := fun id k (hleft : (exec crates managed env d p).1.Left id k) ↦
    (exec_processStep hcrates managed env hstored.once k hreserves).left_before hheld hleft
  intro id k hleft
  rcases hbefore id k hleft with hk | ⟨howns, hbusy, -⟩
  · obtain ⟨hstores, honly⟩ := h id k hk
    refine ⟨fun a hafter ↦ ?_, fun j hj ↦ ?_⟩
    · rcases (exec_ruleStep hcrates managed env d id p).active_before hafter with ha | ⟨hbusy, -⟩
      · exact hstores a ha
      · exact (hp id (Or.inl hbusy)).2 k hk
    · rcases hbefore id j hj with hj | ⟨-, hbusy, -⟩
      · exact honly j hj
      · exact absurd hk ((hp id (Or.inl hbusy)).2 k)
  · -- the thread was busy with the rule, so nothing else of it was there
    obtain ⟨hstores, hnone⟩ := hp id (Or.inl hbusy)
    refine ⟨fun a ↦ ?_, fun j hj ↦ ?_⟩
    · rw [stores_exec_iff hcrates managed env hreserves (transfers_of_launching howns)]
      exact hstores a
    · rcases hbefore id j hj with hj | ⟨howns', -⟩
      · exact absurd hj (hnone j)
      · exact congrArg Prod.fst (Option.some.inj (howns'.symm.trans howns))

theorem Excludes.own (hcrates : crates.Faithful) {p : Pc} (h : Excludes d p) (hlone : Lone d)
    (hreserves : Reserves d p) (hstored : Stored d) (hheld : Held d p)
    (hclear : ∀ id, AboutToLaunch crates env d id p ∨ AboutToStop crates d id p →
      ∀ k, ¬ d.Left id k) :
    Excludes (exec crates managed env d p).1 (exec crates managed env d p).2 := by
  intro id hid
  refine ⟨fun a hafter ↦ ?_, fun k hafter ↦ ?_⟩
  · have hstep := exec_ruleStep hcrates managed env d id p
    rcases hstep.active_before hafter with hbefore | ⟨-, hbusy, hstopping⟩
    · rcases hid with hid | hid
      · rcases exec_busy hcrates hid with hbusy | ⟨caller, rule, rfl, -, -, hentry, -⟩ | ⟨-, hnone⟩
        · exact (h id (Or.inl hbusy)).1 a hbefore
        · rcases hentry with hentry | hentry <;> exact nomatch hentry.symm.trans hbefore
        · exact nomatch hnone.symm.trans hafter
      · rcases exec_stopping hid with ⟨hbusy, -⟩ | ⟨-, hnone⟩
        · exact (h id (Or.inl hbusy)).1 a hbefore
        · exact nomatch hnone.symm.trans hafter
    · rcases hid with hid | hid
      · exact nomatch hbusy.symm.trans hid
      · exact nomatch hstopping.symm.trans hid
  · have hstep := exec_processStep hcrates managed env hstored.once k hreserves
    rcases hstep.left_before hheld hafter with hbefore | ⟨-, -, hbusy, hstopping⟩
    · rcases hid with hid | hid
      · rcases exec_busy hcrates hid with hbusy | hlaunch | ⟨⟨a, ha⟩, -⟩
        · exact (h id (Or.inl hbusy)).2 k hbefore
        · exact hclear id (Or.inl hlaunch) k hbefore
        · exact (hlone id k hbefore).1 a ha
      · rcases exec_stopping hid with ⟨hbusy, -⟩ | ⟨hstop, -⟩
        · exact (h id (Or.inl hbusy)).2 k hbefore
        · exact hclear id (Or.inr hstop) k hbefore
    · rcases hid with hid | hid
      · exact nomatch hbusy.symm.trans hid
      · exact nomatch hstopping.symm.trans hid

theorem Excludes.frame (hcrates : crates.Faithful) {p q : Pc} (h : Excludes d q)
    (hpq : Alone p q) (hreserves : Reserves d p) (hstored : Stored d) (hheld : Held d p) :
    Excludes (exec crates managed env d p).1 q := by
  intro id hid
  have hbusy : p.busy ≠ some id := fun hp ↦
    hid.elim (hpq.busy id hp) (hpq.stopping id hp)
  refine ⟨fun a hafter ↦ ?_, fun k hafter ↦ ?_⟩
  · rcases (exec_ruleStep hcrates managed env d id p).active_before hafter with hbefore | ⟨hp, -⟩
    · exact (h id hid).1 a hbefore
    · exact hbusy hp
  · have hstep := exec_processStep hcrates managed env hstored.once k hreserves
    rcases hstep.left_before hheld hafter with hbefore | ⟨-, hp, -⟩
    · exact (h id hid).2 k hbefore
    · exact hbusy hp

theorem Alone.own (hcrates : crates.Faithful) {p q : Pc} (h : Alone p q) (hq : Excludes d q)
    (hclear : Clear crates env d p q) : Alone (exec crates managed env d p).2 q := by
  refine ⟨fun id hid hother ↦ ?_, fun id hid hother ↦ ?_, fun id hid hother ↦ ?_⟩
  · rcases exec_busy hcrates hid with hp | hlaunch | ⟨⟨a, ha⟩, -⟩
    · exact h.busy id hp hother
    · exact (hclear.launch id hlaunch).1 hother
    · exact (hq id (Or.inl hother)).1 a ha
  · rcases exec_busy hcrates hid with hp | hlaunch | ⟨⟨a, ha⟩, -⟩
    · exact h.stopping id hp hother
    · exact (hclear.launch id hlaunch).2 hother
    · exact (hq id (Or.inr hother)).1 a ha
  · rcases exec_stopping hid with ⟨hp, -⟩ | ⟨hstop, -⟩
    · exact h.busy id hp hother
    · exact hclear.stop id hstop hother

/-- Every attempt has one owner or is left behind, and no rule is handled by two threads. -/
structure Excluded (w : System) : Prop where
  owned : Owned w
  consistent : World.Consistent Lone Excludes Alone w

/-- **Rules are launched and cleaned up by one thread at a time.** -/
theorem Excluded.next (hcrates : crates.Faithful) {w : System} (h : Excluded w) {a : Choice}
    (ha : w.Separate crates a) : Excluded (System.step crates managed w a) := by
  refine ⟨h.owned.next hcrates a, ?_⟩
  have hreserves := h.owned.reservations.consistent.thread a.1
  have hstored := h.owned.consistent.shared
  have hheld := h.owned.consistent.thread a.1
  refine World.Consistent.step_of (C := fun env d p ↦ Reserves d p ∧ Stored d ∧ Held d p ∧
      ∀ id, AboutToLaunch crates env d id p ∨ AboutToStop crates d id p → ∀ k, ¬ d.Left id k)
    (D := Clear crates) (fun _ _ h ↦ h.symm) ?_ ?_ h.consistent
    ⟨hreserves, hstored, hheld, ha.left⟩ ha.threads
  · rintro env d p ⟨hreserves, hstored, hheld, hleft⟩ hlone hexcludes
    exact ⟨hlone.own hcrates hexcludes hreserves hstored hheld,
      hexcludes.own hcrates hlone hreserves hstored hheld hleft⟩
  · rintro env d p q ⟨hreserves, hstored, hheld, -⟩ hclear - - hq hpq
    exact ⟨hq.frame hcrates hpq hreserves hstored hheld, hpq.own hcrates hq hclear⟩

theorem Excluded.opened {s : State} (hs : s.Idle) : Excluded (System.opened s) := by
  have hleft : ∀ id k, ¬ (System.opened s).shared.Left id k := by
    rintro id k ⟨process, hget, -⟩
    cases hget
  refine ⟨.opened hs, fun id k h ↦ absurd h (hleft id k), fun t id h ↦ ?_,
    fun t u _ ↦ ⟨?_, ?_, ?_⟩⟩
  · rcases h with h | h <;> cases h
  all_goals
    intro id h
    cases h

/-! ## Attempts that are alive -/

/-- The guardian was spawned, and the attempt is not cleaned up and has not ended. -/
def Process.Alive (process : Process) : Prop :=
  process.phase = .launching ∨ process.phase = .running ∨ process.phase = .abandoned

def System.OneAlive (w : System) (id : Uuid) : Prop :=
  ∀ (j k : ℕ) (process process' : Process), w.shared.processes[j]? = some process →
    w.shared.processes[k]? = some process' → process.Alive → process'.Alive →
      process.launch.id = id → process'.launch.id = id → j = k

/-- No attempt of the rule is alive, and no thread is still launching one. -/
structure System.NoneAlive (w : System) (id : Uuid) : Prop where
  processes : ∀ (k : ℕ) (process : Process), w.shared.processes[k]? = some process →
    process.Alive → process.launch.id ≠ id
  threads : ∀ t, (w.thread t).busy ≠ some id

/-- Where an attempt of a rule is that is alive: it is the entry of the rule, in the hands of a busy
thread, or left behind. -/
inductive System.Keeps (w : System) (id : Uuid) (k : ℕ) : Prop
  | stored {attempt : ManagedAttempt} (h : w.shared.stores id attempt) (hk : attempt.process = k)
  | held {t : ℕ} {phase : Phase} (howns : (w.thread t).owns = some (k, phase))
    (hbusy : (w.thread t).busy = some id)
  | left (h : w.shared.Left id k)

theorem Owned.keeps {w : System} (h : Owned w) {k : ℕ} {process : Process}
    (hget : w.shared.processes[k]? = some process) (halive : process.Alive) :
    w.Keeps process.launch.id k := by
  by_cases hstored : ∃ id a, w.shared.stores id a ∧ a.process = k
  · obtain ⟨id, a, ha, rfl⟩ := hstored
    obtain ⟨process', hget', -, rfl⟩ := h.consistent.shared.active id a ha
    obtain rfl := Option.some.inj (hget.symm.trans hget')
    exact .stored ha rfl
  · have hthread : process.phase = .launching ∨ process.phase = .running →
        w.Keeps process.launch.id k := by
      intro hphase
      obtain ⟨t, phase, ht⟩ :=
        h.owned k ⟨⟨process, hget, hphase⟩, fun id a ha hk ↦ hstored ⟨id, a, ha, hk⟩⟩
      obtain ⟨process', hget', -, hbusy, -⟩ := (h.consistent.thread t).process k phase ht
      obtain rfl := Option.some.inj (hget.symm.trans hget')
      exact .held ht hbusy
    rcases halive with hphase | hphase | hphase
    · exact hthread (Or.inl hphase)
    · exact hthread (Or.inr hphase)
    · exact .left ⟨process, hget, hphase, rfl⟩

theorem Excluded.oneAlive {w : System} (h : Excluded w) (id : Uuid) : w.OneAlive id := by
  intro j k process process' hj hk hlive hlive' hid hid'
  have hbusy := fun t (ht : (w.thread t).busy = some id) ↦
    h.consistent.thread t id (Or.inl ht)
  have hlone := h.consistent.shared id
  have hkeeps := hid ▸ h.owned.keeps hj hlive
  have hkeeps' := hid' ▸ h.owned.keeps hk hlive'
  rcases hkeeps with ⟨ha, rfl⟩ | @⟨t, phase, ht, hbt⟩ | hleft
  · rcases hkeeps' with ⟨hb, rfl⟩ | ⟨-, hbu⟩ | hleft'
    · rw [Daemon.stores_unique ha hb]
    · exact absurd ha ((hbusy _ hbu).1 _)
    · exact absurd ha ((hlone _ hleft').1 _)
  · rcases hkeeps' with ⟨hb, rfl⟩ | @⟨u, phase', hu, hbu⟩ | hleft'
    · exact absurd hb ((hbusy t hbt).1 _)
    · -- two busy threads would be busy with one rule
      by_cases htu : t = u
      · subst htu
        exact congrArg Prod.fst (Option.some.inj (ht.symm.trans hu))
      · exact absurd hbu ((h.consistent.pair t u htu).busy id hbt)
    · exact absurd hleft' ((hbusy t hbt).2 k)
  · rcases hkeeps' with ⟨hb, rfl⟩ | ⟨-, hbu⟩ | hleft'
    · exact absurd hb ((hlone j hleft).1 _)
    · exact absurd hleft ((hbusy _ hbu).2 j)
    · exact ((hlone j hleft).2 k hleft').symm

theorem Owned.noneAlive {w : System} (h : Owned w) {id : Uuid}
    (hthreads : ∀ t, (w.thread t).busy ≠ some id) (hstores : ∀ a, ¬ w.shared.stores id a)
    (hleft : ∀ k, ¬ w.shared.Left id k) : w.NoneAlive id := by
  refine ⟨fun k process hget halive hid ↦ ?_, hthreads⟩
  rcases hid ▸ h.keeps hget halive with ⟨ha, -⟩ | ⟨-, hbusy⟩ | hk
  · exact hstores _ ha
  · exact hthreads _ hbusy
  · exact hleft k hk

theorem startReply_inj (hcrates : crates.Faithful) {i j : Uuid} {a b c d : Bool}
    (h : startReply crates i a b = startReply crates j c d) : i = j := by
  simp only [startReply, Except.ok.injEq, Json.Value.object.injEq, List.cons.injEq,
    Prod.mk.injEq] at h
  have hdecode := congrArg (decodeUuid crates) h.1.2
  rw [decodeUuid_encodeUuid hcrates, decodeUuid_encodeUuid hcrates] at hdecode
  exact Option.some.inj hdecode

/-- When a stop replies that it succeeded, the entry of the rule is gone, and the stop was about to
take it or has kept other threads away from the rule. -/
theorem exec_stop_reply (hcrates : crates.Faithful) {request : Request} {pc : StopPc} {id : Uuid}
    {changed : Bool} (h : (exec crates managed env d (.stop request pc)).2 =
      .returned request (startReply crates id false changed)) :
    ((Pc.stop request pc).stopping = some id ∧
        (exec crates managed env d (.stop request pc)).1.state = d.state) ∨
      (AboutToStop crates d id (.stop request pc) ∧
        ((exec crates managed env d (.stop request pc)).1.state.view id).entry = none) := by
  cases pc with
  | enter =>
    refine Or.inr ?_
    rcases hstop : stopEnter crates request.payload d.state with ⟨result, s⟩
    rcases stopEnter_spec hstop with ⟨failure, rfl, rfl⟩ | ⟨j, hj, hediting, hrule, rfl, rfl⟩
    · simp only [exec, execStop, hstop] at h
      cases h
    · simp only [exec, execStop, hstop] at h ⊢
      rcases hentry : d.state.running.lookup j with _ | (_ | attempt | _ | _)
      · rw [hentry] at h
        simp only [stopNext, Pc.returned.injEq, true_and] at h
        obtain rfl := startReply_inj hcrates h
        exact ⟨⟨request, rfl, hj, hediting, hrule⟩,
          congrArg RuleView.entry (view_stopped d.state j)⟩
      all_goals
        rw [hentry] at h
        cases h
  | cleanup j attempt =>
    simp only [exec, execStop] at h
    split at h <;> cases h
  | publish j =>
    simp only [exec, execStop, Pc.returned.injEq, true_and] at h
    exact Or.inl ⟨congrArg some (startReply_inj hcrates h), rfl⟩

/-- **One attempt per rule.** In a run of a managed daemon whose sections are separate, at most one
attempt of a rule is alive in every state. When a stop replies that it succeeded, none is. -/
theorem one_attempt_alive (hcrates : crates.Faithful) {faults : OpenFaults}
    {directory : Directory} {s : State} (hopen : openState crates faults directory = .ok s)
    {as : List Choice}
    (has : Along (System.step crates true) (System.Separate crates) (System.opened s) as)
    {w : System} (hw : run (System.step crates true) (System.opened s) as = w) :
    (∀ id, w.OneAlive id) ∧
      ∀ a, w.Separate crates a → ∀ id request pc changed, w.thread a.1 = .stop request pc →
        (System.step crates true w a).thread a.1 =
          .returned request (startReply crates id false changed) →
        (System.step crates true w a).NoneAlive id := by
  have hexcluded : Excluded w := by
    rw [← hw]
    exact invariant_along (System.step crates true) (I := Excluded)
      (fun _ _ h ha ↦ h.next hcrates ha) (.opened (idle_of_open hopen)) has
  refine ⟨hexcluded.oneAlive, fun a ha id request pc changed hthread hreply ↦ ?_⟩
  have hafter : Excluded (System.step crates true w a) := hexcluded.next hcrates ha
  rw [World.step_thread_self, hthread] at hreply
  have hself : ((System.step crates true w a).thread a.1).busy = none := by
    rw [World.step_thread_self, hthread, hreply]
    rfl
  have hstate : (System.step crates true w a).shared =
      (exec crates true a.2 w.shared (.stop request pc)).1 := by
    rw [World.step_shared, hthread]
  refine hafter.owned.noneAlive (fun u hu ↦ ?_) (fun b hb ↦ ?_) fun k hk ↦ ?_
  · -- nobody is busy with the rule: the stop has kept the others away, or is separate from them
    by_cases hua : u = a.1
    · rw [hua, hself] at hu
      cases hu
    · rw [World.step_thread_of_ne _ w hua] at hu
      rcases exec_stop_reply hcrates hreply with ⟨hstopping, -⟩ | ⟨hstop, -⟩
      · exact (hexcluded.consistent.pair a.1 u (Ne.symm hua)).stopping' id (hthread ▸ hstopping) hu
      · exact (ha.threads u hua).stop id (hthread ▸ hstop) hu
  · rw [Daemon.stores, hstate] at hb
    rcases exec_stop_reply hcrates hreply with ⟨hstopping, hsame⟩ | ⟨-, hnone⟩
    · rw [hsame] at hb
      exact (hexcluded.consistent.thread a.1 id (Or.inr (hthread ▸ hstopping))).1 b hb
    · cases hnone.symm.trans hb
  · -- what the stop has left alone was there before
    rw [hstate] at hk
    have hbefore := (exec_processStep hcrates true a.2 hexcluded.owned.consistent.shared.once k
      (hthread ▸ hexcluded.owned.reservations.consistent.thread a.1)).left_before
      (hthread ▸ hexcluded.owned.consistent.thread a.1) hk
    rcases hbefore with hk | ⟨howns, -⟩
    · rcases exec_stop_reply hcrates hreply with ⟨hstopping, -⟩ | ⟨hstop, -⟩
      · exact (hexcluded.consistent.thread a.1 id (Or.inr (hthread ▸ hstopping))).2 k hk
      · exact ha.left id (Or.inr (hthread ▸ hstop)) k hk
    · cases pc <;> cases howns

/-! ### Examples -/

def Pc.enters : Pc → Bool
  | .start _ .enter | .stop _ .enter => true
  | _ => false

/-- Whoever enters a start or a stop finds the other ones of the first `n` threads neither busy nor
about to reply, and nothing left behind. -/
def System.Calm (n : ℕ) (w : System) (a : Choice) : Prop :=
  (w.thread a.1).enters = true →
    (∀ u < n, u ≠ a.1 → (w.thread u).busy = none ∧ (w.thread u).stopping = none) ∧
      ∀ process ∈ w.shared.processes, process.phase ≠ .abandoned

instance (n : ℕ) (w : System) (a : Choice) : Decidable (w.Calm n a) :=
  inferInstanceAs (Decidable (_ → _))

theorem System.Calm.separate {n : ℕ} {w : System} {a : Choice} (h : w.Calm n a)
    (hw : ∀ u, n ≤ u → w.thread u = .idle) : w.Separate crates a := by
  have hquiet (henters : (w.thread a.1).enters = true) (u : ℕ) (hu : u ≠ a.1) :
      (w.thread u).busy = none ∧ (w.thread u).stopping = none := by
    rcases Nat.lt_or_ge u n with hlt | hge
    · exact (h henters).1 u hlt hu
    · rw [hw u hge]
      exact ⟨rfl, rfl⟩
  have hlaunch {id : Uuid} (habout : AboutToLaunch crates a.2 w.shared id (w.thread a.1)) :
      (w.thread a.1).enters = true := by
    obtain ⟨caller, rule, hthread, -⟩ := habout
    rw [hthread]
    rfl
  have hstop {id : Uuid} (habout : AboutToStop crates w.shared id (w.thread a.1)) :
      (w.thread a.1).enters = true := by
    obtain ⟨request, hthread, -⟩ := habout
    rw [hthread]
    rfl
  refine ⟨fun u hu ↦ ⟨fun id habout ↦ ?_, fun id habout ↦ ?_⟩, fun id habout k hk ↦ ?_⟩
  · obtain ⟨hbusy, hstopping⟩ := hquiet (hlaunch habout) u hu
    rw [hbusy, hstopping]
    exact ⟨nofun, nofun⟩
  · rw [(hquiet (hstop habout) u hu).1]
    exact nofun
  · obtain ⟨process, hget, habandoned, -⟩ := hk
    exact (h (habout.elim hlaunch hstop)).2 process (List.mem_of_getElem? hget) habandoned

theorem stopping_eq_some {p : Pc} {id : Uuid} (h : p.stopping = some id) :
    ∃ request, p = .stop request (.publish id) := by
  cases p with
  | stop request pc =>
    cases pc with
    | publish j => exact ⟨request, by rw [Option.some.inj h]⟩
    | enter | cleanup => cases h
  | _ => cases h

theorem reply_of_stopping {w : System} {a : Choice} {request : Request} {id : Uuid}
    (h : w.thread a.1 = .stop request (.publish id)) :
    (System.step crates managed w a).thread a.1 =
      .returned request (startReply crates id false true) := by
  rw [World.step_thread_self, h]
  rfl

/-- One client starts the example rule, and another one stops it again, up to the reply. Each of
them lists the rules while the other one is at work. -/
def exampleServed : List Choice :=
  [(0, { call := some (.request ⟨.forwardStart, selectName "database"⟩) }),
    (1, { call := some (.request ⟨.forwardList, .null⟩) }), (0, { attemptId := 1 }), (1, {}),
    (0, {}), (1, {}), (0, {}), (0, {}), (0, {}),
    (1, { call := some (.request ⟨.forwardStop, selectName "database"⟩) }), (0, {}), (1, {}),
    (0, { call := some (.request ⟨.forwardList, .null⟩) }), (1, {}), (0, {})]

/-- When the stop replies, nothing of the example rule is alive. -/
theorem one_attempt_alive_exampleServed :
    (System.step exampleCrates true (run (System.step exampleCrates true) exampleOpened
      exampleServed) (1, {})).NoneAlive exampleRule.id := by
  have hcalm : Along (System.step exampleCrates true) (System.Calm 2) exampleOpened
      (exampleServed ++ ([(1, {})] : List Choice)) := by decide +kernel
  have hall : Along (System.step exampleCrates true) (System.Separate exampleCrates) exampleOpened
      (exampleServed ++ ([(1, {})] : List Choice)) :=
    World.along_of_first _ (fun _ _ hw h ↦ h.separate hw) (fun _ _ ↦ rfl) (by decide) hcalm
  have hseparate := (along_append _ _ _ _ _).mp hall
  obtain ⟨request, hthread⟩ := stopping_eq_some (show ((run (System.step exampleCrates true)
    exampleOpened exampleServed).thread 1).stopping = some exampleRule.id by decide +kernel)
  exact (one_attempt_alive exampleCrates_faithful exampleOpened_open hseparate.1 rfl).2 (1, {})
    hseparate.2.1 exampleRule.id request (.publish exampleRule.id) true hthread
    (reply_of_stopping hthread)

/-- While a first thread waits for its guardian, a second one stops the rule. -/
def exampleStopping : List Choice := exampleStarting ++ ([(1, {})] : List Choice)

/-- Then the stop replies, and a third thread starts the rule again. -/
def exampleOverlap : List Choice :=
  exampleStopping ++ ([(1, {}),
    (2, { call := some (.request ⟨.forwardStart, selectName "database"⟩) }),
    (2, { attemptId := 2 }), (2, {})] : List Choice)

/-- The stop replies that it succeeded while the attempt is being launched. After the second start
two attempts of the rule are alive. -/
theorem exampleOverlap_alive :
    Along (System.step exampleCrates true) FreshId exampleOpened exampleOverlap ∧
      (∃ request, (System.step exampleCrates true (run (System.step exampleCrates true)
        exampleOpened exampleStopping) (1, {})).thread 1 =
          .returned request (startReply exampleCrates exampleRule.id false true)) ∧
      ¬ (System.step exampleCrates true (run (System.step exampleCrates true) exampleOpened
        exampleStopping) (1, {})).NoneAlive exampleRule.id ∧
      ¬ (run (System.step exampleCrates true) exampleOpened exampleOverlap).OneAlive
        exampleRule.id := by
  have hstopped : (System.step exampleCrates true (run (System.step exampleCrates true)
      exampleOpened exampleStopping) (1, {})).shared.processes =
      [⟨⟨exampleRule.id, exampleRule, 1⟩, .launching, 0⟩] := by decide +kernel
  have hoverlap : (run (System.step exampleCrates true) exampleOpened
      exampleOverlap).shared.processes =
      [⟨⟨exampleRule.id, exampleRule, 1⟩, .launching, 0⟩,
        ⟨⟨exampleRule.id, exampleRule, 2⟩, .launching, 0⟩] := by decide +kernel
  refine ⟨by decide +kernel, ?_, fun hnone ↦ ?_, fun hone ↦ ?_⟩
  · obtain ⟨request, hthread⟩ := stopping_eq_some (show ((run (System.step exampleCrates true)
      exampleOpened exampleStopping).thread 1).stopping = some exampleRule.id by decide +kernel)
    exact ⟨request, reply_of_stopping hthread⟩
  · exact hnone.processes 0 _ (by rw [hstopped]; rfl) (Or.inl rfl) rfl
  · have hsame := hone 0 1 _ _ (by rw [hoverlap]; rfl) (by rw [hoverlap]; rfl) (Or.inl rfl)
      (Or.inl rfl) rfl rfl
    exact Nat.zero_ne_one hsame

end TunnelDeck
