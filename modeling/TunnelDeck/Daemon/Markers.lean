import TunnelDeck.Daemon.Reservation

/-!
# Markers

A start stores a fresh UUID as the marker of its launch and later compares it with the entry: a
launch whose marker is no longer there is stale and changes nothing. The invariant of this module
says that markers are never reused, so that a stale launch stays stale, and that the rule a launch
with a current marker was given is the rule stored under its id.

The UUIDs that starts draw are assumed to be distinct; this is the condition `Fresh` on a section.
-/

namespace TunnelDeck

open Concurrency

variable {crates : Crates} {managed : Bool} {env : Env} {d : Daemon}

/-! ## How entries and rules change -/

theorem RuleStep.starting_before {id : Uuid} {p p' : Pc} {v : RuleView} {marker : Uuid}
    (h : RuleStep crates env d id p p' v) (hv : v.entry = some (.starting marker)) :
    (d.state.view id).entry = some (.starting marker) ∨
      ∃ caller rule, p = .start caller .enter ∧ marker = env.attemptId ∧
        p' = .start caller (.launch ⟨id, rule, env.attemptId⟩) ∧
        (d.state.view id).rule = some rule ∧ v.rule = some rule := by
  cases h with
  | keep | configure | release | commit | unreserve => exact Or.inl hv
  | refuse | stop | reserve | stopFailed => cases hv
  | @launch caller rule hadmitted hrule =>
    obtain rfl : env.attemptId = marker := by simpa using hv
    exact Or.inr ⟨caller, rule, rfl, rfl, rfl, hrule, hrule⟩
  | @fail caller launch error =>
    rcases (d.state.view id).launchFailed_entry caller.editOwned launch error env.now with
      ⟨due, h⟩ | h | ⟨-, h⟩ <;> cases h.symm.trans hv
  | @finish caller launch attempt hid hcurrent =>
    subst hid
    cases attempt with
    | none =>
      have hmarker : launch.attemptId = marker := by
        simpa [RuleView.launched, Launch.entry] using hv
      exact Or.inl (hmarker ▸ hcurrent)
    | some attempt => simp [RuleView.launched, Launch.entry] at hv
  | scan =>
    rcases (d.state.view id).scan_entry env.exited env.now with h | ⟨_, -, -, h⟩ | ⟨_, -, -, h⟩
    · exact Or.inl (h ▸ hv)
    · rw [h] at hv
      rcases (d.state.view id).exit_entry env.now _ with ⟨due, h⟩ | h <;> cases h.symm.trans hv
    · rw [h] at hv
      cases hv

theorem RuleStep.rule_eq {id : Uuid} {p p' : Pc} {v : RuleView}
    (h : RuleStep crates env d id p p' v) (hp : Reserves d p) :
    v.rule = (d.state.view id).rule ∨ (d.state.view id).rule = none ∨
      (v.entry = none ∧ v.entry = (d.state.view id).entry) := by
  cases h with
  | keep | release | refuse | launch | finish | stop | reserve | stopFailed | unreserve =>
    exact Or.inl rfl
  | fail => exact Or.inl (by simp)
  | scan => exact Or.inl (by simp)
  | configure hfree =>
    rcases hfree with hnone | ⟨hentry, -⟩
    · exact Or.inr (Or.inl hnone)
    · exact Or.inr (Or.inr ⟨hentry, rfl⟩)
  | @commit request edit outcome hid =>
    obtain ⟨-, hentry, -⟩ := hp.pending edit rfl
    exact Or.inr (Or.inr ⟨hid ▸ hentry, rfl⟩)

theorem RuleStep.rule_kept {id : Uuid} {p p' : Pc} {v : RuleView}
    (h : RuleStep crates env d id p p' v) (hp : Reserves d p) (hv : v.entry ≠ none) {rule : Rule}
    (hrule : (d.state.view id).rule = some rule) : v.rule = some rule := by
  rcases h.rule_eq hp with hsame | hnone | ⟨hnone, -⟩
  · rw [hsame, hrule]
  · exact nomatch hnone.symm.trans hrule
  · exact absurd hnone hv

theorem RuleStep.rule_of_entry {id : Uuid} {p p' : Pc} {v : RuleView}
    (h : RuleStep crates env d id p p' v) (hp : Reserves d p)
    (hbefore : (d.state.view id).entry ≠ none → (d.state.view id).rule.isSome = true)
    (hv : v.entry ≠ none) : v.rule.isSome = true := by
  cases h with
  | keep | unreserve => exact hbefore hv
  | configure hfree =>
    rcases hfree with hnone | ⟨hentry, -⟩
    · rw [hnone] at hbefore
      cases hbefore hv
    · exact absurd hentry hv
  | release => exact hbefore hv
  | refuse | stop | reserve => exact absurd rfl hv
  | launch hadmitted hrule => exact Option.isSome_iff_exists.mpr ⟨_, hrule⟩
  | fail hid hcurrent =>
    subst hid
    rw [RuleView.launchFailed_rule]
    exact hbefore fun hnone ↦ nomatch hnone.symm.trans hcurrent
  | finish hid hcurrent =>
    subst hid
    exact hbefore fun hnone ↦ nomatch hnone.symm.trans hcurrent
  | stopFailed hid => exact hp.rule id (congrArg some hid)
  | commit => rfl
  | scan =>
    rw [RuleView.scan_rule]
    exact hbefore fun hnone ↦ hv (by rw [RuleView.scan_of_none hnone, hnone])

@[simp] theorem drawn_foldl_cleanup (attempts : List ManagedAttempt) (d : Daemon) :
    (attempts.foldl Daemon.cleanup d).drawn = d.drawn := by
  induction attempts generalizing d with
  | nil => rfl
  | cons attempt attempts ih => exact ih (d.cleanup attempt)

theorem drawn_enter (caller : Caller) :
    (exec crates managed env d (.start caller .enter)).1.drawn = env.attemptId :: d.drawn := by
  simp only [exec, execStart]
  split <;> rfl

theorem drawn_exec (crates : Crates) (managed : Bool) (env : Env) (d : Daemon) (p : Pc) :
    (exec crates managed env d p).1.drawn = d.drawn ∨
      ∃ caller, p = .start caller .enter ∧
        (exec crates managed env d p).1.drawn = env.attemptId :: d.drawn := by
  cases p with
  | start caller pc =>
    cases pc with
    | enter => exact Or.inr ⟨caller, rfl, drawn_enter caller⟩
    | launch | spawned | launched | failed =>
      refine Or.inl ?_
      simp only [exec, execStart]
      repeat' split
      all_goals rfl
    | discard | publish => exact Or.inl rfl
  | idle | editEnter =>
    refine Or.inl ?_
    simp only [exec, execEditEnter]
    repeat' split
    all_goals rfl
  | stop request pc =>
    refine Or.inl ?_
    cases pc <;> simp only [exec, execStop]
    · split <;> rfl
    · rfl
    · rfl
  | edit request edit pc =>
    refine Or.inl ?_
    cases pc with
    | save =>
      simp only [exec, execEdit]
      split
      · rfl
      · split <;> rfl
    | cleanup | stopFailed | publishFailed | publishStopped | finish => rfl
  | maintain poller pc =>
    refine Or.inl ?_
    cases pc with
    | scan => exact drawn_foldl_cleanup ..
    | publish events retry => cases events <;> rfl
  | returned | dispatch | supervise => exact Or.inl rfl

theorem drawn_subset_exec (p : Pc) : d.drawn ⊆ (exec crates managed env d p).1.drawn := by
  rcases drawn_exec crates managed env d p with h | ⟨caller, -, h⟩
  · rw [h]
    exact List.Subset.refl _
  · rw [h]
    exact List.subset_cons_self _ _

theorem launching_before (hcrates : crates.Faithful) {p : Pc} {launch : Launch}
    (h : (exec crates managed env d p).2.launching = some launch) :
    p.launching = some launch ∨
      ∃ caller, p = .start caller .enter ∧ launch.attemptId = env.attemptId ∧
        (exec crates managed env d p).2 = .start caller (.launch launch) := by
  have hstep := exec_ruleStep hcrates managed env d launch.id p
  generalize (exec crates managed env d p).2 = p' at h hstep ⊢
  generalize (exec crates managed env d p).1.state.view launch.id = v at hstep
  cases hstep with
  | keep hlaunch => exact Or.inl (hlaunch launch h rfl)
  | @launch caller rule =>
    have hlaunch : ⟨launch.id, rule, env.attemptId⟩ = launch := Option.some.inj h
    exact Or.inr ⟨caller, rfl, (congrArg Launch.attemptId hlaunch).symm, by rw [hlaunch]⟩
  | fail hid hcurrent hlaunch => cases hlaunch.symm.trans h
  | release | refuse | stop => simp at h
  | configure | finish | reserve | stopFailed | commit | unreserve | scan => cases h

/-! ## The invariant -/

/-- What holds of the entries: markers are drawn, and an entry belongs to a rule. -/
structure Marked (d : Daemon) : Prop where
  drawn : ∀ id marker, (d.state.view id).entry = some (.starting marker) → marker ∈ d.drawn
  rule : ∀ id, (d.state.view id).entry ≠ none → (d.state.view id).rule.isSome = true

/-- What a thread in the middle of a launch can rely on: its marker is drawn, and where it is still
the entry, that is under its own id and the rule there is the one of the launch. -/
structure Launches (d : Daemon) (p : Pc) : Prop where
  drawn : ∀ launch, p.launching = some launch → launch.attemptId ∈ d.drawn
  own : ∀ launch, p.launching = some launch → ∀ id,
    (d.state.view id).entry = some (.starting launch.attemptId) →
      id = launch.id ∧ (d.state.view id).rule = some launch.rule

/-- Two threads do not launch under the same marker. -/
def Distinct (p q : Pc) : Prop :=
  ∀ launch launch', p.launching = some launch → q.launching = some launch' →
    launch.attemptId ≠ launch'.attemptId

theorem Marked.own (hcrates : crates.Faithful) {p : Pc} (h : Marked d) (hp : Reserves d p) :
    Marked (exec crates managed env d p).1 := by
  have hstep := fun id ↦ exec_ruleStep hcrates managed env d id p
  refine ⟨fun id marker hentry ↦ ?_, fun id hentry ↦ (hstep id).rule_of_entry hp (h.rule id) hentry⟩
  rcases (hstep id).starting_before hentry with hbefore | ⟨caller, rule, rfl, rfl, -⟩
  · exact drawn_subset_exec p (h.drawn id marker hbefore)
  · rw [drawn_enter]
    exact List.mem_cons_self

/-- A launch that was under way keeps what it can rely on, in the sections of any thread. -/
theorem Launches.keep (hcrates : crates.Faithful) {p : Pc} (hfresh : Fresh env d p)
    (hp : Reserves d p) {launch : Launch} (hdrawn : launch.attemptId ∈ d.drawn)
    (hown : ∀ id, (d.state.view id).entry = some (.starting launch.attemptId) →
      id = launch.id ∧ (d.state.view id).rule = some launch.rule) (id : Uuid)
    (hentry : ((exec crates managed env d p).1.state.view id).entry =
      some (.starting launch.attemptId)) :
    id = launch.id ∧ ((exec crates managed env d p).1.state.view id).rule = some launch.rule := by
  have hstep := exec_ruleStep hcrates managed env d id p
  rcases hstep.starting_before hentry with hbefore | ⟨caller, rule, rfl, hmarker, -⟩
  · obtain ⟨hid, hrule⟩ := hown id hbefore
    exact ⟨hid, hstep.rule_kept hp (fun hnone ↦ nomatch hnone.symm.trans hentry) hrule⟩
  · exact absurd (hmarker ▸ hdrawn) (hfresh rfl)

theorem Launches.next (hcrates : crates.Faithful) {p : Pc} (hfresh : Fresh env d p)
    (hmarked : Marked d) (hp : Reserves d p) (h : Launches d p) :
    Launches (exec crates managed env d p).1 (exec crates managed env d p).2 := by
  refine ⟨fun launch hlaunch ↦ ?_, fun launch hlaunch id hentry ↦ ?_⟩
  · rcases launching_before hcrates hlaunch with hbefore | ⟨caller, rfl, hmarker, -⟩
    · exact drawn_subset_exec p (h.drawn launch hbefore)
    · rw [drawn_enter, hmarker]
      exact List.mem_cons_self
  · rcases launching_before hcrates hlaunch with hbefore | ⟨caller, rfl, hmarker, hnext⟩
    · exact Launches.keep hcrates hfresh hp (h.drawn launch hbefore)
        (h.own launch hbefore) id hentry
    · have hstep := exec_ruleStep hcrates managed env d id
        (.start caller .enter)
      rcases hstep.starting_before hentry with hbefore | ⟨caller', rule, -, -, hp', -, hrule⟩
      · exact absurd (hmarked.drawn id _ hbefore) (hmarker ▸ hfresh rfl)
      · have hlaunch : launch = ⟨id, rule, env.attemptId⟩ := by
          have hpc := hnext.symm.trans hp'
          simp only [Pc.start.injEq, StartPc.launch.injEq] at hpc
          exact hpc.2
        exact ⟨congrArg Launch.id hlaunch.symm, by rw [hrule, hlaunch]⟩

theorem Launches.frame (hcrates : crates.Faithful) {p q : Pc} (hfresh : Fresh env d p)
    (hp : Reserves d p) (h : Launches d q) :
    Launches (exec crates managed env d p).1 q :=
  ⟨fun launch hlaunch ↦ drawn_subset_exec p (h.drawn launch hlaunch),
    fun launch hlaunch ↦ Launches.keep hcrates hfresh hp (h.drawn launch hlaunch)
      (h.own launch hlaunch)⟩

theorem Distinct.own (hcrates : crates.Faithful) {p q : Pc} (hfresh : Fresh env d p)
    (hq : Launches d q) (h : Distinct p q) : Distinct (exec crates managed env d p).2 q := by
  intro launch launch' hlaunch hlaunch'
  rcases launching_before hcrates hlaunch with hbefore | ⟨caller, rfl, hmarker, -⟩
  · exact h launch launch' hbefore hlaunch'
  · intro hsame
    exact hfresh rfl (hmarker ▸ hsame ▸ hq.drawn launch' hlaunch')

/-- **Markers are never reused.** The invariant of the reservations and the markers, over the
sections of every thread. -/
structure Sound (w : System) : Prop where
  reservations : Reservations w
  markers : World.Consistent Marked Launches Distinct w

theorem Sound.next (hcrates : crates.Faithful) {w : System} (h : Sound w) {a : Choice}
    (ha : FreshId w a) : Sound (System.step crates managed w a) := by
  refine ⟨h.reservations.step hcrates a, ?_⟩
  exact World.Consistent.step
    (C := fun env d p ↦ Fresh env d p ∧ Reserves d p)
    (fun p q hpq l l' hl hl' heq ↦ hpq l' l hl' hl heq.symm)
    (fun env d p hC hG hL ↦ ⟨hG.own hcrates hC.2, hL.next hcrates hC.1 hG hC.2⟩)
    (fun env d p q hC hG _ hq hpq ↦ ⟨hq.frame hcrates hC.1 hC.2, hpq.own hcrates hC.1 hq⟩)
    h.markers ⟨ha, h.reservations.consistent.thread a.1⟩

/-- The state of a daemon that has just been opened has nothing running. -/
structure State.Idle (s : State) : Prop where
  running : s.running = ∅
  diagnostics : s.diagnostics = ∅
  manuallyStopped : s.manuallyStopped = ∅
  editing : s.editing = ∅

theorem idle_of_open {faults : OpenFaults} {directory : Directory} {s : State}
    (h : openState crates faults directory = .ok s) : s.Idle := by
  unfold openState at h
  split at h
  · cases h
  · cases h
    exact ⟨rfl, rfl, rfl, rfl⟩

theorem Sound.opened {s : State} (hs : s.Idle) : Sound (System.opened s) := by
  have hentry : ∀ id, (s.view id).entry = none := by
    intro id
    simp [State.view, hs.running]
  refine ⟨.opened hs.editing, ⟨⟨fun id marker h ↦ ?_, fun id h ↦ ?_⟩, fun t ↦ ⟨?_, ?_⟩,
    fun t u _ ↦ ?_⟩⟩
  · cases (hentry id).symm.trans h
  · exact absurd (hentry id) h
  · intro launch h; cases h
  · intro launch h; cases h
  · intro launch launch' h; cases h

/-- **Every run with fresh UUIDs is sound.** -/
theorem Sound.run (hcrates : crates.Faithful) {w : System} (h : Sound w) {as : List Choice}
    (has : Along (System.step crates managed) FreshId w as) :
    Sound (Concurrency.run (System.step crates managed) w as) :=
  invariant_along _ (fun _ _ h ha ↦ h.next hcrates ha) h has

end TunnelDeck
