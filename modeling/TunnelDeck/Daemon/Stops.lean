import TunnelDeck.Daemon.Markers

/-!
# Stops are final

A stop takes the runtime entry of its rule and marks the rule as manually stopped. Two things may
try to bring the rule back: a start that the daemon makes by itself, and a launch that was already
under way. The first finds the mark. The second finds that its marker is gone, and because markers
are never reused it never comes back.

## Main results

* `stop_is_final`: after a stop the rule has no entry until a client asks for a start of it, and
  no launch that the stop has overtaken ever writes again, not even after that.
-/

namespace TunnelDeck

open Concurrency

variable {crates : Crates} {managed : Bool} {env : Env} {d : Daemon}

/-- A thread at this point is about to enter the first section of a start that a client asked
for. -/
def Pc.startsManually (crates : Crates) (id : Uuid) (s : State) : Pc → Prop
  | .start (.client request) .enter => ruleId crates request.payload s = .ok id
  | _ => False

instance (id : Uuid) (s : State) (p : Pc) : Decidable (p.startsManually crates id s) := by
  unfold Pc.startsManually
  split <;> infer_instance

/-- The next section is the first of a manual start of the rule. -/
def StartsManually (crates : Crates) (id : Uuid) (w : System) (a : Choice) : Prop :=
  (w.thread a.1).startsManually crates id w.shared.state

instance (id : Uuid) (w : System) (a : Choice) : Decidable (StartsManually crates id w a) :=
  inferInstanceAs (Decidable (Pc.startsManually ..))

/-! ## The rule after the stop -/

/-- The rule is stopped: it has no entry and no start of the daemon's own will give it one. -/
structure RuleView.Stopped (v : RuleView) : Prop where
  entry : v.entry = none
  stopped : v.stopped
  editing : ¬ v.editing

theorem Admitted.startsManually (hcrates : crates.Faithful) {id : Uuid} {caller : Caller}
    (h : Admitted crates d id caller) (hstopped : (d.state.view id).Stopped)
    (hp : Reserves d (.start caller .enter)) :
    (Pc.start caller .enter).startsManually crates id d.state := by
  have hselects := h.selects
  have hwanted : caller.automatic ≠ true := fun hauto ↦ h.wanted hauto hstopped.stopped
  cases caller with
  | client request => exact hselects
  | retry poller target rest => exact absurd rfl hwanted
  | restore target rest => exact absurd rfl hwanted
  | edit request edit saved =>
    -- the edit holds the reservation of the rule, but the rule is not reserved
    have hediting := hp.editing edit.id rfl
    rw [Caller.payload, ruleId_selectId hcrates] at hselects
    rw [Except.ok.inj hselects] at hediting
    exact absurd hediting hstopped.editing

theorem RuleStep.stopped (hcrates : crates.Faithful) {id : Uuid} {p p' : Pc} {v : RuleView}
    (h : RuleStep crates env d id p p' v) (hstopped : (d.state.view id).Stopped)
    (hp : Reserves d p) (hmanual : ¬ p.startsManually crates id d.state) : v.Stopped := by
  have hnone := hstopped.entry
  cases h with
  | keep => exact hstopped
  | configure => exact ⟨hnone, hstopped.stopped, hstopped.editing⟩
  | release hadmitted | refuse hadmitted | launch hadmitted =>
    exact absurd (hadmitted.startsManually hcrates hstopped hp) hmanual
  | fail hid hcurrent | finish hid hcurrent =>
    -- the marker of the launch went with the entry
    subst hid
    exact nomatch hnone.symm.trans hcurrent
  | stop => exact ⟨rfl, trivial, hstopped.editing⟩
  | reserve hid hrule hediting hentry => exact nomatch hnone.symm.trans hentry
  | @stopFailed request edit error hid | @commit request edit outcome hid
  | @unreserve request edit reply hid =>
    exact absurd (hp.editing id (congrArg some hid)) hstopped.editing
  | scan =>
    rw [RuleView.scan_of_none hnone]
    exact hstopped

theorem stopped_of_stop {request : Request} {id : Uuid} {entry : Option Attempt}
    (h : (stopEnter crates request.payload d.state).1 = .ok (id, entry)) :
    ((exec crates managed env d (.stop request .enter)).1.state.view id).Stopped := by
  rcases hstop : stopEnter crates request.payload d.state with ⟨result, s⟩
  obtain rfl : result = .ok (id, entry) := by rw [← h, hstop]
  rcases stopEnter_spec hstop with ⟨failure, hfailure, -⟩ | ⟨j, -, hediting, -, hresult, hs⟩
  · cases hfailure
  · obtain rfl : id = j := congrArg Prod.fst (Except.ok.inj hresult)
    simp only [exec, execStop, hstop, Daemon.setState, hs, view_stopped]
    exact ⟨rfl, trivial, hediting⟩

/-! ## The launches that the stop has overtaken -/

/-- The launch was made before and its marker is gone. -/
structure Launch.Stale (launch : Launch) (d : Daemon) : Prop where
  drawn : launch.attemptId ∈ d.drawn
  gone : ¬ launch.current d.state

/-- A marker that is gone never comes back: no start draws it again. -/
theorem Launch.Stale.next (hcrates : crates.Faithful) {launch : Launch} (h : launch.Stale d)
    {p : Pc} (hfresh : Fresh env d p) : launch.Stale (exec crates managed env d p).1 := by
  refine ⟨drawn_subset_exec p h.drawn, fun hcurrent ↦ ?_⟩
  have hstep := exec_ruleStep hcrates managed env d launch.id p
  rcases hstep.starting_before hcurrent with hbefore | ⟨caller, rule, rfl, hmarker, -⟩
  · exact h.gone hbefore
  · exact hfresh rfl (hmarker ▸ h.drawn)

theorem Launch.Stale.state {launch : Launch} (h : launch.Stale d) {p : Pc}
    (hp : p.launching = some launch) : (exec crates managed env d p).1.state = d.state := by
  cases p with
  | start caller pc =>
    cases pc with
    | launch l =>
      simp only [exec, execStart]
      split
      · split <;> rfl
      · rfl
    | spawned l process =>
      simp only [exec, execStart]
      split <;> rfl
    | launched l attempt =>
      obtain rfl : l = launch := Option.some.inj hp
      simp only [exec, execStart, startFinish_of_not_current h.gone, Bool.false_eq_true, if_false]
      split <;> rfl
    | failed l error =>
      obtain rfl : l = launch := Option.some.inj hp
      simp only [exec, execStart, startFailed_of_not_current h.gone]
      rfl
    | enter | discard | publish => cases hp
  | _ => cases hp

/-! ## Runs after a stop -/

/-- **A stop is final.** After the section of a stop the rule has no entry until the first section
of a manual start of it. A launch of the rule that was under way at the stop leaves the state alone
for ever. -/
theorem stop_is_final (hcrates : crates.Faithful) {faults : OpenFaults} {directory : Directory}
    {s : State} (hopen : openState crates faults directory = .ok s) {as : List Choice}
    (has : Along (System.step crates managed) FreshId (System.opened s) as) {w : System}
    (hw : run (System.step crates managed) (System.opened s) as = w) {a : Choice}
    {request : Request} (hthread : w.thread a.1 = .stop request .enter) {id : Uuid}
    {entry : Option Attempt}
    (hstop : (stopEnter crates request.payload w.shared.state).1 = .ok (id, entry)) :
    (∀ bs, Along (System.step crates managed) (fun w b ↦ ¬ StartsManually crates id w b)
        (System.step crates managed w a) bs →
      ((run (System.step crates managed) (System.step crates managed w a)
        bs).shared.state.view id).entry = none) ∧
    ∀ t launch, (w.thread t).launching = some launch → launch.id = id →
      ∀ bs, Along (System.step crates managed) FreshId (System.step crates managed w a) bs →
        ∀ env p, p.launching = some launch →
          (exec crates managed env (run (System.step crates managed)
            (System.step crates managed w a) bs).shared p).1.state =
          (run (System.step crates managed) (System.step crates managed w a) bs).shared.state := by
  have hsound : Sound w := hw ▸ (Sound.opened (idle_of_open hopen)).run hcrates has
  have hstopped : ((System.step crates managed w a).shared.state.view id).Stopped := by
    rw [World.step_shared, hthread]
    exact stopped_of_stop hstop
  refine ⟨fun bs hbs ↦ ?_, fun t launch hlaunch hid bs hbs env p hp ↦ ?_⟩
  · have hfinal := invariant_along (System.step crates managed)
      (I := fun w ↦ Reservations w ∧ (w.shared.state.view id).Stopped)
      (fun w b hI hb ↦ ⟨hI.1.step hcrates b,
        (exec_ruleStep hcrates managed b.2 w.shared id (w.thread b.1)).stopped hcrates hI.2
          (hI.1.consistent.thread b.1) hb⟩)
      ⟨hsound.reservations.step hcrates a, hstopped⟩ hbs
    exact hfinal.2.entry
  · have hstale : launch.Stale (System.step crates managed w a).shared := by
      refine ⟨drawn_subset_exec _ ((hsound.markers.thread t).drawn launch hlaunch), ?_⟩
      rw [Launch.current, hid]
      exact fun hcurrent ↦ nomatch hstopped.entry.symm.trans hcurrent
    have hfinal := invariant_along (System.step crates managed)
      (I := fun w ↦ launch.Stale w.shared) (fun w b hI hb ↦ hI.next hcrates hb) hstale hbs
    exact hfinal.state hp

/-! ### An example -/

/-- A client starts the rule by its name, and the guardian is spawned. A second client is about to
stop it. -/
def exampleStarting : List Choice :=
  [(0, { call := some (.request ⟨.forwardStart, selectName "database"⟩) }),
    (0, { attemptId := 1 }), (0, {}),
    (1, { call := some (.request ⟨.forwardStop, selectName "database"⟩) })]

/-- The guardian reports success, the start finds its marker gone and cleans up, and the supervisor
restores the rules. -/
def exampleOvertaken : List Choice :=
  [(0, {}), (0, {}), (0, {}), (2, { call := some .supervise }), (2, {}), (2, { attemptId := 2 })]

/-- The example rule stays without an entry, whatever the overtaken launch and the supervisor do. -/
theorem stop_is_final_exampleStarting :
    ((run (System.step exampleCrates true) (System.step exampleCrates true
        (run (System.step exampleCrates true) exampleOpened exampleStarting) (1, {}))
      exampleOvertaken).shared.state.view exampleRule.id).entry = none :=
  (stop_is_final exampleCrates_faithful exampleOpened_open (by decide +kernel)
    (show run (System.step exampleCrates true) exampleOpened exampleStarting = _ from rfl)
    (show (run (System.step exampleCrates true) exampleOpened exampleStarting).thread 1 =
      .stop ⟨.forwardStop, selectName "database"⟩ .enter from rfl)
    (show _ = Except.ok (exampleRule.id, some (.starting 1)) by decide +kernel)).1
    exampleOvertaken (by decide +kernel)

end TunnelDeck
