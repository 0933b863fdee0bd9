import TunnelDeck.Daemon.Ownership
import TunnelDeck.Daemon.Stops

/-!
# Automatic starts

`maintain` takes a reconnect that is due out of the runtime entries and starts the rule in a later
section; the supervisor starts the rules to restore one after the other. Between the two the rule
has no entry and lives on only in the list of the thread. The automatic start then finds it
manually stopped or being edited, or its local port is taken, and each of these exits leaves the
entries in another way.

The invariant of this module is that a rule that waits for a reconnect or is active is not manually
stopped, so the first exit is not taken by accident. The last one loses the rule: nothing records
that the port was taken.

## Main results

* `automatic_start_kept`: a rule that is to be started automatically is not lost, if it is left
  alone and the port is free when its start probes it.
* `exampleProbe_lost`: a reconnect that is due is lost when the port is taken.
-/

namespace TunnelDeck

open Concurrency

variable {crates : Crates} {managed : Bool} {env : Env} {d : Daemon}

/-! ## The starts that are still to come -/

/-- The automatic starts after the one that is under way. -/
def Caller.rest : Caller → List Uuid
  | .retry _ _ rest | .restore _ rest => rest
  | .client _ | .edit _ _ _ => []

/-- The automatic starts from the one that is about to begin. -/
def Caller.upcoming : Caller → List Uuid
  | .retry _ id rest | .restore id rest => id :: rest
  | .client _ | .edit _ _ _ => []

/-- The rules that a thread has still to start automatically. -/
def Pc.upcoming : Pc → List Uuid
  | .maintain _ (.publish _ retry) => retry
  | .start caller .enter => caller.upcoming
  | .start caller _ => caller.rest
  | _ => []

theorem upcoming_nextRetry (poller : Poller) (ids : List Uuid) :
    (nextRetry poller ids).upcoming = ids := by
  cases ids <;> cases poller <;> rfl

theorem upcoming_nextRestore (ids : List Uuid) : (nextRestore ids).upcoming = ids := by
  cases ids <;> rfl

theorem upcoming_resume (crates : Crates) (caller : Caller) (reply : Reply) :
    (caller.resume crates reply).upcoming = caller.rest := by
  cases caller with
  | client request => rfl
  | retry poller id rest => exact upcoming_nextRetry poller rest
  | restore id rest => exact upcoming_nextRestore rest
  | edit request edit saved => rfl

theorem upcoming_execStart (caller : Caller) (pc : StartPc) :
    (execStart crates managed env d caller pc).2.upcoming = caller.rest := by
  rcases execStart_next crates managed env d caller pc with ⟨reply, h⟩ | ⟨pc', h, hne⟩
  · rw [h]
    exact upcoming_resume ..
  · rw [h]
    cases pc' with
    | enter => exact absurd rfl hne
    | launch | spawned | launched | failed | discard | publish => rfl

/-- The section is the first of an automatic start of the rule. -/
def StartsAutomatically (id : Uuid) : Pc → Prop
  | .start caller .enter => caller.automatic = true ∧ caller.target = some id
  | _ => False

instance (id : Uuid) (p : Pc) : Decidable (StartsAutomatically id p) := by
  unfold StartsAutomatically
  split <;> infer_instance

theorem startsAutomatically_iff {id : Uuid} {p : Pc} : StartsAutomatically id p ↔
    ∃ caller, p = .start caller .enter ∧ caller.automatic = true ∧ caller.target = some id := by
  constructor
  · intro h
    unfold StartsAutomatically at h
    split at h
    · exact ⟨_, rfl, h⟩
    · exact h.elim
  · rintro ⟨caller, rfl, h⟩
    exact h

theorem upcoming_exec (crates : Crates) (managed : Bool) (env : Env) (d : Daemon) {p : Pc}
    {id : Uuid} (h : id ∈ p.upcoming) :
    id ∈ (exec crates managed env d p).2.upcoming ∨ StartsAutomatically id p := by
  cases p with
  | maintain poller pc =>
    refine Or.inl ?_
    cases pc with
    | scan => cases h
    | publish events retry =>
      cases events with
      | nil =>
        simp only [exec, execMaintain]
        rw [upcoming_nextRetry]
        exact h
      | cons event events => exact h
  | start caller pc =>
    have hafter : (exec crates managed env d (.start caller pc)).2.upcoming = caller.rest :=
      upcoming_execStart caller pc
    rw [hafter]
    cases pc with
    | enter =>
      cases caller with
      | client request => cases h
      | edit request edit saved => cases h
      | retry poller target rest =>
        rcases List.mem_cons.mp h with rfl | h
        · exact Or.inr ⟨rfl, rfl⟩
        · exact Or.inl h
      | restore target rest =>
        rcases List.mem_cons.mp h with rfl | h
        · exact Or.inr ⟨rfl, rfl⟩
        · exact Or.inl h
    | launch | spawned | launched | failed | discard | publish => exact Or.inl h
  | _ => cases h

/-! ## Errors are on record -/

/-- A rule that waits for a reconnect or has failed has an error to show. -/
def RuleView.Explained (v : RuleView) : Prop :=
  ((∃ due, v.entry = some (.reconnecting due)) ∨ v.entry = some .failed) →
    ∃ info error, v.info = some info ∧ info.lastError = some error

namespace RuleView

theorem explained_of_info {v : RuleView} {info : RuntimeInfo} {error : LastError}
    (hinfo : v.info = some info) (herror : info.lastError = some error) : v.Explained :=
  fun _ ↦ ⟨info, error, hinfo, herror⟩

theorem launchFailed_explained (v : RuleView) (editOwned : Bool) (launch : Launch)
    (error : ProcessError) (now : ℕ) : (v.launchFailed editOwned launch error now).Explained := by
  unfold launchFailed
  dsimp only
  split
  · exact explained_of_info rfl rfl
  · exact explained_of_info rfl rfl

theorem exit_explained (v : RuleView) (now : ℕ) (attemptId : Uuid) :
    (v.exit now attemptId).Explained := by
  unfold exit
  dsimp only
  split
  · exact explained_of_info rfl rfl
  · exact explained_of_info rfl rfl

theorem scan_explained {v : RuleView} (h : v.Explained) (exited : ℕ → Bool) (now : ℕ) :
    (v.scan exited now).Explained := by
  unfold scan
  split
  · rename_i attempt hentry
    split
    · exact v.exit_explained now attempt.attemptId
    · rintro (⟨due, hdue⟩ | hfailed)
      · exact nomatch hentry.symm.trans hdue
      · exact nomatch hentry.symm.trans hfailed
  · split
    · rintro (⟨due, hdue⟩ | hfailed)
      · cases hdue
      · cases hfailed
    · exact h
  · exact h

end RuleView

theorem RuleStep.explained {id : Uuid} {p p' : Pc} {v : RuleView}
    (h : RuleStep crates env d id p p' v) (hbefore : (d.state.view id).Explained) :
    v.Explained := by
  cases h with
  | keep | configure | release | commit | unreserve => exact hbefore
  | refuse | stop | reserve | launch =>
    rintro (⟨due, hdue⟩ | hfailed)
    · cases hdue
    · cases hfailed
  | @fail caller launch error =>
    exact (d.state.view id).launchFailed_explained caller.editOwned launch error env.now
  | @finish caller launch attempt =>
    rintro (⟨due, hdue⟩ | hfailed)
    · cases attempt <;> cases hdue
    · cases attempt <;> cases hfailed
  | stopFailed => exact RuleView.explained_of_info rfl rfl
  | scan => exact RuleView.scan_explained hbefore env.exited env.now

/-! ## Rules that run are not stopped -/

/-- A rule that is active or waits for a reconnect. -/
def RuleView.Wanted (v : RuleView) : Prop :=
  (∃ attempt, v.entry = some (.active attempt)) ∨ ∃ due, v.entry = some (.reconnecting due)

/-- No rule that is active or waits for a reconnect is manually stopped. -/
def Daemon.Unstopped (d : Daemon) : Prop :=
  ∀ id, (d.state.view id).Wanted → ¬ (d.state.view id).stopped

/-- The rule of a launch that is still wanted is not manually stopped. An edit is the exception: it
has marked its rule as stopped until its restart succeeds. -/
def Unhindered (d : Daemon) (p : Pc) : Prop :=
  ∀ launch, p.launching = some launch → p.reserved = none → launch.current d.state →
    ¬ (d.state.view launch.id).stopped

theorem RuleStep.stopped_before {id : Uuid} {p p' : Pc} {v : RuleView}
    (h : RuleStep crates env d id p p' v) (hstopped : v.stopped) (hentry : v.entry ≠ none) :
    (d.state.view id).stopped := by
  cases h with
  | keep | configure | stopFailed | commit | unreserve => exact hstopped
  | release | launch => exact hstopped.1
  | refuse | stop | reserve => exact absurd rfl hentry
  | fail => simpa using hstopped
  | finish => exact hstopped.1
  | scan => simpa using hstopped

theorem launchFailed_reconnecting {v : RuleView} {editOwned : Bool} {launch : Launch}
    {error : ProcessError} {now due : ℕ}
    (h : (v.launchFailed editOwned launch error now).entry = some (.reconnecting due)) :
    editOwned = false := by
  cases editOwned with
  | false => rfl
  | true =>
    simp only [RuleView.launchFailed, Bool.not_true, Bool.and_false, Bool.false_eq_true, if_false,
      if_true] at h
    cases h

/-- A rule becomes active or waits for a reconnect because it did before, or because a launch of a
start that is not an edit's has ended while it was wanted. -/
theorem RuleStep.wanted_before {id : Uuid} {p p' : Pc} {v : RuleView}
    (h : RuleStep crates env d id p p' v) (hv : v.Wanted) :
    (d.state.view id).Wanted ∨ ¬ v.stopped ∨ ∃ launch, p.launching = some launch ∧
      p.reserved = none ∧ launch.id = id ∧ launch.current d.state := by
  cases h with
  | keep | configure | release | commit | unreserve => exact Or.inl hv
  | refuse | stop | reserve | launch | stopFailed =>
    rcases hv with ⟨attempt, h⟩ | ⟨due, h⟩ <;> cases h
  | @fail caller launch error _ hid hcurrent hlaunch hreserved =>
    refine Or.inr (Or.inr ⟨launch, rfl, ?_, hid, hcurrent⟩)
    have howned : caller.editOwned = false := by
      rcases hv with ⟨attempt, h⟩ | ⟨due, h⟩
      · rcases (d.state.view id).launchFailed_entry caller.editOwned launch error env.now with
          ⟨due, h'⟩ | h' | ⟨-, h'⟩ <;> cases h'.symm.trans h
      · exact launchFailed_reconnecting h
    cases caller with
    | edit => cases howned
    | client | retry | restore => rfl
  | @finish caller launch attempt hid hcurrent =>
    cases caller with
    | edit => exact Or.inr (Or.inl fun hstopped ↦ hstopped.2 rfl)
    | client | retry | restore => exact Or.inr (Or.inr ⟨launch, rfl, rfl, hid, hcurrent⟩)
  | scan =>
    refine Or.inl ?_
    rcases (d.state.view id).scan_entry env.exited env.now with h | ⟨attempt, h, -⟩ | ⟨due, h, -⟩
    · rwa [RuleView.Wanted, h] at hv
    · exact Or.inl ⟨attempt, h⟩
    · exact Or.inr ⟨due, h⟩

theorem Daemon.Unstopped.own (hcrates : crates.Faithful) {p : Pc} (h : d.Unstopped)
    (hp : Unhindered d p) : (exec crates managed env d p).1.Unstopped := by
  intro id hwanted hstopped
  have hstep := exec_ruleStep hcrates managed env d id p
  have hentry : ((exec crates managed env d p).1.state.view id).entry ≠ none := by
    rcases hwanted with ⟨attempt, h⟩ | ⟨due, h⟩ <;> rw [h] <;> exact nofun
  have hbefore := hstep.stopped_before hstopped hentry
  rcases hstep.wanted_before hwanted with hwanted | hnot | ⟨launch, hlaunch, hfree, rfl, hcurrent⟩
  · exact h id hwanted hbefore
  · exact hnot hstopped
  · exact hp launch hlaunch hfree hcurrent hbefore

/-- A launch that was wanted keeps its rule from being stopped, in the sections of any thread. -/
theorem Unhindered.keep (hcrates : crates.Faithful) {p : Pc} (hfresh : Fresh env d p)
    {launch : Launch} (hdrawn : launch.attemptId ∈ d.drawn)
    (h : launch.current d.state → ¬ (d.state.view launch.id).stopped)
    (hcurrent : launch.current (exec crates managed env d p).1.state) :
    ¬ ((exec crates managed env d p).1.state.view launch.id).stopped := by
  intro hstopped
  have hstep := exec_ruleStep hcrates managed env d launch.id p
  have hbefore := hstep.stopped_before hstopped fun hnone ↦ nomatch hnone.symm.trans hcurrent
  rcases hstep.starting_before hcurrent with hentry | ⟨caller, rule, rfl, hmarker, -⟩
  · exact h hentry hbefore
  · exact hfresh rfl (hmarker ▸ hdrawn)

theorem Unhindered.frame (hcrates : crates.Faithful) {p q : Pc} (hfresh : Fresh env d p)
    (hq : Launches d q) (h : Unhindered d q) : Unhindered (exec crates managed env d p).1 q :=
  fun launch hlaunch hfree ↦
    Unhindered.keep hcrates hfresh (hq.drawn launch hlaunch) (h launch hlaunch hfree)

theorem reserved_execStart (caller : Caller) (pc : StartPc) :
    (execStart crates managed env d caller pc).2.reserved = caller.reserved := by
  rcases execStart_next crates managed env d caller pc with ⟨reply, h⟩ | ⟨pc', h, -⟩
  · rw [h]
    exact reserved_resume ..
  · rw [h]
    rfl

theorem Unhindered.next (hcrates : crates.Faithful) {p : Pc} (hfresh : Fresh env d p)
    (hp : Launches d p) (h : Unhindered d p) :
    Unhindered (exec crates managed env d p).1 (exec crates managed env d p).2 := by
  intro launch hlaunch hfree hcurrent
  rcases launching_before hcrates hlaunch with hbefore | ⟨caller, rfl, hmarker, hnext⟩
  · have hsame : p.reserved = none := by
      cases p with
      | start caller pc => exact (reserved_execStart caller pc).symm.trans hfree
      | _ => cases hbefore
    exact Unhindered.keep hcrates hfresh (hp.drawn launch hbefore) (h launch hbefore hsame) hcurrent
  · -- the start has just taken back the stop, or has seen that there is none
    have hstep := exec_ruleStep hcrates managed env d launch.id (.start caller .enter)
    rw [hnext] at hstep
    have hcaller : caller.reserved = none := by
      rw [← hfree, hnext]
      rfl
    generalize (exec crates managed env d (.start caller .enter)).1.state.view launch.id = v
      at hstep ⊢
    generalize hp' : Pc.start caller (.launch launch) = p' at hstep
    cases hstep with
    | keep hkeep => cases hkeep launch (hp' ▸ rfl) rfl
    | release | refuse =>
      have hnone := congrArg Pc.launching hp'
      rw [(resting_resume ..).launching] at hnone
      cases hnone
    | @launch _ rule hadmitted =>
      intro hstopped
      cases caller with
      | client request => exact hstopped.2 rfl
      | retry poller id rest => exact hadmitted.wanted rfl hstopped.1
      | restore id rest => exact hadmitted.wanted rfl hstopped.1
      | edit request edit saved => cases hcaller

/-- The invariant of the rules that run. -/
structure Wanting (w : System) : Prop where
  sound : Sound w
  shared : w.shared.Unstopped
  threads : ∀ t, Unhindered w.shared (w.thread t)
  explained : ∀ id, (w.shared.state.view id).Explained

theorem Wanting.next (hcrates : crates.Faithful) {w : System} (h : Wanting w) {a : Choice}
    (ha : FreshId w a) : Wanting (System.step crates managed w a) := by
  have hlaunches := h.sound.markers.thread
  refine ⟨h.sound.next hcrates ha, h.shared.own hcrates (h.threads a.1), fun t ↦ ?_, fun id ↦ ?_⟩
  · by_cases ht : t = a.1
    · rw [ht, World.step_thread_self]
      exact (h.threads a.1).next hcrates ha (hlaunches a.1)
    · rw [World.step_thread_of_ne _ w ht]
      exact (h.threads t).frame hcrates ha (hlaunches t)
  · exact (exec_ruleStep hcrates managed a.2 w.shared id (w.thread a.1)).explained (h.explained id)

theorem Wanting.opened {s : State} (hs : s.Idle) : Wanting (System.opened s) := by
  have hnone : ∀ id, (s.view id).entry = none := by
    intro id
    simp [State.view, hs.running]
  refine ⟨.opened hs, fun id hwanted ↦ ?_, fun t launch hlaunch ↦ ?_, fun id hentry ↦ ?_⟩
  · rcases hwanted with ⟨attempt, h⟩ | ⟨due, h⟩ <;> cases (hnone id).symm.trans h
  · cases hlaunch
  · rcases hentry with ⟨due, h⟩ | h <;> cases (hnone id).symm.trans h

/-! ## The rule that a start was asked for -/

/-- A start that the daemon makes itself launches the rule it is meant for. -/
def Targeted (p : Pc) : Prop :=
  ∀ caller pc launch, p = .start caller pc → p.launching = some launch →
    ∀ id, caller.target = some id → launch.id = id

theorem Targeted.next (hcrates : crates.Faithful) {p : Pc} (h : Targeted p) :
    Targeted (exec crates managed env d p).2 := by
  intro caller pc launch hpc hlaunch id htarget
  rcases launching_before hcrates hlaunch with hbefore | ⟨caller', rfl, -, hnext⟩
  · cases p with
    | start caller' pc' =>
      obtain rfl : caller' = caller := by
        rcases execStart_next crates managed env d caller' pc' with ⟨reply, h⟩ | ⟨pc'', h, -⟩
        · have hnone : (execStart crates managed env d caller' pc').2.launching = none := by
            rw [h]
            exact (resting_resume ..).launching
          exact nomatch hnone.symm.trans hlaunch
        · exact (Pc.start.inj (h.symm.trans hpc)).1
      exact h caller' pc' launch rfl hbefore id htarget
    | _ => cases hbefore
  · obtain ⟨rfl, rfl⟩ := Pc.start.inj (hpc.symm.trans hnext)
    have hselects := (launch_of_enter hcrates hlaunch).1.selects
    have hpayload : caller.payload crates = selectId crates id := by
      cases caller with
      | client request => cases htarget
      | retry | restore | edit => cases htarget; rfl
    rw [hpayload, ruleId_selectId hcrates] at hselects
    exact (Except.ok.inj hselects).symm

theorem Targeted.step (hcrates : crates.Faithful) {w : System}
    (h : ∀ t, Targeted (w.thread t)) (a : Choice) :
    ∀ t, Targeted ((System.step crates managed w a).thread t) := by
  intro t
  by_cases ht : t = a.1
  · rw [ht, World.step_thread_self]
    exact (h a.1).next hcrates
  · rw [World.step_thread_of_ne _ w ht]
    exact h t

/-! ## A rule that is left alone -/

/-- The section leaves the rule alone: afterwards it is still there, neither manually stopped nor
being edited, and no client starts it while it has nothing running. -/
structure Undisturbed (crates : Crates) (managed : Bool) (id : Uuid) (w : System) (a : Choice) :
    Prop where
  rule : ((System.step crates managed w a).shared.state.view id).rule.isSome = true
  stopped : ¬ ((System.step crates managed w a).shared.state.view id).stopped
  editing : ¬ ((System.step crates managed w a).shared.state.view id).editing
  start : StartsManually crates id w a → (w.shared.state.view id).entry ≠ none ∧
    (w.shared.state.view id).entry ≠ some .failed

/-- If the section is an automatic start of the rule that probes the local port, the probe
succeeds. -/
def ProbeSucceeds (id : Uuid) (w : System) (a : Choice) : Prop :=
  StartsAutomatically id (w.thread a.1) → ∀ rule ∈ (w.shared.state.view id).rule,
    ((w.shared.state.view id).entry = none ∨ (w.shared.state.view id).entry = some .failed) →
    checkLocalPort a.2.bind rule = .ok ()

/-- A thread at this point is about to run the section of `maintain`. -/
def Pc.scans : Pc → Bool
  | .maintain _ .scan => true
  | _ => false

/-- The section after which the rule has to be started automatically: `maintain` takes its
reconnect, or the supervisor lists it among the rules to restore. -/
inductive Schedules (id : Uuid) (w : System) (a : Choice) : Prop
  | retry {due : ℕ} (hthread : (w.thread a.1).scans = true)
      (hentry : (w.shared.state.view id).entry = some (.reconnecting due)) (hdue : due ≤ a.2.now)
  | restore {rule : Rule} (hthread : w.thread a.1 = .supervise)
      (hrule : rule ∈ w.shared.state.rules) (hauto : rule.autoStart = true) (hid : rule.id = id)
      (hstopped : ¬ (w.shared.state.view id).stopped)

/-- A rule is not lost: it has an entry, or some thread has its automatic start still to come. -/
structure Pursued (id : Uuid) (w : System) : Prop where
  kept : (w.shared.state.view id).entry ≠ none ∨ ∃ t, id ∈ (w.thread t).upcoming
  rule : (w.shared.state.view id).rule.isSome = true
  stopped : ¬ (w.shared.state.view id).stopped
  editing : ¬ (w.shared.state.view id).editing

theorem admitted_of_startsAutomatically (hcrates : crates.Faithful) {id : Uuid} {caller : Caller}
    (hauto : caller.automatic = true) (htarget : caller.target = some id)
    (hstopped : ¬ (d.state.view id).stopped) (hediting : ¬ (d.state.view id).editing) :
    Admitted crates d id caller := by
  refine ⟨?_, fun h ↦ absurd h hediting, fun _ ↦ hstopped⟩
  cases caller with
  | client | edit => cases hauto
  | retry poller target rest | restore target rest =>
    cases htarget
    exact ruleId_selectId hcrates ..

theorem RuleStep.entry_none (hcrates : crates.Faithful) {id : Uuid} {p p' : Pc} {v : RuleView}
    (h : RuleStep crates env d id p p' v) (hp : Reserves d p) (htargeted : Targeted p)
    (hrule : (d.state.view id).rule.isSome = true) (hstopped : ¬ v.stopped)
    (hediting : ¬ (d.state.view id).editing) (hv : v.entry = none)
    (hmanual : p.startsManually crates id d.state →
      (d.state.view id).entry ≠ none ∧ (d.state.view id).entry ≠ some .failed)
    (hprobe : StartsAutomatically id p → ∀ rule ∈ (d.state.view id).rule,
      ((d.state.view id).entry = none ∨ (d.state.view id).entry = some .failed) →
      checkLocalPort env.bind rule = .ok ()) :
    ((d.state.view id).entry = none ∧
        ∀ caller, p = .start caller .enter → ¬ Admitted crates d id caller) ∨
      id ∈ p'.upcoming := by
  have hreserved : p.reserved ≠ some id := fun hid ↦ hediting (hp.editing id hid)
  cases h with
  | keep hlaunch hreserved' hadmitted => exact Or.inl ⟨hv, hadmitted⟩
  | configure => exact Or.inl ⟨hv, fun caller hcaller ↦ by cases hcaller⟩
  | release hadmitted hfound =>
    rcases hfound with hnone | ⟨entry, hentry, -⟩
    · rw [hnone] at hrule
      cases hrule
    · cases hentry.symm.trans hv
  | @refuse caller rule failure hadmitted hfound hentry hport =>
    -- the rule would be lost here; the assumptions rule out each kind of start
    have hselects := hadmitted.selects
    cases caller with
    | client request =>
      obtain ⟨hsome, hnot⟩ := hmanual hselects
      rcases hentry with hentry | hentry
      · exact absurd hentry hsome
      · exact absurd hentry hnot
    | edit request edit saved =>
      rw [Caller.payload, ruleId_selectId hcrates] at hselects
      exact absurd (congrArg some (Except.ok.inj hselects)) hreserved
    | retry poller target rest | restore target rest =>
      rw [Caller.payload, ruleId_selectId hcrates] at hselects
      have hok := hprobe ⟨rfl, congrArg some (Except.ok.inj hselects)⟩ rule hfound hentry
      cases hok.symm.trans hport
  | @fail caller launch error _ hid hcurrent =>
    subst hid
    rcases (d.state.view launch.id).launchFailed_entry caller.editOwned launch error env.now with
      ⟨due, h⟩ | h | ⟨howned, -⟩
    · cases h.symm.trans hv
    · cases h.symm.trans hv
    · cases caller with
      | edit request edit saved =>
        have hid : launch.id = edit.id := htargeted _ _ launch rfl rfl _ rfl
        exact absurd (congrArg some hid.symm) hreserved
      | client | retry | restore => cases howned
  | stop => exact absurd trivial hstopped
  | reserve => exact absurd trivial hstopped
  | commit hid | unreserve hid => exact absurd (congrArg some hid) hreserved
  | scan hretry =>
    rcases (d.state.view id).scan_entry env.exited env.now with h | ⟨attempt, -, -, h⟩ |
      ⟨due, hentry, hdue, -⟩
    · exact Or.inl ⟨h.symm.trans hv, fun caller hcaller ↦ by cases hcaller⟩
    · rw [h] at hv
      rcases (d.state.view id).exit_entry env.now attempt.attemptId with ⟨due, h⟩ | h <;>
        cases h.symm.trans hv
    · exact Or.inr (hretry.mpr ⟨due, hentry, hdue⟩)
  | launch | finish | stopFailed => cases hv

theorem Pursued.next (hcrates : crates.Faithful) {w : System} {id : Uuid} (h : Pursued id w)
    (hreservations : Reservations w) (htargeted : ∀ t, Targeted (w.thread t)) {a : Choice}
    (ha : Undisturbed crates managed id w a) (hprobe : ProbeSucceeds id w a) :
    Pursued id (System.step crates managed w a) := by
  refine ⟨?_, ha.rule, ha.stopped, ha.editing⟩
  by_cases hv : ((System.step crates managed w a).shared.state.view id).entry = none
  · refine Or.inr ?_
    have hstep := exec_ruleStep hcrates managed a.2 w.shared id (w.thread a.1)
    rcases hstep.entry_none hcrates (hreservations.consistent.thread a.1) (htargeted a.1) h.rule
      ha.stopped h.editing hv ha.start hprobe with ⟨hnone, hadmitted⟩ | hupcoming
    · obtain ⟨t, ht⟩ := h.kept.resolve_left (not_not.mpr hnone)
      refine ⟨t, ?_⟩
      by_cases hta : t = a.1
      · rw [hta, World.step_thread_self]
        rw [hta] at ht
        rcases upcoming_exec crates managed a.2 w.shared ht with hlater | hstarts
        · exact hlater
        · obtain ⟨caller, hcaller, hauto, htarget⟩ := startsAutomatically_iff.mp hstarts
          exact absurd (admitted_of_startsAutomatically hcrates hauto htarget h.stopped h.editing)
            (hadmitted caller hcaller)
      · rw [World.step_thread_of_ne _ w hta]
        exact ht
    · exact ⟨a.1, by rw [World.step_thread_self]; exact hupcoming⟩
  · exact Or.inl hv

theorem Pursued.scheduled {w : System} (h : Wanting w) {id : Uuid} {a : Choice}
    (hschedules : Schedules id w a) (hediting : ¬ (w.shared.state.view id).editing) :
    Pursued id (System.step crates managed w a) := by
  cases hschedules with
  | @retry due hscans hentry hdue =>
    obtain ⟨poller, hthread⟩ : ∃ poller, w.thread a.1 = .maintain poller .scan := by
      unfold Pc.scans at hscans
      split at hscans
      · exact ⟨_, by assumption⟩
      · cases hscans
    have hview : (System.step crates managed w a).shared.state.view id =
        (w.shared.state.view id).scan a.2.exited a.2.now := by
      simp only [World.step_shared, hthread, exec, execMaintain, state_foldl_cleanup,
        Daemon.setState]
      exact view_maintainScan ..
    have hrule := h.sound.markers.shared.rule id fun hnone ↦ by cases hnone.symm.trans hentry
    have hstopped := h.shared id (Or.inr ⟨due, hentry⟩)
    refine ⟨Or.inr ⟨a.1, ?_⟩, ?_, ?_, ?_⟩
    · rw [World.step_thread_self, hthread]
      exact (mem_retry_maintainScan a.2.order a.2.exited a.2.now a.2.processId _ id).mpr
        ⟨due, hentry, hdue⟩
    · rwa [hview, RuleView.scan_rule]
    · rwa [hview, RuleView.scan_stopped]
    · rwa [hview, RuleView.scan_editing]
  | @restore rule hthread hrule hauto hid hstopped =>
    have hstate : (System.step crates managed w a).shared = w.shared := by
      rw [World.step_shared, hthread]
      rfl
    have hids : id ∈ (w.shared.state.rules.filter Rule.autoStart).map Rule.id :=
      List.mem_map.mpr ⟨rule, List.mem_filter.mpr ⟨hrule, hauto⟩, hid⟩
    refine ⟨Or.inr ⟨a.1, ?_⟩, ?_, by rwa [hstate], by rwa [hstate]⟩
    · rw [World.step_thread_self, hthread]
      simp only [exec]
      rwa [upcoming_nextRestore]
    · rw [hstate]
      exact findRule_isSome_iff.mpr (hid ▸ List.mem_map_of_mem hrule)

/-- **An automatic start is not lost** while its rule is left alone and the port is free: once no
thread has it still to come, the rule has an entry, and a reason is on record if it waits for a
reconnect or has failed. -/
theorem automatic_start_kept (hcrates : crates.Faithful) {faults : OpenFaults}
    {directory : Directory} {s : State} (hopen : openState crates faults directory = .ok s)
    {as : List Choice}
    (has : Along (System.step crates managed) FreshId (System.opened s) as) {w : System}
    (hw : run (System.step crates managed) (System.opened s) as = w) {id : Uuid} {a : Choice}
    (hschedules : Schedules id w a) (hediting : ¬ (w.shared.state.view id).editing)
    {bs : List Choice} (hbs : Along (System.step crates managed)
      (fun w b ↦ Undisturbed crates managed id w b ∧ ProbeSucceeds id w b)
      (System.step crates managed w a) bs) {w' : System}
    (hw' : run (System.step crates managed) (System.step crates managed w a) bs = w')
    (hreturned : ∀ t, id ∉ (w'.thread t).upcoming) :
    (w'.shared.state.view id).entry ≠ none ∧ (w'.shared.state.view id).Explained := by
  have hidle := idle_of_open hopen
  have hwanting : Wanting w := by
    rw [← hw]
    exact invariant_along (System.step crates managed) (I := Wanting)
      (fun _ _ h ha ↦ h.next hcrates ha) (.opened hidle) has
  have htargeted : ∀ t, Targeted ((System.step crates managed w a).thread t) := by
    have hrun := invariant_run (System.step crates managed)
      (I := fun w ↦ ∀ t, Targeted (w.thread t))
      (fun w b h ↦ Targeted.step hcrates h b) (s := System.opened s)
      (fun t caller pc launch hpc _ ↦ nomatch hpc) as
    rw [hw] at hrun
    exact Targeted.step hcrates hrun a
  have hfinal := invariant_along (System.step crates managed)
    (I := fun w ↦ Reservations w ∧ (∀ t, Targeted (w.thread t)) ∧
      (w.shared.state.view id).Explained ∧ Pursued id w)
    (fun w b hI hb ↦ ⟨hI.1.step hcrates b, Targeted.step hcrates hI.2.1 b,
      (exec_ruleStep hcrates managed b.2 w.shared id (w.thread b.1)).explained hI.2.2.1,
      hI.2.2.2.next hcrates hI.1 hI.2.1 hb.1 hb.2⟩)
    ⟨hwanting.sound.reservations.step hcrates a, htargeted,
      (exec_ruleStep hcrates managed a.2 w.shared id (w.thread a.1)).explained
        (hwanting.explained id), .scheduled hwanting hschedules hediting⟩ hbs
  rw [hw'] at hfinal
  refine ⟨?_, hfinal.2.2.1⟩
  rcases hfinal.2.2.2.kept with hentry | ⟨t, ht⟩
  · exact hentry
  · exact absurd ht (hreturned t)

/-! ### Examples -/

instance (s : State) (id : Uuid) : Decidable (s.view id).stopped :=
  inferInstanceAs (Decidable (id ∈ s.manuallyStopped))

instance (s : State) (id : Uuid) : Decidable (s.view id).editing :=
  inferInstanceAs (Decidable (id ∈ s.editing))

instance (id : Uuid) (w : System) (a : Choice) :
    Decidable (Undisturbed crates managed id w a) :=
  decidable_of_iff (((System.step crates managed w a).shared.state.view id).rule.isSome = true ∧
      ¬ ((System.step crates managed w a).shared.state.view id).stopped ∧
      ¬ ((System.step crates managed w a).shared.state.view id).editing ∧
      (StartsManually crates id w a → (w.shared.state.view id).entry ≠ none ∧
        (w.shared.state.view id).entry ≠ some .failed))
    ⟨fun h ↦ ⟨h.1, h.2.1, h.2.2.1, h.2.2.2⟩, fun h ↦ ⟨h.rule, h.stopped, h.editing, h.start⟩⟩

instance (id : Uuid) (w : System) (a : Choice) : Decidable (ProbeSucceeds id w a) :=
  inferInstanceAs (Decidable (_ → _))

/-- To see that nothing is to come, only the threads of the run have to be looked at. -/
theorem upcoming_of_threads {s : State} {id : Uuid} {as : List Choice} {n : ℕ}
    (has : ∀ a ∈ as, a.1 < n) (h : ∀ t < n,
      id ∉ ((run (System.step crates managed) (System.opened s) as).thread t).upcoming) (t : ℕ) :
    id ∉ ((run (System.step crates managed) (System.opened s) as).thread t).upcoming := by
  rcases Nat.lt_or_ge t n with hlt | hge
  · exact h t hlt
  · rw [World.run_thread_of_ne _ fun a ha ↦ Nat.ne_of_lt ((has a ha).trans_le hge)]
    exact List.not_mem_nil

/-- The supervisor is about to read which rules to restore. -/
def exampleSupervised : List Choice := [(1, { call := some .supervise })]

/-- The supervisor restores the example rule: the port is free and the marker is stored. -/
def exampleRestored : List Choice := [(1, { attemptId := 1 })]

/-- The restored rule has an entry. -/
theorem automatic_start_kept_exampleRestored :
    ((run (System.step exampleCrates true) (System.step exampleCrates true
        (run (System.step exampleCrates true) exampleOpened exampleSupervised) (1, {}))
      exampleRestored).shared.state.view exampleRule.id).entry ≠ none :=
  (automatic_start_kept exampleCrates_faithful exampleOpened_open
    (show Along (System.step exampleCrates true) FreshId exampleOpened exampleSupervised by
      decide +kernel) rfl
    (.restore (show _ = Pc.supervise from rfl) (show exampleRule ∈ _ from List.mem_singleton_self _)
      rfl rfl (by decide +kernel)) (by decide +kernel)
    (show Along _ _ _ exampleRestored by decide +kernel) rfl
    (upcoming_of_threads
      (show ∀ a ∈ exampleSupervised ++ (1, {}) :: exampleRestored, a.1 < 2 by
        simp [exampleSupervised, exampleRestored])
      (by decide +kernel))).1

/-- A tunnel is up. The supervisor finds that it has ended and schedules a reconnect. -/
def exampleReconnecting : List Choice :=
  exampleStarted ++ ([(0, {}), (0, {}), (1, { call := some .supervise }), (1, {}),
    (1, { attemptId := 2 }), (1, { exited := fun _ ↦ true }), (1, {}), (1, {})] : List Choice)

def exampleProbe : List Choice :=
  [(1, {}), (1, { attemptId := 3, bind := some ⟨.addrInUse, "Address already in use"⟩ })]

/-- A reconnect that is due is lost: nobody touches the rule, its automatic start has returned, and
it has no entry. -/
theorem exampleProbe_lost :
    Along (System.step exampleCrates true) FreshId exampleOpened
        (exampleReconnecting ++ (1, {}) :: exampleProbe) ∧
      Schedules exampleRule.id
        (run (System.step exampleCrates true) exampleOpened exampleReconnecting) (1, {}) ∧
      ¬ ((run (System.step exampleCrates true) exampleOpened
        exampleReconnecting).shared.state.view exampleRule.id).editing ∧
      Along (System.step exampleCrates true) (Undisturbed exampleCrates true exampleRule.id)
        (System.step exampleCrates true
          (run (System.step exampleCrates true) exampleOpened exampleReconnecting) (1, {}))
        exampleProbe ∧
      (∀ t, exampleRule.id ∉ ((run (System.step exampleCrates true) exampleOpened
        (exampleReconnecting ++ (1, {}) :: exampleProbe)).thread t).upcoming) ∧
      ((run (System.step exampleCrates true) exampleOpened
        (exampleReconnecting ++ (1, {}) :: exampleProbe)).shared.state.view
          exampleRule.id).entry = none := by
  have hentry : ((run (System.step exampleCrates true) exampleOpened
      exampleReconnecting).shared.state.view exampleRule.id).entry = some (.reconnecting 0) := by
    decide +kernel
  refine ⟨by decide +kernel, .retry (by decide +kernel) hentry (Nat.zero_le _), by decide +kernel,
    by decide +kernel, upcoming_of_threads ?_ (show ∀ t < 2, _ by decide +kernel),
    by decide +kernel⟩
  simp [exampleReconnecting, exampleProbe, exampleStarted]

end TunnelDeck
