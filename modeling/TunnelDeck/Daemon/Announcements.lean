import TunnelDeck.Daemon.Reports
import TunnelDeck.Daemon.Retries
import TunnelDeck.Daemon.Returns

/-!
# Changes that clients hear of

A client shows what it has read, and reads again on every event. So a change of a runtime entry
that no event follows stays on its screen.

A thread that changes an entry has an event about it to publish (`Pc.report`), or it is under way
to a further change: it launches the rule, or `maintain` has taken a reconnect out to start it in a
later section. `Announces` puts the three together. The sections that break the chain are listed
in `Silent`: they change an entry, or give up a start, and nobody hears of it.

## Main results

* `heard_of_loud`: in a run without silent sections every change is followed by an event about the
  rule, and a change that the call reports is followed by one before the call returns.
* `exampleDenied_unheard`: a start that the server denies leaves the rule failed, and no event says
  so.
-/

namespace TunnelDeck

open Concurrency

variable {crates : Crates} {managed : Bool} {env : Env} {d : Daemon} {id : Uuid}

/-! ## Reconnects that were taken out -/

/-- The reconnects that the thread has taken out of the entries and has still to start. -/
def Pc.retries : Pc → List Uuid
  | .maintain _ (.publish _ retry) => retry
  | .start (.retry _ id rest) .enter => id :: rest
  | .start (.retry _ _ rest) _ => rest
  | _ => []

theorem retries_nextRetry (poller : Poller) (ids : List Uuid) :
    (nextRetry poller ids).retries = ids := by
  cases ids <;> cases poller <;> rfl

/-- A reconnect that was taken out waits until the first section of its start. -/
theorem retries_exec (crates : Crates) (managed : Bool) (env : Env) (d : Daemon) {p : Pc}
    (h : id ∈ p.retries) :
    id ∈ (exec crates managed env d p).2.retries ∨
      ∃ poller rest, p = .start (.retry poller id rest) .enter := by
  cases p with
  | maintain poller pc =>
    refine Or.inl ?_
    cases pc with
    | scan => cases h
    | publish events retry =>
      cases events with
      | nil =>
        simp only [exec, execMaintain]
        rw [retries_nextRetry]
        exact h
      | cons event events => exact h
  | start caller pc =>
    cases caller with
    | client | restore | edit => cases pc <;> cases h
    | retry poller target rest =>
      have hafter : (exec crates managed env d (.start (.retry poller target rest) pc)).2.retries =
          rest := by
        rcases execStart_next crates managed env d (.retry poller target rest) pc with
          ⟨reply, hnext⟩ | ⟨pc', hnext, hne⟩
        · exact (congrArg Pc.retries hnext).trans (retries_nextRetry poller rest)
        · refine (congrArg Pc.retries hnext).trans ?_
          cases pc' with
          | enter => exact absurd rfl hne
          | launch | spawned | launched | failed | discard | publish => rfl
      rw [hafter]
      cases pc with
      | enter =>
        rcases List.mem_cons.mp h with rfl | h
        · exact Or.inr ⟨poller, rest, rfl⟩
        · exact Or.inl h
      | launch | spawned | launched | failed | discard | publish => exact Or.inl h
  | _ => cases h

/-! ## Silent sections -/

/-- The section changes the entry of the rule, or gives up a start of it, and publishes nothing. -/
inductive Silent (crates : Crates) (id : Uuid) (w : System) (a : Choice) : Prop
  /-- A launch fails for good. -/
  | launchFailed {caller : Caller} {launch : Launch} {error : ProcessError}
      (hthread : w.thread a.1 = .start caller (.failed launch error)) (hid : launch.id = id)
      (hcurrent : launch.current w.shared.state)
      (hfinal : (launch.rule.reconnect && (classifyDiagnostic error.toString).retryable &&
        !caller.editOwned) = false)
  /-- A stop cannot clean up the attempt that it has taken. -/
  | cleanupFailed {request : Request} {attempt : ManagedAttempt}
      (hthread : w.thread a.1 = .stop request (.cleanup id attempt)) (hcleanup : a.2.cleanup ≠ none)
  /-- A start forgets the failure of the rule, or is the retry of it, and finds the port taken. -/
  | refused {caller : Caller} {rule : Rule} {failure : Failure}
      (hthread : w.thread a.1 = .start caller .enter)
      (hadmitted : Admitted crates w.shared id caller)
      (hrule : (w.shared.state.view id).rule = some rule)
      (hentry : (w.shared.state.view id).entry = some .failed ∨
        ((w.shared.state.view id).entry = none ∧ id ∈ (w.thread a.1).retries))
      (hport : checkLocalPort a.2.bind rule = .error failure)
  /-- A stop finds no entry, because the reconnect of the rule was taken out. -/
  | stopped {request : Request} (hthread : w.thread a.1 = .stop request .enter)
      (hid : ruleId crates request.payload w.shared.state = .ok id)
      (hediting : ¬ (w.shared.state.view id).editing)
      (hentry : (w.shared.state.view id).entry = none) (hretry : ∃ t, id ∈ (w.thread t).retries)
  /-- A retry finds that its rule is being edited. -/
  | edited {poller : Poller} {rest : List Uuid}
      (hthread : w.thread a.1 = .start (.retry poller id rest) .enter)
      (hediting : (w.shared.state.view id).editing)
      (hentry : (w.shared.state.view id).entry = none)

/-- No thread hides what it does. -/
def Loud (crates : Crates) (id : Uuid) (w : System) (a : Choice) : Prop := ¬ Silent crates id w a

/-! ## What is still to be announced -/

/-- The thread will change the rule again: it launches it, or it has taken its reconnect out. -/
inductive Underway (id : Uuid) (d : Daemon) (p : Pc) : Prop
  | launch {launch : Launch} (h : p.launching = some launch) (hid : launch.id = id)
      (hcurrent : launch.current d.state)
  | retry (h : id ∈ p.retries) (hentry : (d.state.view id).entry = none)
      (hrule : (d.state.view id).rule.isSome = true) (hstopped : ¬ (d.state.view id).stopped)

/-- The thread has an event about the rule to publish, or is under way to one. -/
def Announces (id : Uuid) (d : Daemon) (p : Pc) : Prop :=
  (p.report id).isSome = true ∨ Underway id d p

def Pc.removes : Pc → Bool
  | .stop _ _ | .editEnter _ | .edit _ _ _ | .start (.edit _ _ _) _ => true
  | _ => false

/-- What a client is to be told when a thread at the point changes an entry: that it becomes
active, reconnecting or failed, or that a stop or an edit removes it. -/
def Pc.shows (p : Pc) : Option Attempt → Bool
  | some (.starting _) => false
  | some (.active _) | some (.reconnecting _) | some .failed => true
  | none => p.removes

theorem report_failed (crates : Crates) (managed : Bool) {caller : Caller} {launch : Launch}
    {error : ProcessError} (hid : launch.id = id) (hcurrent : launch.current d.state)
    (hretry : (launch.rule.reconnect && (classifyDiagnostic error.toString).retryable &&
      !caller.editOwned) ≠ false) :
    ((execStart crates managed env d caller (.failed launch error)).2.report id).isSome = true := by
  obtain ⟨hrecorded, -⟩ := startFailed_of_current hcurrent caller.editOwned error env.now
  simp only [Bool.not_eq_false] at hretry
  simp only [execStart, hrecorded, hretry]
  simp [Pc.report, hid]

/-- **Every change is announced.** A section that is not silent and changes the entry of a rule
leaves its thread with an event about the rule to publish. A start that stores its marker, and
`maintain` when it takes a reconnect, are under way to one. -/
theorem announces_of_change (hcrates : crates.Faithful) {w : System} (hw : Wanting w) {a : Choice}
    (hloud : Loud crates id w a)
    (hchange : ((System.step crates managed w a).shared.state.view id).entry ≠
      (w.shared.state.view id).entry) :
    (((System.step crates managed w a).thread a.1).report id).isSome = true ∨
      (Underway id (System.step crates managed w a).shared
          ((System.step crates managed w a).thread a.1) ∧
        (w.thread a.1).shows ((System.step crates managed w a).shared.state.view id).entry =
          false) := by
  rw [World.step_thread_self]
  have hstep := exec_ruleStep hcrates managed a.2 w.shared id (w.thread a.1)
  rw [World.step_shared] at hchange ⊢
  generalize hthread : w.thread a.1 = p at hstep hchange ⊢
  generalize hnext : (exec crates managed a.2 w.shared p).2 = p' at hstep ⊢
  generalize hview : (exec crates managed a.2 w.shared p).1.state.view id = v at hstep hchange
  cases hstep with
  | keep | configure | release | commit | unreserve => exact absurd rfl hchange
  | refuse hadmitted hrule hentry hport =>
    -- a refused rule had failed before, and its entry goes in silence
    rcases hentry with hnone | hfailed
    · exact absurd hnone.symm hchange
    · exact absurd (.refused hthread hadmitted hrule (Or.inl hfailed) hport) hloud
  | launch => exact Or.inr ⟨.launch rfl rfl (congrArg RuleView.entry hview), rfl⟩
  | fail hid hcurrent =>
    refine Or.inl ?_
    rw [← hnext]
    exact report_failed crates managed hid hcurrent fun hfinal ↦
      hloud (.launchFailed hthread hid hcurrent hfinal)
  | finish hid => exact Or.inl (by simp [Pc.report, hid])
  | stop hid hediting hrule =>
    refine Or.inl ?_
    rw [report_stopNext_self, if_neg fun hnone ↦ hchange hnone.symm]
    rfl
  | reserve hid => exact Or.inl (by simp [Pc.report, hid])
  | stopFailed hid => exact Or.inl (by simp [Pc.report, hid])
  | @scan poller events retry hretry =>
    -- an attempt has exited or a reconnect is taken
    rcases (w.shared.state.view id).scan_entry a.2.exited a.2.now with hsame |
      ⟨attempt, hentry, hexited, -⟩ | ⟨due, hentry, hdue, hnone⟩
    · exact absurd hsame hchange
    · refine Or.inl ?_
      rw [← hnext]
      rcases report_maintainScan a.2.order a.2.processId managed poller
        (maintainScan a.2.order a.2.exited a.2.now a.2.processId w.shared.state).1.retry with
        ⟨-, name, hname, -⟩ | ⟨hnot, -⟩
      · exact Option.isSome_of_eq_some hname
      · exact absurd ⟨attempt, hentry, hexited⟩ hnot
    · have hrule := hw.sound.markers.shared.rule id fun hnone ↦ by cases hnone.symm.trans hentry
      have hstopped := hw.shared id (Or.inr ⟨due, hentry⟩)
      rw [hnone]
      refine Or.inr ⟨.retry (hretry.mpr ⟨due, hentry, hdue⟩) ?_ ?_ ?_, rfl⟩ <;> rw [hview]
      · rw [hnone]
      · rwa [RuleView.scan_rule]
      · rwa [RuleView.scan_stopped]

/-! ## What was announced stays so -/

/-- While a rule has no entry, only a stop of it marks it as stopped, and only a request that is
handled under the lock removes it. -/
theorem RuleStep.flags_of_none {p p' : Pc} {v : RuleView} (h : RuleStep crates env d id p p' v)
    (hentry : (d.state.view id).entry = none) :
    (v.stopped → (d.state.view id).stopped ∨ ∃ request, p = .stop request .enter ∧
        ruleId crates request.payload d.state = .ok id ∧ ¬ (d.state.view id).editing) ∧
      (v.rule = none → (d.state.view id).rule = none ∨ ∃ request, p = .dispatch request) := by
  cases h with
  | keep | unreserve => exact ⟨Or.inl, Or.inl⟩
  | configure => exact ⟨Or.inl, fun _ ↦ Or.inr ⟨_, rfl⟩⟩
  | release | refuse | launch => exact ⟨fun hstopped ↦ Or.inl hstopped.1, Or.inl⟩
  | fail hid hcurrent =>
    subst hid
    exact nomatch hentry.symm.trans hcurrent
  | finish hid hcurrent =>
    subst hid
    exact nomatch hentry.symm.trans hcurrent
  | stop hid hediting => exact ⟨fun _ ↦ Or.inr ⟨_, rfl, hid, hediting⟩, Or.inl⟩
  | reserve hid hrule hediting hactive => exact nomatch hentry.symm.trans hactive
  | stopFailed => exact ⟨Or.inl, Or.inl⟩
  | commit => exact ⟨Or.inl, nofun⟩
  | scan =>
    rw [RuleView.scan_of_none hentry]
    exact ⟨Or.inl, Or.inl⟩

theorem entry_of_retry (hcrates : crates.Faithful) {w : System} {a : Choice}
    (hloud : Loud crates id w a) {poller : Poller} {rest : List Uuid}
    (hthread : w.thread a.1 = .start (.retry poller id rest) .enter)
    (hentry : (w.shared.state.view id).entry = none)
    (hrule : (w.shared.state.view id).rule.isSome = true)
    (hstopped : ¬ (w.shared.state.view id).stopped) :
    ((System.step crates managed w a).shared.state.view id).entry ≠ none := by
  by_cases hediting : (w.shared.state.view id).editing
  · exact absurd (.edited hthread hediting hentry) hloud
  have hadmitted : Admitted crates w.shared id (.retry poller id rest) :=
    admitted_of_startsAutomatically hcrates rfl rfl hstopped hediting
  have hstep := exec_ruleStep hcrates managed a.2 w.shared id (w.thread a.1)
  rw [World.step_shared]
  generalize (exec crates managed a.2 w.shared (w.thread a.1)).1.state.view id = v at hstep ⊢
  generalize (exec crates managed a.2 w.shared (w.thread a.1)).2 = p' at hstep
  rw [hthread] at hstep
  cases hstep with
  | keep hlaunch hreserved hnot => exact absurd hadmitted (hnot _ rfl)
  | release _ hfound =>
    rcases hfound with hnone | ⟨entry, hsome, -⟩
    · rw [hnone] at hrule
      cases hrule
    · exact nomatch hentry.symm.trans hsome
  | refuse _ hfound _ hport =>
    refine absurd (.refused hthread hadmitted hfound (Or.inr ⟨hentry, ?_⟩) hport) hloud
    rw [hthread]
    exact List.mem_cons_self
  | launch => exact nofun

/-- A launch that is wanted goes on to the next section, or to the event that reports it. -/
theorem Underway.launch_step {w : System} {a : Choice} {launch : Launch}
    (h : (w.thread a.1).launching = some launch) (hid : launch.id = id)
    (hcurrent : launch.current w.shared.state)
    (hsame : ((System.step crates managed w a).shared.state.view id).entry =
      (w.shared.state.view id).entry) :
    Announces id (System.step crates managed w a).shared
      ((System.step crates managed w a).thread a.1) := by
  have hcurrent' : launch.current (System.step crates managed w a).shared.state := by
    subst hid
    exact hsame.trans hcurrent
  rw [World.step_thread_self]
  rw [World.step_shared] at hsame hcurrent' ⊢
  generalize w.thread a.1 = p at h hsame hcurrent' ⊢
  cases p with
  | start caller pc =>
    cases pc with
    | launch launch =>
      cases h
      refine Or.inr (.launch ?_ hid hcurrent')
      simp only [exec, execStart]
      split
      · split <;> rfl
      · rfl
    | spawned launch process =>
      cases h
      refine Or.inr (.launch ?_ hid hcurrent')
      simp only [exec, execStart]
      split <;> rfl
    | launched launch attempt =>
      cases h
      obtain ⟨hwanted, -⟩ := startFinish_of_current hcurrent caller.editOwned attempt a.2.now
      refine Or.inl ?_
      simp only [exec, execStart, hwanted, if_true]
      simp [Pc.report, hid]
    | failed launch error =>
      -- the failure of a launch that is wanted takes its marker away
      cases h
      subst hid
      obtain ⟨-, hself, -⟩ := startFailed_of_current hcurrent caller.editOwned error a.2.now
      have hstate : (exec crates managed a.2 w.shared
          (.start caller (.failed launch error))).1.state =
          (startFailed caller.editOwned launch error a.2.now w.shared.state).2 := by
        simp only [exec, execStart]
        split <;> rfl
      rw [hstate, hself] at hsame
      rcases (w.shared.state.view launch.id).launchFailed_entry caller.editOwned launch error
        a.2.now with ⟨due, hentry⟩ | hentry | ⟨-, hentry⟩ <;>
        cases hentry.symm.trans (hsame.trans hcurrent)
    | enter | discard | publish => cases h
  | _ => cases h

/-- **What is under way stays so** until the thread has an event to publish, or the rule is removed
while its reconnect is taken out. -/
theorem Underway.step (hcrates : crates.Faithful) {w : System} {t : ℕ}
    (h : Underway id w.shared (w.thread t)) {a : Choice} (hloud : Loud crates id w a)
    (hsame : ((System.step crates managed w a).shared.state.view id).entry =
      (w.shared.state.view id).entry) :
    Announces id (System.step crates managed w a).shared
        ((System.step crates managed w a).thread t) ∨
      (id ∈ (w.thread t).retries ∧ (w.shared.state.view id).entry = none ∧
        (w.shared.state.view id).rule.isSome = true ∧
        ((System.step crates managed w a).shared.state.view id).rule = none ∧
        ∃ request, w.thread a.1 = .dispatch request) := by
  cases h with
  | launch h hid hcurrent =>
    refine Or.inl ?_
    by_cases ht : t = a.1
    · subst ht
      exact Underway.launch_step h hid hcurrent hsame
    · rw [World.step_thread_of_ne _ w ht]
      subst hid
      exact Or.inr (.launch h rfl (hsame.trans hcurrent))
  | retry h hentry hrule hstopped =>
    have hretries : id ∈ ((System.step crates managed w a).thread t).retries := by
      by_cases ht : t = a.1
      · rw [ht, World.step_thread_self]
        rcases retries_exec crates managed a.2 w.shared h with hlater | ⟨poller, rest, hthread⟩
        · rwa [ht] at hlater
        · rw [ht] at hthread
          exact absurd (hsame.trans hentry)
            (entry_of_retry hcrates hloud hthread hentry hrule hstopped)
      · rwa [World.step_thread_of_ne _ w ht]
    obtain ⟨hstop, hremove⟩ :=
      (exec_ruleStep hcrates managed a.2 w.shared id (w.thread a.1)).flags_of_none hentry
    have hstopped' : ¬ ((System.step crates managed w a).shared.state.view id).stopped := by
      intro hnow
      rcases hstop hnow with hbefore | ⟨request, hthread, hid, hediting⟩
      · exact hstopped hbefore
      · exact hloud (.stopped hthread hid hediting hentry ⟨t, h⟩)
    rcases Option.eq_none_or_eq_some
      ((System.step crates managed w a).shared.state.view id).rule with hnone | ⟨rule, hsome⟩
    · rcases hremove hnone with hbefore | hrequest
      · rw [hbefore] at hrule
        cases hrule
      · exact Or.inr ⟨h, hentry, hrule, hnone, hrequest⟩
    · exact Or.inl (Or.inr (.retry hretries (hsame.trans hentry)
        (Option.isSome_of_eq_some hsome) hstopped'))

/-! ## Removing a rule -/

/-- A set of rules that a request may commit without a word about the rule `id`. -/
def Keeps (id : Uuid) (s : State) (rules : List Rule) : Prop :=
  (findRule s.rules id).isSome = true → (findRule rules id).isSome = true

theorem keeps_append (s : State) (new : List Rule) : Keeps id s (s.rules ++ new) := by
  intro h
  rw [findRule_append, Option.isSome_or, h]
  rfl

theorem keeps_replaceRule (s : State) (rule : Rule) :
    Keeps id s (replaceRule rule.id rule s.rules) := by
  intro h
  by_cases hid : id = rule.id
  · subst hid
    rw [findRule_replaceRule_self rfl h]
    rfl
  · rwa [findRule_replaceRule_of_ne rfl hid]

/-- The request keeps the rule, or it publishes an event about it. -/
def Handled.Tells (crates : Crates) (id : Uuid) (s : State) (handled : Handled) : Prop :=
  Keeps id s handled.2.2.rules ∨ ∃ event ∈ handled.2.1, event.IsAbout crates id

theorem Handled.Tells.kept (reply : Reply) (events : List Event) (s : State) :
    Handled.Tells crates id s (reply, events, s) :=
  Or.inl fun h ↦ h

theorem commitChange_tells {faults : SaveFaults} {rules : List Rule} {settings : Settings}
    {event : Event} {result : Json.Value} {s : State}
    (h : Keeps id s rules ∨ event.IsAbout crates id) :
    (commitChange crates faults rules settings event result s).Tells crates id s := by
  simp only [commitChange]
  split
  · exact Or.inl fun h ↦ h
  · exact h.imp (fun hkeeps ↦ hkeeps) fun habout ↦ ⟨event, List.mem_singleton_self _, habout⟩

theorem commitRules_tells {faults : SaveFaults} {rules : List Rule} {payload : Json.Value}
    {s : State} (h : Keeps id s rules) :
    (commitRules crates faults rules payload s).Tells crates id s := by
  unfold commitRules
  split
  · exact .kept ..
  · exact commitChange_tells (Or.inl h)

/-- A request that removes a rule publishes an event about it. -/
theorem dispatch_tells (crates : Crates) (id : Uuid) (faults : SaveFaults) (now : ℕ)
    (request : Request) (s : State) :
    (dispatch crates faults now request s).Tells crates id s := by
  unfold dispatch
  split
  · exact .kept ..
  · unfold forwardAdd
    split
    · exact .kept ..
    · split
      · exact .kept ..
      · split
        · exact .kept ..
        · split
          · split
            · exact .kept ..
            · exact commitRules_tells (keeps_replaceRule s _)
          · exact commitRules_tells (keeps_append s _)
  · unfold forwardImport
    split
    · exact .kept ..
    · split
      · exact .kept ..
      · split
        · exact .kept ..
        · simp only
          split
          · exact .kept ..
          · exact commitRules_tells (keeps_append s _)
  · simp only [forwardRemove]
    split
    · exact .kept ..
    · rename_i removed _
      split
      · exact .kept ..
      · split
        · exact .kept ..
        · split
          · exact .kept ..
          · refine commitChange_tells ?_
            by_cases hid : id = removed
            · exact Or.inr (hid ▸ rfl)
            · exact Or.inl fun h ↦ by rwa [findRule_filter_of_ne hid]
  · exact .kept ..
  · unfold settingsUpdate
    split
    · exact .kept ..
    · exact commitChange_tells (Or.inl fun h ↦ h)
  · exact .kept ..
  · exact .kept ..
  · exact .kept ..

/-! ## Events since a change -/

/-- An event about the rule was published after the first `n` events. -/
def Heard (crates : Crates) (id : Uuid) (n : ℕ) (d : Daemon) : Prop :=
  ∃ event ∈ d.events.drop n, event.IsAbout crates id

instance (n : ℕ) (d : Daemon) : Decidable (Heard crates id n d) :=
  inferInstanceAs (Decidable (∃ event ∈ _, _))

theorem heard_of_append {d' : Daemon} {n : ℕ} {events : List Event}
    (happend : d'.events = d.events ++ events) (hn : n ≤ d.events.length)
    (h : ∃ event ∈ events, event.IsAbout crates id) : Heard crates id n d' := by
  obtain ⟨event, hevent, habout⟩ := h
  refine ⟨event, ?_, habout⟩
  rw [happend, List.drop_append_of_le_length hn]
  exact List.mem_append_right _ hevent

theorem Heard.append {d' : Daemon} {n : ℕ} {events : List Event} (h : Heard crates id n d)
    (happend : d'.events = d.events ++ events) : Heard crates id n d' := by
  obtain ⟨event, hevent, habout⟩ := h
  refine ⟨event, ?_, habout⟩
  rw [happend, List.drop_append]
  exact List.mem_append_left _ hevent

/-- The thread has nothing to do with the rule. -/
structure Pc.DoneWith (id : Uuid) (p : Pc) : Prop where
  report : p.report id = none
  launching : ∀ launch, p.launching = some launch → launch.id ≠ id
  retries : id ∉ p.retries

theorem Pc.DoneWith.not_announces {p : Pc} (h : p.DoneWith id) : ¬ Announces id d p := by
  rintro (hreport | ⟨hlaunch, hid, -⟩ | ⟨hretry, -⟩)
  · rw [h.report] at hreport
    cases hreport
  · exact h.launching _ hlaunch hid
  · exact h.retries hretry

theorem report_or_heard (hcrates : crates.Faithful) {w : System}
    (htidy : ∀ t, (w.thread t).Tidy managed) {t : ℕ} (h : ((w.thread t).report id).isSome = true)
    {a : Choice} (hloud : Loud crates id w a) {n : ℕ} (hn : n ≤ w.shared.events.length) :
    (((System.step crates managed w a).thread t).report id).isSome = true ∨
      Heard crates id n (System.step crates managed w a).shared := by
  by_cases ht : t = a.1
  · subst ht
    obtain ⟨events, happend, hreport⟩ := exec_reported hcrates a.2 w.shared id (htidy a.1)
    rw [World.step_thread_self]
    generalize hnames : reportsIn crates id events = names at hreport
    cases hreport with
    | quiet hsame => exact Or.inl (hsame ▸ h)
    | owe hname => exact Or.inl (Option.isSome_of_eq_some hname)
    | @tell name =>
      exact Or.inr (heard_of_append happend hn
        (exists_of_mem_reportsIn crates id (hnames ▸ List.mem_singleton_self name)))
    | drop hthread hcleanup => exact absurd (.cleanupFailed hthread hcleanup) hloud
  · rw [World.step_thread_of_ne _ w ht]
    exact Or.inl h

/-- The invariant of a run from a change on: an event about the rule was published since, or a
thread announces one. -/
structure Announced (crates : Crates) (managed : Bool) (id : Uuid) (n : ℕ) (w : System) :
    Prop where
  wanting : Wanting w
  tidy : ∀ t, (w.thread t).Tidy managed
  length : n ≤ w.shared.events.length
  told : Heard crates id n w.shared ∨ ∃ t, Announces id w.shared (w.thread t)

theorem Announced.next (hcrates : crates.Faithful) {w : System} {n : ℕ}
    (h : Announced crates managed id n w) {a : Choice} (hfresh : FreshId w a)
    (hloud : Loud crates id w a) :
    Announced crates managed id n (System.step crates managed w a) := by
  obtain ⟨events, happend, -⟩ := exec_reported hcrates a.2 w.shared id (h.tidy a.1)
  refine ⟨h.wanting.next hcrates hfresh, tidy_step h.tidy a, ?_, ?_⟩
  · rw [World.step_shared, happend, List.length_append]
    exact h.length.trans (Nat.le_add_right ..)
  by_cases hsame : ((System.step crates managed w a).shared.state.view id).entry =
    (w.shared.state.view id).entry
  · rcases h.told with hheard | ⟨t, hreport | hunderway⟩
    · exact Or.inl (hheard.append happend)
    · rcases report_or_heard hcrates h.tidy hreport hloud h.length with hreport | hheard
      · exact Or.inr ⟨t, Or.inl hreport⟩
      · exact Or.inl hheard
    · rcases hunderway.step hcrates hloud hsame with
        hannounces | ⟨-, -, hrule, hnone, request, hthread⟩
      · exact Or.inr ⟨t, hannounces⟩
      · -- the request that removes the rule publishes an event about it
        have hpublish : (System.step crates managed w a).shared.events = w.shared.events ++
            (dispatch crates a.2.save a.2.now request w.shared.state).2.1 := by
          rw [World.step_shared, hthread]
          rfl
        refine Or.inl (heard_of_append hpublish h.length ?_)
        rcases dispatch_tells crates id a.2.save a.2.now request w.shared.state with hkeeps | hevent
        · rw [World.step_shared, hthread] at hnone
          exact nomatch (hkeeps hrule).symm.trans (congrArg Option.isSome hnone)
        · exact hevent
  · refine Or.inr ⟨a.1, ?_⟩
    exact (announces_of_change hcrates h.wanting hloud hsame).imp (fun h ↦ h) And.left

/-- **Every change is heard of**, if no section is silent. A change that a client is to be told of
is followed by an event about the rule before the call that made it returns, since a call that has
returned has nothing left to publish. Once every thread is done with the rule, an event has
followed any change of its entry. -/
theorem heard_of_loud (hcrates : crates.Faithful) {faults : OpenFaults} {directory : Directory}
    {s : State} (hopen : openState crates faults directory = .ok s) {as : List Choice}
    (has : Along (System.step crates true) FreshId (System.opened s) as) {w : System}
    (hw : run (System.step crates true) (System.opened s) as = w) {id : Uuid} {a : Choice}
    (hchange : ((System.step crates true w a).shared.state.view id).entry ≠
      (w.shared.state.view id).entry) {bs : List Choice}
    (hbs : Along (System.step crates true) (fun w a ↦ FreshId w a ∧ Loud crates id w a) w (a :: bs))
    {w' : System} (hw' : run (System.step crates true) w (a :: bs) = w') :
    ((w.thread a.1).shows ((System.step crates true w a).shared.state.view id).entry = true →
        Heard crates id w.shared.events.length w'.shared ∨
          ((w'.thread a.1).report id).isSome = true) ∧
      ((∀ t, (w'.thread t).DoneWith id) → Heard crates id w.shared.events.length w'.shared) := by
  have hidle := idle_of_open hopen
  have hwanting : Wanting w := by
    rw [← hw]
    exact invariant_along (System.step crates true) (I := Wanting)
      (fun _ _ h ha ↦ h.next hcrates ha) (.opened hidle) has
  have htidy : ∀ t, (w.thread t).Tidy true := by
    rw [← hw]
    exact invariant_run (System.step crates true) (I := fun w ↦ ∀ t, (w.thread t).Tidy true)
      (fun _ b h ↦ tidy_step h b) (s := System.opened s) (fun _ ↦ trivial) as
  obtain ⟨⟨hfresh, hloud⟩, hbs⟩ := hbs
  have hannounces := announces_of_change hcrates hwanting hloud hchange
  have hlength : w.shared.events.length ≤ (System.step crates true w a).shared.events.length := by
    obtain ⟨events, happend, -⟩ := exec_reported hcrates a.2 w.shared id (htidy a.1)
    rw [World.step_shared, happend, List.length_append]
    exact Nat.le_add_right ..
  -- the section itself makes somebody owe the event
  have hfirst : Announced crates true id w.shared.events.length (System.step crates true w a) :=
    ⟨hwanting.next hcrates hfresh, tidy_step htidy a, hlength,
      Or.inr ⟨a.1, hannounces.imp (fun h ↦ h) And.left⟩⟩
  rw [run_cons] at hw'
  rw [← hw']
  refine ⟨fun hshows ↦ ?_, fun hdone ↦ ?_⟩
  · have hreport : (((System.step crates true w a).thread a.1).report id).isSome = true := by
      rcases hannounces with hreport | ⟨-, hhidden⟩
      · exact hreport
      · exact nomatch hshows.symm.trans hhidden
    refine (invariant_along (System.step crates true)
      (I := fun v ↦ Announced crates true id w.shared.events.length v ∧
        (Heard crates id w.shared.events.length v.shared ∨
          ((v.thread a.1).report id).isSome = true)) ?_ ⟨hfirst, Or.inr hreport⟩ hbs).2
    rintro v b ⟨hv, htold⟩ ⟨hfresh, hloud⟩
    refine ⟨hv.next hcrates hfresh hloud, ?_⟩
    rcases htold with hheard | hreport
    · obtain ⟨events, happend, -⟩ := exec_reported hcrates b.2 v.shared id (hv.tidy b.1)
      exact Or.inl (hheard.append happend)
    · exact (report_or_heard hcrates hv.tidy hreport hloud hv.length).symm
  · have hlast := invariant_along (System.step crates true)
      (I := Announced crates true id w.shared.events.length)
      (fun _ _ h hb ↦ h.next hcrates hb.1 hb.2) hfirst hbs
    rcases hlast.told with hheard | ⟨t, hannounces⟩
    · exact hheard
    · exact absurd hannounces (hdone t).not_announces

/-! ### Examples -/

/-- The points at which a section may be silent. -/
def Pc.mayBeSilent : Pc → Bool
  | .start _ .enter | .start _ (.failed _ _) | .stop _ .enter | .stop _ (.cleanup _ _) => true
  | _ => false

theorem loud_of_pc {w : System} {a : Choice} (h : (w.thread a.1).mayBeSilent = false) :
    Loud crates id w a := by
  rintro (⟨hthread, -⟩ | ⟨hthread, -⟩ | ⟨hthread, -⟩ | ⟨hthread, -⟩ | ⟨hthread, -⟩) <;>
    rw [hthread] at h <;> cases h

/-- The start of the example rule has stored the attempt and publishes its event. -/
theorem heard_of_loud_exampleStarted :
    Heard exampleCrates exampleRule.id
      (run (System.step exampleCrates true) exampleOpened exampleStarted).shared.events.length
      (run (System.step exampleCrates true)
        (run (System.step exampleCrates true) exampleOpened exampleStarted)
        [(0, {}), (0, {})]).shared := by
  have hbs : Along (System.step exampleCrates true)
      (fun w a ↦ FreshId w a ∧ Loud exampleCrates exampleRule.id w a)
      (run (System.step exampleCrates true) exampleOpened exampleStarted)
      ((0, {}) :: ([(0, {})] : List Choice)) :=
    ⟨⟨by decide +kernel, loud_of_pc (by decide +kernel)⟩,
      ⟨by decide +kernel, loud_of_pc (by decide +kernel)⟩, trivial⟩
  have hchange : ((System.step exampleCrates true
      (run (System.step exampleCrates true) exampleOpened exampleStarted)
        (0, {})).shared.state.view exampleRule.id).entry ≠
      ((run (System.step exampleCrates true) exampleOpened
        exampleStarted).shared.state.view exampleRule.id).entry := by decide +kernel
  exact ((heard_of_loud exampleCrates_faithful exampleOpened_open (by decide +kernel) rfl hchange
    hbs rfl).1 (by decide +kernel)).resolve_right (by decide +kernel)

/-- The guardian of a start reports that the server denies access. -/
def exampleDenied : List Choice :=
  [(0, { call := some (.request ⟨.forwardStart, selectName "database"⟩) }), (0, { attemptId := 1 }),
    (0, {}), (0, { ready := some (.startup "Permission denied (publickey)") })]

/-- The start fails for good: its rule becomes failed, and the call returns without an event about
it. -/
theorem exampleDenied_unheard :
    Along (System.step exampleCrates true) FreshId exampleOpened
        (exampleDenied ++ ([(0, {})] : List Choice)) ∧
      (run (System.step exampleCrates true) exampleOpened
        exampleDenied).shared.state.running.lookup exampleRule.id = some (.starting 1) ∧
      (run (System.step exampleCrates true) exampleOpened
        (exampleDenied ++ ([(0, {})] : List Choice))).shared.state.running.lookup
          exampleRule.id = some .failed ∧
      ((run (System.step exampleCrates true) exampleOpened
        (exampleDenied ++ ([(0, {})] : List Choice))).thread 0).HasReturned ∧
      (run (System.step exampleCrates true) exampleOpened
        (exampleDenied ++ ([(0, {})] : List Choice))).shared.events = [] := by
  refine ⟨by decide +kernel, by decide +kernel, by decide +kernel, ⟨_, _, rfl⟩, by decide +kernel⟩

end TunnelDeck
