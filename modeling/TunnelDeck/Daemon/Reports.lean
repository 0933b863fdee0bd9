import TunnelDeck.Daemon.Lifecycle

/-!
# Reports of changes

A section that makes a rule active, reconnecting or failed, or takes its entry for a stop or an
edit, does not publish the event about it: the thread gives up the state lock first, and publishes
in a later section. `Pc.report` is the event that a thread has still to publish about a rule.

`exec_reported` lists what a section does to it: nothing, the thread comes to owe a report of the
entry that it has just left, it publishes the report, or it drops it. The last happens at a stop
whose cleanup fails.
-/

namespace TunnelDeck

open Json (Value)
open Concurrency

/-! ## Events about a rule -/

/-- The events that report the runtime state of a rule. -/
def lifecycleEvents : List String :=
  ["rule_started", "rule_reconnecting", "rule_failed", "rule_stopped"]

/-- The event that reports an entry. Without processes a started rule keeps its marker. -/
def lifecycleName (managed : Bool) : Option Attempt → Option String
  | some (.starting _) => if managed then none else some "rule_started"
  | some (.active _) => some "rule_started"
  | some (.reconnecting _) => some "rule_reconnecting"
  | some .failed => some "rule_failed"
  | none => some "rule_stopped"

section Events

variable (crates : Crates) (id : Uuid)

/-- The event carries the id of the rule. -/
def Event.IsAbout (event : Event) : Prop := event.payload = ruleIdPayload crates id

instance (event : Event) : Decidable (event.IsAbout crates id) :=
  inferInstanceAs (Decidable (_ = _))

/-- The reports about the rule among some events, in order. -/
def reportsIn (events : List Event) : List String :=
  (events.filter fun event ↦ event.IsAbout crates id ∧ event.event ∈ lifecycleEvents).map
    Event.event

@[simp] theorem reportsIn_nil : reportsIn crates id [] = [] := rfl

theorem reportsIn_append (events more : List Event) :
    reportsIn crates id (events ++ more) =
      reportsIn crates id events ++ reportsIn crates id more := by
  rw [reportsIn, List.filter_append, List.map_append]
  rfl

theorem reportsIn_eq_nil {events : List Event}
    (h : ∀ event ∈ events, event.event ∉ lifecycleEvents) :
    reportsIn crates id events = [] := by
  rw [reportsIn, List.map_eq_nil_iff, List.filter_eq_nil_iff]
  intro event hevent habout
  exact h event hevent (of_decide_eq_true habout).2

theorem reportsIn_ruleEvent {name : String} (h : name ∈ lifecycleEvents) :
    reportsIn crates id [ruleEvent crates name id] = [name] := by
  rw [reportsIn, List.filter_cons_of_pos]
  · rfl
  · exact decide_eq_true ⟨rfl, h⟩

theorem exists_of_mem_reportsIn {events : List Event} {name : String}
    (h : name ∈ reportsIn crates id events) : ∃ event ∈ events, event.IsAbout crates id := by
  obtain ⟨event, hevent, -⟩ := List.mem_map.mp h
  obtain ⟨hmem, habout⟩ := List.mem_filter.mp hevent
  exact ⟨event, hmem, (of_decide_eq_true habout).1⟩

end Events

theorem ruleIdPayload_injective {crates : Crates} (hcrates : crates.Faithful) :
    Function.Injective (ruleIdPayload crates) := by
  intro id j h
  simp only [ruleIdPayload, encodeUuid, Value.object.injEq, List.cons.injEq, Prod.mk.injEq,
    Value.string.injEq, true_and, and_true] at h
  have hparse := congrArg crates.parseUuid h
  rw [hcrates.parse_format, hcrates.parse_format] at hparse
  exact Option.some.inj hparse

theorem reportsIn_ruleEvent_of_ne {crates : Crates} (hcrates : crates.Faithful) {id j : Uuid}
    (h : j ≠ id) (name : String) : reportsIn crates id [ruleEvent crates name j] = [] := by
  rw [reportsIn, List.filter_cons_of_neg]
  · rfl
  · intro habout
    exact h (ruleIdPayload_injective hcrates (of_decide_eq_true habout).1)

/-! ## What a thread has still to publish -/

/-- The event about the rule that the thread has still to publish. -/
def Pc.report (id : Uuid) : Pc → Option String
  | .start _ (.publish event j _) => if j = id then some event else none
  | .stop _ (.cleanup j _) | .stop _ (.publish j) => if j = id then some "rule_stopped" else none
  | .edit _ e (.cleanup _) | .edit _ e (.stopFailed _) | .edit _ e .publishStopped =>
    if e.id = id then some "rule_stopped" else none
  | .edit _ e (.publishFailed _) => if e.id = id then some "rule_failed" else none
  | .maintain _ (.publish events _) => (events.find? fun event ↦ event.2 = id).map Prod.fst
  | _ => none

/-- What holds of a thread by the way it goes: it publishes lifecycle events only, `maintain` at
most one for each rule, and a launch has an attempt exactly if there are processes. -/
def Pc.Tidy (managed : Bool) : Pc → Prop
  | .start _ (.publish event _ _) => event ∈ lifecycleEvents
  | .start _ (.spawned _ _) => managed = true
  | .start _ (.launched _ attempt) => attempt.isSome = managed
  | .maintain _ (.publish events _) =>
    (events.map Prod.snd).Nodup ∧ ∀ event ∈ events, event.1 ∈ lifecycleEvents
  | _ => True

section Report

variable (id : Uuid)

@[simp] theorem Pc.Resting.report {p : Pc} (h : p.Resting) : p.report id = none := by
  cases h <;> rfl

theorem report_stopNext_self (crates : Crates) (request : Request) (entry : Option Attempt) :
    (stopNext crates request id entry).report id =
      if entry = none then none else some "rule_stopped" := by
  rcases entry with _ | (_ | _ | _ | _) <;> simp [stopNext, Pc.report]

theorem report_stopNext_of_ne (crates : Crates) (request : Request) {j : Uuid} (h : j ≠ id)
    (entry : Option Attempt) : (stopNext crates request j entry).report id = none := by
  rcases entry with _ | (_ | _ | _ | _) <;> simp [stopNext, Pc.report, h]

variable (managed : Bool)

@[simp] theorem Pc.Resting.tidy {p : Pc} (h : p.Resting) : p.Tidy managed := by
  cases h <;> trivial

@[simp] theorem tidy_stopNext (crates : Crates) (request : Request) (id : Uuid)
    (entry : Option Attempt) : (stopNext crates request id entry).Tidy managed := by
  rcases entry with _ | (_ | _ | _ | _) <;> trivial

end Report

/-! ## The reports of a scan -/

/-- The events that `maintain` has to publish after its scan. -/
def Scan.events (scan : Scan) : List (String × Uuid) :=
  scan.reconnecting.map (fun id ↦ ("rule_reconnecting", id)) ++
    scan.terminalFailures.map fun id ↦ ("rule_failed", id)

theorem mem_ended {order : List Uuid} {exited : ℕ → Bool} {s : State} {id : Uuid} :
    id ∈ (iterationOrder order s.running).filter
        (fun id ↦ (s.running.lookup id).any (Attempt.hasExited exited)) ↔
      ∃ attempt, (s.view id).entry = some (.active attempt) ∧ exited attempt.process = true := by
  rw [mem_filter_iterationOrder]
  constructor
  · rintro ⟨entry, hentry, hexited⟩
    cases entry with
    | active attempt => exact ⟨attempt, hentry, hexited⟩
    | starting _ | reconnecting _ | failed => cases hexited
  · rintro ⟨attempt, hentry, hexited⟩
    exact ⟨_, hentry, hexited⟩

theorem map_snd_events (scan : Scan) :
    scan.events.map Prod.snd = scan.reconnecting ++ scan.terminalFailures := by
  simp [Scan.events, Function.comp_def]

theorem events_maintainScan_tidy (order : List Uuid) (exited : ℕ → Bool) (now : ℕ) (fresh : Uuid)
    (s : State) :
    ((maintainScan order exited now fresh s).1.events.map Prod.snd).Nodup ∧
      ∀ event ∈ (maintainScan order exited now fresh s).1.events, event.1 ∈ lifecycleEvents := by
  constructor
  · rw [map_snd_events]
    simp only [maintainScan]
    have hnodup := (nodup_iterationOrder order s.running).filter
      (fun id ↦ (s.running.lookup id).any (Attempt.hasExited exited))
    refine List.nodup_append.mpr ⟨hnodup.filter _, hnodup.filter _, ?_⟩
    rintro id hid j hj rfl
    have hno := (List.mem_filter.mp hj).2
    rw [(List.mem_filter.mp hid).2] at hno
    cases hno
  · intro event hevent
    rcases List.mem_append.mp hevent with h | h <;> obtain ⟨id, -, rfl⟩ := List.mem_map.mp h
    · simp [lifecycleEvents]
    · simp [lifecycleEvents]

theorem find?_eq_ite (ids : List Uuid) (id : Uuid) :
    ids.find? (fun j ↦ decide (j = id)) = if id ∈ ids then some id else none := by
  induction ids with
  | nil => rfl
  | cons j ids ih =>
    by_cases hj : j = id
    · simp [hj]
    · rw [List.find?_cons_of_neg (by simpa using hj), ih]
      simp [List.mem_cons, Ne.symm hj]

section Scan

variable {order : List Uuid} {exited : ℕ → Bool} {now : ℕ} {fresh : Uuid} {s : State} {id : Uuid}

theorem mem_reconnecting_maintainScan :
    id ∈ (maintainScan order exited now fresh s).1.reconnecting ↔
      (∃ attempt, (s.view id).entry = some (.active attempt) ∧ exited attempt.process = true) ∧
        (s.view id).rule.any Rule.reconnect = true :=
  List.mem_filter.trans (and_congr mem_ended Iff.rfl)

theorem mem_terminalFailures_maintainScan :
    id ∈ (maintainScan order exited now fresh s).1.terminalFailures ↔
      (∃ attempt, (s.view id).entry = some (.active attempt) ∧ exited attempt.process = true) ∧
        (s.view id).rule.any Rule.reconnect = false := by
  refine List.mem_filter.trans (and_congr mem_ended ?_)
  rw [Bool.not_eq_true']
  rfl

/-- What a scan has to report about a rule: the entry it leaves, if the attempt had ended. -/
theorem report_maintainScan (order : List Uuid) (fresh : Uuid) (managed : Bool) (poller : Poller)
    (retry : List Uuid) :
    ((∃ attempt, (s.view id).entry = some (.active attempt) ∧ exited attempt.process = true) ∧
      ∃ name, (Pc.maintain poller
          (.publish (maintainScan order exited now fresh s).1.events retry)).report id = some name ∧
        lifecycleName managed ((s.view id).scan exited now).entry = some name) ∨
      (¬ (∃ attempt, (s.view id).entry = some (.active attempt) ∧
          exited attempt.process = true) ∧
        (Pc.maintain poller
          (.publish (maintainScan order exited now fresh s).1.events retry)).report id = none) := by
  simp only [Pc.report, Scan.events, List.find?_append, List.find?_map, Function.comp_def,
    find?_eq_ite]
  by_cases hended : ∃ attempt, (s.view id).entry = some (.active attempt) ∧
    exited attempt.process = true
  · refine Or.inl ⟨hended, ?_⟩
    have hexit : ∃ attemptId,
        (s.view id).scan exited now = (s.view id).exit now attemptId := by
      obtain ⟨attempt, hentry, hexited⟩ := hended
      exact ⟨attempt.attemptId, by simp [RuleView.scan, hentry, hexited]⟩
    obtain ⟨attemptId, hexit⟩ := hexit
    cases henabled : (s.view id).rule.any Rule.reconnect with
    | true =>
      have hmem : id ∈ (maintainScan order exited now fresh s).1.reconnecting :=
        mem_reconnecting_maintainScan.mpr ⟨hended, henabled⟩
      refine ⟨"rule_reconnecting", by simp [hmem], ?_⟩
      simp [hexit, RuleView.exit, henabled, lifecycleName]
    | false =>
      have hmem : id ∈ (maintainScan order exited now fresh s).1.terminalFailures :=
        mem_terminalFailures_maintainScan.mpr ⟨hended, henabled⟩
      have hnot : id ∉ (maintainScan order exited now fresh s).1.reconnecting := by
        intro h
        rw [(mem_reconnecting_maintainScan.mp h).2] at henabled
        cases henabled
      refine ⟨"rule_failed", by simp [hmem, hnot], ?_⟩
      simp [hexit, RuleView.exit, henabled, lifecycleName]
  · have hnot : id ∉ (maintainScan order exited now fresh s).1.reconnecting :=
      fun h ↦ hended (mem_reconnecting_maintainScan.mp h).1
    have hnot' : id ∉ (maintainScan order exited now fresh s).1.terminalFailures :=
      fun h ↦ hended (mem_terminalFailures_maintainScan.mp h).1
    exact Or.inr ⟨hended, by simp [hnot, hnot']⟩

end Scan

/-! ## What a section does to a report -/

/-- A section of a thread that goes from one point to another and leaves the rule with the entry
`entry`, with the reports about the rule that it publishes. -/
inductive ReportStep (managed : Bool) (env : Env) (id : Uuid) (p p' : Pc)
    (entry : Option Attempt) : List String → Prop
  /-- The thread owes what it owed before. -/
  | quiet (h : p'.report id = p.report id) : ReportStep managed env id p p' entry []
  /-- The thread has changed the rule and owes a report of that. -/
  | owe {name : String} (h : p'.report id = some name) (hnew : p.report id ≠ some name)
      (hname : lifecycleName managed entry = some name) : ReportStep managed env id p p' entry []
  /-- The thread publishes its report. -/
  | tell {name : String} (h : p.report id = some name) (h' : p'.report id = none) :
    ReportStep managed env id p p' entry [name]
  /-- A stop could not clean up, and reports nothing. -/
  | drop {request : Request} {attempt : ManagedAttempt}
      (h : p = .stop request (.cleanup id attempt)) (hcleanup : env.cleanup ≠ none)
      (h' : p'.report id = none) : ReportStep managed env id p p' entry []

section Exec

variable {crates : Crates} {managed : Bool} {env : Env} {d : Daemon} {id : Uuid}

theorem ReportStep.silent {p p' : Pc} {entry : Option Attempt} {events : List Event}
    (h : p'.report id = p.report id) (hevents : reportsIn crates id events = []) :
    ReportStep managed env id p p' entry (reportsIn crates id events) := by
  rw [hevents]
  exact .quiet h

/-- Publishing an event that the thread owes about some rule. -/
theorem ReportStep.publish (hcrates : crates.Faithful) {p p' : Pc} {entry : Option Attempt}
    {name : String} (hname : name ∈ lifecycleEvents) {j : Uuid}
    (h : j = id → p.report id = some name ∧ p'.report id = none)
    (h' : j ≠ id → p'.report id = p.report id) :
    ReportStep managed env id p p' entry (reportsIn crates id [ruleEvent crates name j]) := by
  by_cases hj : j = id
  · subst hj
    rw [reportsIn_ruleEvent crates j hname]
    exact .tell (h rfl).1 (h rfl).2
  · rw [reportsIn_ruleEvent_of_ne hcrates hj]
    exact .quiet (h' hj)

theorem commitChange_events (crates : Crates) (faults : SaveFaults) (rules : List Rule)
    (settings : Settings) (event : Event) (result : Value) (s : State) :
    (commitChange crates faults rules settings event result s).2.1 = [] ∨
      (commitChange crates faults rules settings event result s).2.1 = [event] := by
  simp only [commitChange]
  split
  · exact Or.inl rfl
  · exact Or.inr rfl

theorem commitRules_events (faults : SaveFaults) (rules : List Rule) (payload : Value) (s : State) :
    (commitRules crates faults rules payload s).2.1 = [] ∨
      (commitRules crates faults rules payload s).2.1 = [⟨"configuration_changed", payload⟩] := by
  unfold commitRules
  split
  · exact Or.inl rfl
  · exact commitChange_events ..

theorem dispatch_events (faults : SaveFaults) (now : ℕ) (request : Request) (s : State) :
    ∀ event ∈ (dispatch crates faults now request s).2.1, event.event ∉ lifecycleEvents := by
  have hconfiguration : ∀ (events : List Event) (payload : Value),
      events = [] ∨ events = [⟨"configuration_changed", payload⟩] →
      ∀ event ∈ events, event.event ∉ lifecycleEvents := by
    rintro events payload (rfl | rfl) event hevent
    · cases hevent
    · rw [List.mem_singleton.mp hevent]
      exact show "configuration_changed" ∉ lifecycleEvents by decide
  have hnone : ∀ event ∈ ([] : List Event), event.event ∉ lifecycleEvents :=
    fun _ h ↦ absurd h List.not_mem_nil
  have hrules : ∀ (rules : List Rule) (payload : Value),
      ∀ event ∈ (commitRules crates faults rules payload s).2.1, event.event ∉ lifecycleEvents :=
    fun rules payload ↦ hconfiguration _ _ (commitRules_events ..)
  unfold dispatch
  split
  · exact hnone
  · unfold forwardAdd
    repeat' split
    all_goals first | exact hrules _ _ | exact hnone
  · simp only [forwardImport]
    repeat' split
    all_goals first | exact hrules _ _ | exact hnone
  · simp only [forwardRemove]
    repeat' split
    all_goals first | exact hconfiguration _ _ (commitChange_events ..) | exact hnone
  · exact hnone
  · unfold settingsUpdate
    split
    · exact hnone
    · rename_i settings _
      intro event hevent
      rcases commitChange_events crates faults s.rules settings
        ⟨"settings_changed", encodeSettings settings⟩ (encodeSettings settings) s with h | h
      · rw [h] at hevent
        cases hevent
      · rw [h, List.mem_singleton] at hevent
        rw [hevent]
        exact show "settings_changed" ∉ lifecycleEvents by decide
  · exact hnone
  · exact hnone
  · exact hnone

/-- The events of a section, after which the rule `id` has the entry `entry`. -/
abbrev Reported (crates : Crates) (managed : Bool) (env : Env) (d : Daemon) (id : Uuid) (p : Pc)
    (after : Daemon × Pc) : Prop :=
  ∃ events, after.1.events = d.events ++ events ∧
    ReportStep managed env id p after.2 (after.1.state.view id).entry (reportsIn crates id events)

theorem Reported.quiet {p : Pc} {after : Daemon × Pc} (hevents : after.1.events = d.events)
    (h : after.2.report id = p.report id) : Reported crates managed env d id p after :=
  ⟨[], by rw [hevents, List.append_nil], .quiet h⟩

theorem Reported.owe {p : Pc} {after : Daemon × Pc} {name : String}
    (hevents : after.1.events = d.events) (h : after.2.report id = some name)
    (hnew : p.report id ≠ some name)
    (hname : lifecycleName managed (after.1.state.view id).entry = some name) :
    Reported crates managed env d id p after :=
  ⟨[], by rw [hevents, List.append_nil], .owe h hnew hname⟩

theorem execStart_reported (hcrates : crates.Faithful) {caller : Caller} {pc : StartPc}
    (hp : (Pc.start caller pc).Tidy managed) :
    Reported crates managed env d id (.start caller pc)
      (execStart crates managed env d caller pc) := by
  cases pc with
  | enter =>
    simp only [execStart]
    split
    · exact .quiet rfl ((resting_resume ..).report _)
    · exact .quiet rfl ((resting_resume ..).report _)
    · exact .quiet rfl rfl
  | launch launch =>
    simp only [execStart]
    split
    · split <;> exact .quiet rfl rfl
    · exact .quiet rfl rfl
  | spawned launch process =>
    simp only [execStart]
    split <;> exact .quiet rfl rfl
  | failed launch error =>
    by_cases hcurrent : launch.current d.state
    · obtain ⟨hrecorded, hself, -⟩ := startFailed_of_current hcurrent caller.editOwned error env.now
      simp only [execStart, hrecorded]
      split
      · exact .quiet rfl ((resting_resume ..).report _)
      · rename_i hreconnect
        by_cases hid : launch.id = id
        · subst hid
          -- the failure left a reconnect, which is what the event says
          refine .owe rfl (if_pos rfl) (fun h ↦ by cases h) ?_
          simp only [Daemon.setState, hself, RuleView.launchFailed, Option.some.inj hreconnect,
            if_true]
          rfl
        · exact .quiet rfl (if_neg hid)
      · exact .quiet rfl ((resting_resume ..).report _)
    · simp only [execStart, startFailed_of_not_current hcurrent]
      exact .quiet rfl ((resting_resume ..).report _)
  | launched launch attempt =>
    by_cases hcurrent : launch.current d.state
    · obtain ⟨hwanted, hself, -⟩ := startFinish_of_current hcurrent caller.editOwned attempt env.now
      simp only [execStart, hwanted, if_true]
      by_cases hid : launch.id = id
      · subst hid
        -- a managed daemon stores an attempt, an unmanaged one the marker
        refine .owe rfl (if_pos rfl) (fun h ↦ by cases h) ?_
        obtain rfl : attempt.isSome = managed := hp
        simp only [Daemon.setState, hself, RuleView.launched]
        cases attempt <;> rfl
      · exact .quiet rfl (if_neg hid)
    · simp only [execStart, startFinish_of_not_current hcurrent, Bool.false_eq_true, if_false]
      split
      · exact .quiet rfl rfl
      · exact .quiet rfl ((resting_resume ..).report _)
  | discard launch attempt => exact .quiet rfl ((resting_resume ..).report _)
  | publish event j reply =>
    refine ⟨_, rfl, .publish hcrates hp (fun hj ↦ ⟨if_pos hj, (resting_resume ..).report _⟩) ?_⟩
    intro hj
    exact ((resting_resume ..).report _).trans (if_neg hj).symm

theorem execStop_reported (hcrates : crates.Faithful) (request : Request) (pc : StopPc) :
    Reported crates managed env d id (.stop request pc) (execStop crates env d request pc) := by
  cases pc with
  | enter =>
    rcases hstop : stopEnter crates request.payload d.state with ⟨result, s⟩
    rcases stopEnter_spec hstop with ⟨failure, rfl, rfl⟩ | ⟨j, -, -, -, rfl, rfl⟩
    · simp only [execStop, hstop]
      exact .quiet rfl rfl
    · simp only [execStop, hstop]
      by_cases hj : j = id
      · subst hj
        by_cases hentry : d.state.running.lookup j = none
        · exact .quiet rfl (by rw [report_stopNext_self, if_pos hentry]; rfl)
        · refine .owe rfl (by rw [report_stopNext_self, if_neg hentry])
            (fun h ↦ by cases h) ?_
          rw [Daemon.setState, view_stopped]
          rfl
      · exact .quiet rfl (report_stopNext_of_ne id crates request hj _)
  | cleanup j attempt =>
    simp only [execStop]
    split
    · rename_i error hcleanup
      by_cases hj : j = id
      · subst hj
        exact ⟨[], (List.append_nil _).symm,
          .drop rfl (by rw [hcleanup]; exact Option.some_ne_none _) rfl⟩
      · exact .quiet rfl (if_neg hj).symm
    · exact .quiet rfl rfl
  | publish j =>
    refine ⟨_, rfl, .publish hcrates (by decide) (fun hj ↦ ⟨if_pos hj, rfl⟩) fun hj ↦ ?_⟩
    exact (if_neg hj).symm

theorem execEditEnter_reported (request : Request) :
    Reported crates managed env d id (.editEnter request) (execEditEnter crates d request) := by
  unfold execEditEnter
  split
  · exact .quiet rfl rfl
  · rename_i edit _
    rcases hreserve : editReserve crates edit d.state with ⟨result, s⟩
    rcases editReserve_spec hreserve with ⟨failure, rfl, rfl⟩ | ⟨attempt, -, -, -, rfl, rfl⟩
    · exact .quiet rfl rfl
    · by_cases hid : edit.id = id
      · subst hid
        refine .owe rfl (if_pos rfl) (fun h ↦ by cases h) ?_
        simp only [Daemon.setState, view_reserved]
        rfl
      · exact .quiet rfl (if_neg hid)

theorem execEdit_reported (hcrates : crates.Faithful) (request : Request) (edit : Edit)
    (pc : EditPc) :
    Reported crates managed env d id (.edit request edit pc)
      (execEdit crates env d request edit pc) := by
  cases pc with
  | cleanup attempt =>
    simp only [execEdit]
    split <;> exact .quiet rfl rfl
  | stopFailed error =>
    by_cases hid : edit.id = id
    · subst hid
      refine .owe rfl (if_pos rfl) ?_ ?_
      · rw [Pc.report, if_pos rfl]
        decide
      simp only [execEdit, Daemon.setState, view_editStopFailed]
      rfl
    · exact .quiet rfl ((if_neg hid).trans (if_neg hid).symm)
  | publishFailed error =>
    refine ⟨_, rfl, .publish hcrates (by decide) (fun hj ↦ ⟨if_pos hj, rfl⟩) fun hj ↦ ?_⟩
    exact (if_neg hj).symm
  | publishStopped =>
    refine ⟨_, rfl, .publish hcrates (by decide) (fun hj ↦ ⟨if_pos hj, rfl⟩) fun hj ↦ ?_⟩
    exact (if_neg hj).symm
  | save =>
    simp only [execEdit]
    split
    · exact .quiet rfl rfl
    · split
      · exact ⟨_, rfl, .silent rfl (reportsIn_eq_nil _ _ fun event hevent ↦ by
          rw [List.mem_singleton.mp hevent]
          exact show "configuration_changed" ∉ lifecycleEvents by decide)⟩
      · exact .quiet rfl rfl
  | finish reply => exact .quiet rfl rfl

theorem events_foldl_cleanup (attempts : List ManagedAttempt) (d : Daemon) :
    (attempts.foldl Daemon.cleanup d).events = d.events := by
  induction attempts generalizing d with
  | nil => rfl
  | cons attempt attempts ih => exact ih (d.cleanup attempt)

theorem execMaintain_reported (hcrates : crates.Faithful) {poller : Poller} {pc : MaintainPc}
    (hp : (Pc.maintain poller pc).Tidy managed) :
    Reported crates managed env d id (.maintain poller pc)
      (execMaintain crates env d poller pc) := by
  cases pc with
  | scan =>
    have hevents : (execMaintain crates env d poller .scan).1.events = d.events :=
      events_foldl_cleanup ..
    have hview : ((execMaintain crates env d poller .scan).1.state.view id).entry =
        ((d.state.view id).scan env.exited env.now).entry := by
      simp only [execMaintain, state_foldl_cleanup]
      exact congrArg RuleView.entry (view_maintainScan ..)
    rcases report_maintainScan env.order env.processId managed poller
      (maintainScan env.order env.exited env.now env.processId d.state).1.retry with
      ⟨-, name, h, hname⟩ | ⟨-, h⟩
    · exact .owe hevents h (fun h ↦ by cases h) (by rw [hview]; exact hname)
    · exact .quiet hevents h
  | publish events retry =>
    cases events with
    | nil => exact .quiet rfl ((resting_nextRetry ..).report _)
    | cons event events =>
      obtain ⟨hnodup, hnames⟩ := hp
      refine ⟨_, rfl, .publish hcrates (hnames event List.mem_cons_self) (fun hid ↦ ⟨?_, ?_⟩)
        fun hid ↦ ?_⟩
      · simp [Pc.report, hid]
      · -- each rule is reported once, so the report is not among the others
        have hnone : event.2 ∉ events.map Prod.snd := (List.nodup_cons.mp hnodup).1
        simp only [execMaintain, Pc.report, Option.map_eq_none_iff, List.find?_eq_none,
          decide_eq_true_eq]
        intro other hother hsame
        exact hnone (hid.trans hsame.symm ▸ List.mem_map_of_mem hother)
      · simp [Pc.report, execMaintain, hid]

/-- **What a section does to the report about a rule.** -/
theorem exec_reported (hcrates : crates.Faithful) (env : Env) (d : Daemon) (id : Uuid) {p : Pc}
    (hp : p.Tidy managed) : Reported crates managed env d id p (exec crates managed env d p) := by
  cases p with
  | idle =>
    simp only [exec]
    split
    · exact .quiet rfl rfl
    · exact .quiet rfl ((resting_handle ..).report _)
    · exact .quiet rfl rfl
  | returned request reply => exact .quiet rfl rfl
  | dispatch request =>
    exact ⟨_, rfl, .silent rfl (reportsIn_eq_nil _ _
      (dispatch_events env.save env.now request d.state))⟩
  | start caller pc => exact execStart_reported hcrates hp
  | stop request pc => exact execStop_reported hcrates request pc
  | editEnter request => exact execEditEnter_reported request
  | edit request edit pc => exact execEdit_reported hcrates request edit pc
  | maintain poller pc => exact execMaintain_reported hcrates hp
  | supervise => exact .quiet rfl ((resting_nextRestore ..).report _)

theorem exec_tidy (crates : Crates) (env : Env) (d : Daemon) {p : Pc} (hp : p.Tidy managed) :
    (exec crates managed env d p).2.Tidy managed := by
  cases p with
  | idle =>
    simp only [exec]
    split
    · trivial
    · exact (resting_handle ..).tidy _
    · trivial
  | start caller pc =>
    cases pc with
    | enter =>
      simp only [exec, execStart]
      split
      · exact (resting_resume ..).tidy _
      · exact (resting_resume ..).tidy _
      · trivial
    | launch launch =>
      simp only [exec, execStart]
      split
      · rename_i hmanaged
        split
        · trivial
        · exact hmanaged
      · rename_i hmanaged
        exact (Bool.eq_false_of_not_eq_true hmanaged).symm
    | spawned launch process =>
      simp only [exec, execStart]
      split
      · trivial
      · exact hp.symm
    | failed launch error =>
      simp only [exec, execStart]
      split
      · exact (resting_resume ..).tidy _
      · exact show "rule_reconnecting" ∈ lifecycleEvents by decide
      · exact (resting_resume ..).tidy _
    | launched launch attempt =>
      simp only [exec, execStart]
      split
      · exact show "rule_started" ∈ lifecycleEvents by decide
      · split
        · trivial
        · exact (resting_resume ..).tidy _
    | discard launch attempt => exact (resting_resume ..).tidy _
    | publish event id reply => exact (resting_resume ..).tidy _
  | stop request pc =>
    cases pc with
    | enter =>
      simp only [exec, execStop]
      split
      · trivial
      · exact tidy_stopNext ..
    | cleanup id attempt =>
      simp only [exec, execStop]
      split <;> trivial
    | publish id => trivial
  | editEnter request =>
    simp only [exec, execEditEnter]
    repeat' split
    all_goals trivial
  | edit request edit pc =>
    cases pc with
    | cleanup attempt =>
      simp only [exec, execEdit]
      split <;> trivial
    | save =>
      simp only [exec, execEdit]
      split <;> trivial
    | stopFailed | publishFailed | publishStopped | finish => trivial
  | maintain poller pc =>
    cases pc with
    | scan => exact events_maintainScan_tidy _ _ _ env.processId _
    | publish events retry =>
      cases events with
      | nil => exact (resting_nextRetry ..).tidy _
      | cons event events =>
        -- the events that are left are a tail of the list
        exact ⟨(List.nodup_cons.mp hp.1).2, fun e he ↦ hp.2 e (List.mem_cons_of_mem _ he)⟩
  | supervise => exact (resting_nextRestore ..).tidy _
  | returned | dispatch => trivial

end Exec

theorem tidy_step {crates : Crates} {managed : Bool} {w : System}
    (h : ∀ t, (w.thread t).Tidy managed) (a : Choice) :
    ∀ t, ((System.step crates managed w a).thread t).Tidy managed := by
  intro t
  by_cases ht : t = a.1
  · rw [ht, World.step_thread_self]
    exact exec_tidy crates a.2 w.shared (h a.1)
  · rw [World.step_thread_of_ne _ w ht]
    exact h t

end TunnelDeck
