import TunnelDeck.Daemon.Markers

/-!
# How attempts change hands

From the moment its guardian is spawned an attempt belongs to the thread that launches it, to the
runtime entry of its rule, or to the thread that took it out of there and cleans it up.
`ProcessStep` lists everything a section can do to one process: it is spawned, its start returns or
fails, it is stored, taken, dropped or cleaned up. `exec_processStep` shows that the daemon does
nothing else to a process.
-/

namespace TunnelDeck

open Concurrency

/-! ## What a thread answers for -/

/-- The process a thread answers for, and how far it is: one whose start it is waiting for, or one
that was returned and is not stored. -/
def Pc.owns : Pc → Option (ℕ × Phase)
  | .start _ (.spawned _ process) => some (process, .launching)
  | .start _ (.launched _ (some attempt)) | .start _ (.discard _ attempt)
  | .stop _ (.cleanup _ attempt) | .edit _ _ (.cleanup attempt) => some (attempt.process, .running)
  | _ => none

/-- The rule whose launch or cleanup a thread is in the middle of. -/
def Pc.busy : Pc → Option Uuid
  | .start _ (.launch launch) | .start _ (.spawned launch _) | .start _ (.launched launch _)
  | .start _ (.discard launch _) => some launch.id
  | .stop _ (.cleanup id _) => some id
  | .edit _ e (.cleanup _) => some e.id
  | _ => none

@[simp] theorem owns_stopNext (crates : Crates) (request : Request) (id : Uuid)
    (entry : Option Attempt) : (stopNext crates request id entry).owns =
      (entry.bind Attempt.managed).map fun attempt ↦ (attempt.process, .running) := by
  rcases entry with _ | (_ | _ | _ | _) <;> rfl

@[simp] theorem Pc.Resting.owns {p : Pc} (h : p.Resting) : p.owns = none := by
  cases h <;> rfl

/-! ## The active entries -/

def Daemon.stores (d : Daemon) (id : Uuid) (attempt : ManagedAttempt) : Prop :=
  (d.state.view id).entry = some (.active attempt)

/-- No process is stored twice. -/
def Daemon.StoresOnce (d : Daemon) : Prop :=
  ∀ i j a b, d.stores i a → d.stores j b → a.process = b.process → i = j

theorem Attempt.managed_eq_some_iff {entry : Attempt} {attempt : ManagedAttempt} :
    entry.managed = some attempt ↔ entry = .active attempt := by
  cases entry <;> simp [Attempt.managed]

theorem Daemon.stores_unique {d : Daemon} {id : Uuid} {a b : ManagedAttempt} (ha : d.stores id a)
    (hb : d.stores id b) : a = b :=
  Attempt.active.inj (Option.some.inj (ha.symm.trans hb))

/-- The sections that store an attempt or take one out. -/
def Pc.transfers : Pc → Bool
  | .start _ (.launched _ (some _)) | .stop _ .enter | .editEnter _ | .maintain _ .scan => true
  | _ => false

variable {crates : Crates} {managed : Bool} {env : Env} {d : Daemon}

/-- Every other section leaves the active entries alone. -/
theorem RuleStep.active_iff {id : Uuid} {p p' : Pc} {v : RuleView}
    (h : RuleStep crates env d id p p' v) (hp : Reserves d p) (htransfers : p.transfers = false)
    (attempt : ManagedAttempt) :
    v.entry = some (.active attempt) ↔ d.stores id attempt := by
  rw [Daemon.stores]
  cases h with
  | keep | configure | release | commit | unreserve => exact Iff.rfl
  | refuse hadmitted hrule hentry =>
    rcases hentry with hentry | hentry <;> simp [hentry]
  | launch hadmitted hrule hentry =>
    rcases hentry with hentry | hentry <;> simp [hentry]
  | @fail caller launch error p' hid hcurrent =>
    subst hid
    have hbefore : (d.state.view launch.id).entry = some (.starting launch.attemptId) := hcurrent
    rcases (d.state.view launch.id).launchFailed_entry caller.editOwned launch error env.now with
      ⟨due, hafter⟩ | hafter | ⟨-, hafter⟩ <;> simp [hafter, hbefore]
  | @finish caller launch returned hid hcurrent =>
    subst hid
    have hbefore : (d.state.view launch.id).entry = some (.starting launch.attemptId) := hcurrent
    cases returned with
    | none => simp [RuleView.launched, Launch.entry, hbefore]
    | some attempt => cases htransfers
  | @stopFailed request edit error hid =>
    subst hid
    simp [RuleView.stopFailed, (hp.pending edit rfl).2.1]
  | stop | reserve | scan => cases htransfers

theorem stores_exec_iff (hcrates : crates.Faithful) (managed : Bool) (env : Env) {p : Pc}
    (hp : Reserves d p) (htransfers : p.transfers = false) (id : Uuid)
    (attempt : ManagedAttempt) :
    (exec crates managed env d p).1.stores id attempt ↔ d.stores id attempt :=
  (exec_ruleStep hcrates managed env d id p).active_iff hp htransfers attempt

/-! ## Steps of one process -/

/-- What one section does to the process `k`. -/
inductive ProcessStep (d : Daemon) (k : ℕ) : Pc → Pc → Daemon → Prop
  /-- The section does nothing to the process. -/
  | keep {p p' : Pc} {d' : Daemon} (hprocess : d'.processes[k]? = d.processes[k]?)
      (howns : ∀ phase, p'.owns = some (k, phase) ↔ p.owns = some (k, phase))
      (hbusy : ∀ phase, p'.owns = some (k, phase) →
        p'.busy = p.busy ∧ ∀ l, p'.launching = some l → p.launching = some l)
      (hstores : ∀ id a, a.process = k → (d'.stores id a ↔ d.stores id a)) :
    ProcessStep d k p p' d'
  /-- The guardian is spawned. -/
  | spawn {caller : Caller} {launch : Launch} {d' : Daemon} (hk : k = d.processes.length)
      (hprocess : d'.processes[k]? = some ⟨launch, .launching, 0⟩)
      (hstores : ∀ id a, d'.stores id a ↔ d.stores id a) :
    ProcessStep d k (.start caller (.launch launch)) (.start caller (.spawned launch k)) d'
  /-- The start returns the attempt. -/
  | ready {caller : Caller} {launch : Launch} {attemptId : Uuid} {d' : Daemon}
      (hprocess : d'.processes[k]? = d.processes[k]?.map fun p ↦ { p with phase := .running })
      (hstores : ∀ id a, d'.stores id a ↔ d.stores id a) :
    ProcessStep d k (.start caller (.spawned launch k))
      (.start caller (.launched launch (some ⟨k, attemptId⟩))) d'
  /-- The start fails, and the attempt has ended or is left behind. -/
  | fail {caller : Caller} {launch : Launch} {error : ProcessError} {phase : Phase} {d' : Daemon}
      (hprocess : d'.processes[k]? = d.processes[k]?.map fun p ↦ { p with phase })
      (hphase : phase = .failed ∨ phase = .abandoned)
      (hstores : ∀ id a, d'.stores id a ↔ d.stores id a) :
    ProcessStep d k (.start caller (.spawned launch k)) (.start caller (.failed launch error)) d'
  /-- An attempt that was left behind has ended. -/
  | expire {process : Process} {d' : Daemon} (hget : d.processes[k]? = some process)
      (habandoned : process.phase = .abandoned)
      (hprocess : d'.processes[k]? = some { process with phase := .failed })
      (hstores : ∀ id a, d'.stores id a ↔ d.stores id a) : ProcessStep d k .idle .idle d'
  /-- The attempt becomes the entry of its rule. -/
  | store {caller : Caller} {launch : Launch} {attempt : ManagedAttempt} {p' : Pc} {d' : Daemon}
      (hk : attempt.process = k) (hcurrent : launch.current d.state) (howns : p'.owns = none)
      (hprocess : d'.processes[k]? = d.processes[k]?)
      (hstores : ∀ id a, a.process = k →
        (d'.stores id a ↔ (id = launch.id ∧ a = attempt) ∨ d.stores id a)) :
    ProcessStep d k (.start caller (.launched launch (some attempt))) p' d'
  /-- The attempt is cleaned up by the thread that holds it. -/
  | clean {p p' : Pc} {d' : Daemon} (howns : p.owns = some (k, .running)) (howns' : p'.owns = none)
      (hprocess : d'.processes[k]? = d.processes[k]?.map fun p ↦
        { p with phase := .cleaned, cleanups := p.cleanups + 1 })
      (hstores : ∀ id a, d'.stores id a ↔ d.stores id a) :
    ProcessStep d k p p' d'
  /-- The attempt is taken out of the entry of its rule. -/
  | take {p p' : Pc} {d' : Daemon} {id : Uuid} {attempt : ManagedAttempt}
      (hk : attempt.process = k) (hstored : d.stores id attempt)
      (howns' : p'.owns = some (k, .running)) (hbusy : p'.busy = some id)
      (hlaunching : p'.launching = none) (hprocess : d'.processes[k]? = d.processes[k]?)
      (hstores : ∀ j a, a.process = k → d'.stores j a → d.stores j a ∧ j ≠ id) :
    ProcessStep d k p p' d'
  /-- The attempt has ended and is dropped, which cleans up. -/
  | drop {p p' : Pc} {d' : Daemon} {id : Uuid} {attempt : ManagedAttempt}
      (hk : attempt.process = k) (hstored : d.stores id attempt) (howns : p.owns = none)
      (howns' : p'.owns = none)
      (hprocess : d'.processes[k]? = d.processes[k]?.map fun p ↦
        { p with phase := .cleaned, cleanups := p.cleanups + 1 })
      (hstores : ∀ j a, a.process = k → ¬ d'.stores j a) :
    ProcessStep d k p p' d'

section Exec

variable {k : ℕ}

theorem ProcessStep.other {p p' : Pc} {d' : Daemon} (hprocess : d'.processes[k]? = d.processes[k]?)
    (howns : ∀ phase, p.owns ≠ some (k, phase)) (howns' : ∀ phase, p'.owns ≠ some (k, phase))
    (hstores : ∀ id a, a.process = k → (d'.stores id a ↔ d.stores id a)) :
    ProcessStep d k p p' d' :=
  .keep hprocess (fun phase ↦ ⟨fun h ↦ absurd h (howns' phase), fun h ↦ absurd h (howns phase)⟩)
    (fun phase h ↦ absurd h (howns' phase)) hstores

theorem ProcessStep.silent {p p' : Pc} {d' : Daemon} (hprocesses : d'.processes = d.processes)
    (howns : p.owns = none) (howns' : p'.owns = none)
    (hstores : ∀ id a, d'.stores id a ↔ d.stores id a) : ProcessStep d k p p' d' :=
  .other (by rw [hprocesses]) (fun phase h ↦ nomatch howns.symm.trans h)
    (fun phase h ↦ nomatch howns'.symm.trans h) fun id a _ ↦ hstores id a

theorem owns_ne {process : ℕ} (h : process ≠ k) (phase phase' : Phase) :
    some (process, phase) ≠ some (k, phase') :=
  fun heq ↦ h (congrArg Prod.fst (Option.some.inj heq))

@[simp] theorem processes_settle_self (d : Daemon) (k : ℕ) (phase : Phase) :
    (d.settle k phase).processes[k]? = d.processes[k]?.map fun p ↦ { p with phase } :=
  List.getElem?_modify_eq ..

theorem processes_settle_of_ne (d : Daemon) {j k : ℕ} (h : j ≠ k) (phase : Phase) :
    (d.settle j phase).processes[k]? = d.processes[k]? :=
  List.getElem?_modify_ne _ _ h

@[simp] theorem processes_cleanup_self (d : Daemon) (attempt : ManagedAttempt) :
    (d.cleanup attempt).processes[attempt.process]? = d.processes[attempt.process]?.map fun p ↦
      { p with phase := .cleaned, cleanups := p.cleanups + 1 } :=
  List.getElem?_modify_eq ..

theorem processes_cleanup_of_ne (d : Daemon) {attempt : ManagedAttempt} (h : attempt.process ≠ k) :
    (d.cleanup attempt).processes[k]? = d.processes[k]? :=
  List.getElem?_modify_ne _ _ h

theorem ProcessStep.cleanup {p p' : Pc} {attempt : ManagedAttempt}
    (howns : p.owns = some (attempt.process, .running)) (howns' : p'.owns = none) :
    ProcessStep d k p p' (d.cleanup attempt) := by
  by_cases hk : attempt.process = k
  · subst hk
    exact .clean howns howns' (processes_cleanup_self d attempt) fun id a ↦ Iff.rfl
  · refine .other (processes_cleanup_of_ne d hk) (fun phase ↦ ?_) (fun phase ↦ ?_)
      fun id a _ ↦ Iff.rfl
    · rw [howns]
      exact owns_ne hk _ _
    · rw [howns']
      exact nofun

/-- A thread leaves a rule without an entry. If that was an attempt, the thread holds it now. -/
theorem ProcessStep.emptied {p p' : Pc} {d' : Daemon} {id : Uuid}
    (hprocesses : d'.processes = d.processes) (howns : p.owns = none)
    (hself : (d'.state.view id).entry = none) (hother : ∀ j ≠ id, d'.state.view j = d.state.view j)
    (htaken : ∀ attempt, d.stores id attempt → p'.owns = some (attempt.process, .running) ∧
      p'.busy = some id ∧ p'.launching = none)
    (hnone : (∀ attempt, ¬ d.stores id attempt) → p'.owns = none) : ProcessStep d k p p' d' := by
  have hleft : ∀ j a, d'.stores j a ↔ d.stores j a ∧ j ≠ id := by
    intro j a
    by_cases hj : j = id
    · subst hj
      simp [Daemon.stores, hself]
    · simp [Daemon.stores, hother j hj, hj]
  by_cases hstored : ∃ attempt, d.stores id attempt
  · obtain ⟨attempt, hstored⟩ := hstored
    obtain ⟨howns', hbusy, hlaunching⟩ := htaken attempt hstored
    by_cases hk : attempt.process = k
    · refine .take hk hstored (hk ▸ howns') hbusy hlaunching (by rw [hprocesses]) ?_
      intro j a _ hj
      exact (hleft j a).mp hj
    · refine .other (by rw [hprocesses]) (fun phase ↦ ?_) (fun phase ↦ ?_) fun j a ha ↦ ?_
      · rw [howns]
        exact nofun
      · rw [howns']
        exact owns_ne hk _ _
      · rw [hleft]
        refine ⟨And.left, fun hj ↦ ⟨hj, fun hid ↦ ?_⟩⟩
        subst hid
        exact hk (Daemon.stores_unique hstored hj ▸ ha)
  · rw [not_exists] at hstored
    refine .silent hprocesses howns (hnone hstored) fun j a ↦ ?_
    rw [hleft]
    refine ⟨And.left, fun hj ↦ ⟨hj, fun hid ↦ ?_⟩⟩
    subst hid
    exact hstored a hj

/-! ## Sections that launch -/

/-- A launch that is still wanted makes its attempt the entry of its rule, and no other rule stores
it. -/
theorem stores_launched {caller : Caller} {launch : Launch} (hcurrent : launch.current d.state)
    (attempt : ManagedAttempt) (id : Uuid) (a : ManagedAttempt) :
    (execStart crates managed env d caller (.launched launch (some attempt))).1.stores id a ↔
      (id = launch.id ∧ a = attempt) ∨ d.stores id a := by
  obtain ⟨hwanted, hself, hother⟩ := startFinish_of_current hcurrent caller.editOwned
    (some attempt) env.now
  have hbefore : (d.state.view launch.id).entry = some (.starting launch.attemptId) := hcurrent
  simp only [execStart, hwanted, if_true, Daemon.stores, Daemon.setState]
  by_cases hid : id = launch.id
  · subst hid
    have hentry : ((d.state.view launch.id).launched caller.editOwned
        (launch.entry (some attempt)) env.now).entry = some (.active attempt) := rfl
    rw [hself, hentry, hbefore]
    constructor
    · intro h
      exact Or.inl ⟨rfl, (Attempt.active.inj (Option.some.inj h)).symm⟩
    · rintro (⟨-, rfl⟩ | h)
      · rfl
      · cases h
  · rw [hother id hid]
    simp [hid]

theorem launched_processStep {caller : Caller} {launch : Launch}
    (hcurrent : launch.current d.state) (attempt : ManagedAttempt) :
    ProcessStep d k (.start caller (.launched launch (some attempt)))
      (execStart crates managed env d caller (.launched launch (some attempt))).2
      (execStart crates managed env d caller (.launched launch (some attempt))).1 := by
  obtain ⟨hwanted, -, -⟩ := startFinish_of_current hcurrent caller.editOwned (some attempt) env.now
  have howns : (execStart crates managed env d caller
      (.launched launch (some attempt))).2.owns = none := by
    simp only [execStart, hwanted, if_true]
    rfl
  have hprocesses : (execStart crates managed env d caller
      (.launched launch (some attempt))).1.processes = d.processes := by
    simp only [execStart, hwanted, if_true]
    rfl
  by_cases hk : attempt.process = k
  · exact .store hk hcurrent howns (by rw [hprocesses]) fun id a _ ↦
      stores_launched hcurrent attempt id a
  · refine .other (by rw [hprocesses]) (owns_ne hk _) (fun phase ↦ ?_) fun id a ha ↦ ?_
    · rw [howns]
      rintro ⟨⟩
    · rw [stores_launched hcurrent]
      constructor
      · rintro (⟨-, rfl⟩ | h)
        · exact absurd ha hk
        · exact h
      · exact Or.inr

theorem execStart_processStep (hcrates : crates.Faithful) {caller : Caller} {pc : StartPc}
    (hp : Reserves d (.start caller pc)) :
    ProcessStep d k (.start caller pc) (execStart crates managed env d caller pc).2
      (execStart crates managed env d caller pc).1 := by
  have hstores := stores_exec_iff hcrates managed env hp
  cases pc with
  | enter =>
    refine .silent ?_ rfl ?_ (hstores rfl)
    · simp only [execStart]
      split <;> rfl
    · simp only [execStart]
      split
      · exact (resting_resume ..).owns
      · exact (resting_resume ..).owns
      · rfl
  | launch launch =>
    simp only [exec, execStart] at hstores ⊢
    by_cases hmanaged : managed = true
    · rw [if_pos hmanaged] at hstores ⊢
      rcases hspawn : env.spawn with _ | error
      -- the new process gets the first free number
      · by_cases hk : k = d.processes.length
        · subst hk
          refine .spawn rfl ?_ fun id a ↦ Iff.rfl
          simp [Daemon.spawn]
        · refine .other ?_ (fun phase h ↦ by cases h) (owns_ne (Ne.symm hk) _) fun id a _ ↦ Iff.rfl
          rcases Nat.lt_or_gt_of_ne hk with hlt | hlt
          · exact List.getElem?_append_left hlt
          · rw [List.getElem?_eq_none hlt.le, List.getElem?_eq_none]
            simpa [Daemon.spawn, Nat.succ_le_iff] using hlt
      · exact .silent rfl rfl rfl fun id a ↦ Iff.rfl
    · rw [if_neg hmanaged]
      exact .silent rfl rfl rfl fun id a ↦ Iff.rfl
  | spawned launch process =>
    simp only [execStart]
    by_cases hk : process = k
    · subst hk
      rcases env.ready with _ | error
      · exact .ready (processes_settle_self ..) fun id a ↦ Iff.rfl
      · refine .fail (processes_settle_self ..) ?_ fun id a ↦ Iff.rfl
        cases env.exitedInTime
        · exact Or.inr rfl
        · exact Or.inl rfl
    · rcases env.ready with _ | error
      · exact .other (processes_settle_of_ne d hk _) (owns_ne hk _) (owns_ne hk _)
          fun id a _ ↦ Iff.rfl
      · exact .other (processes_settle_of_ne d hk _) (owns_ne hk _) (fun phase h ↦ by cases h)
          fun id a _ ↦ Iff.rfl
  | launched launch attempt =>
    by_cases hcurrent : launch.current d.state
    · cases attempt with
      | none =>
        obtain ⟨hwanted, -, -⟩ := startFinish_of_current hcurrent caller.editOwned none env.now
        refine .silent ?_ rfl ?_ (hstores rfl)
        · simp only [execStart, hwanted, if_true]
          rfl
        · simp only [execStart, hwanted, if_true]
          rfl
      | some attempt => exact launched_processStep hcurrent attempt
    · simp only [execStart, startFinish_of_not_current hcurrent, Bool.false_eq_true, if_false]
      cases attempt with
      | none => exact .silent rfl rfl (resting_resume ..).owns fun id a ↦ Iff.rfl
      | some attempt =>
        exact .keep rfl (fun phase ↦ Iff.rfl) (fun phase _ ↦ ⟨rfl, fun l hl ↦ by cases hl⟩)
          fun id a _ ↦ Iff.rfl
  | failed launch error =>
    refine .silent ?_ rfl ?_ (hstores rfl)
    · simp only [execStart]
      split <;> rfl
    · simp only [execStart]
      split
      · exact (resting_resume ..).owns
      · rfl
      · exact (resting_resume ..).owns
  | discard launch attempt => exact .cleanup rfl (resting_resume ..).owns
  | publish event id reply => exact .silent rfl rfl (resting_resume ..).owns fun id a ↦ Iff.rfl

/-! ## Sections that take an attempt -/

theorem execStop_processStep (request : Request) (pc : StopPc) :
    ProcessStep d k (.stop request pc) (execStop crates env d request pc).2
      (execStop crates env d request pc).1 := by
  cases pc with
  | enter =>
    rcases hstop : stopEnter crates request.payload d.state with ⟨result, s⟩
    rcases stopEnter_spec hstop with ⟨failure, rfl, rfl⟩ | ⟨id, -, -, -, rfl, rfl⟩
    · simp only [execStop, hstop]
      exact .silent rfl rfl rfl fun id a ↦ Iff.rfl
    · simp only [execStop, hstop]
      refine .emptied rfl rfl (congrArg RuleView.entry (view_stopped d.state id))
        (fun j hj ↦ view_stopped_of_ne d.state hj) (fun attempt hstored ↦ ?_) fun hnone ↦ ?_
      · have hlookup : d.state.running.lookup id = some (.active attempt) := hstored
        rw [hlookup]
        exact ⟨rfl, rfl, rfl⟩
      · rw [owns_stopNext, Option.map_eq_none_iff, Option.eq_none_iff_forall_ne_some]
        intro attempt h
        obtain ⟨entry, hentry, hmanaged⟩ := Option.bind_eq_some_iff.mp h
        rw [Attempt.managed_eq_some_iff] at hmanaged
        subst hmanaged
        exact hnone attempt hentry
  | cleanup id attempt =>
    refine .cleanup rfl ?_
    simp only [execStop]
    split <;> rfl
  | publish id => exact .silent rfl rfl rfl fun id a ↦ Iff.rfl

theorem execEditEnter_processStep (request : Request) :
    ProcessStep d k (.editEnter request) (execEditEnter crates d request).2
      (execEditEnter crates d request).1 := by
  rcases hparse : parseEdit crates request.payload with failure | edit
  · simp only [execEditEnter, hparse]
    exact .silent rfl rfl rfl fun id a ↦ Iff.rfl
  · rcases hreserve : editReserve crates edit d.state with ⟨result, s⟩
    rcases editReserve_spec hreserve with ⟨failure, rfl, rfl⟩ | ⟨attempt, -, -, hentry, rfl, rfl⟩
    · simp only [execEditEnter, hparse, hreserve]
      exact .silent rfl rfl rfl fun id a ↦ Iff.rfl
    · simp only [execEditEnter, hparse, hreserve]
      refine .emptied rfl rfl (congrArg RuleView.entry (view_reserved d.state edit.id))
        (fun j hj ↦ view_reserved_of_ne d.state hj) (fun a hstored ↦ ?_) fun hnone ↦ ?_
      · obtain rfl : attempt = a := Daemon.stores_unique hentry hstored
        exact ⟨rfl, rfl, rfl⟩
      · exact absurd hentry (hnone attempt)

/-! ## Maintenance -/

theorem RuleView.scan_active_iff (v : RuleView) (exited : ℕ → Bool) (now : ℕ)
    (attempt : ManagedAttempt) : (v.scan exited now).entry = some (.active attempt) ↔
      v.entry = some (.active attempt) ∧ exited attempt.process = false := by
  rcases hentry : v.entry with _ | entry
  · simp [RuleView.scan_of_none hentry, hentry]
  · cases entry with
    | active b =>
      cases hexited : exited b.process with
      | false =>
        simp only [RuleView.scan, hentry, hexited, RuleView.reset]
        constructor
        · intro h
          obtain rfl : b = attempt := by simpa using h
          exact ⟨rfl, hexited⟩
        · exact fun h ↦ h.1
      | true =>
        have hb : b = attempt → exited attempt.process ≠ false := by
          rintro rfl
          simp [hexited]
        simp only [RuleView.scan, hentry, hexited]
        rcases v.exit_entry now b.attemptId with ⟨due, h⟩ | h <;> simpa [h] using hb
    | reconnecting due =>
      simp only [RuleView.scan, hentry]
      split <;> simp [hentry]
    | starting marker => simp [RuleView.scan, hentry]
    | failed => simp [RuleView.scan, hentry]

theorem mem_dropped_maintainScan (order : List Uuid) (exited : ℕ → Bool) (now : ℕ) (fresh : Uuid)
    (d : Daemon) (attempt : ManagedAttempt) :
    attempt ∈ (maintainScan order exited now fresh d.state).1.dropped ↔
      ∃ id, d.stores id attempt ∧ exited attempt.process = true := by
  simp only [maintainScan, List.mem_filterMap, mem_filter_iterationOrder]
  constructor
  · rintro ⟨id, ⟨entry, hentry, hexited⟩, hmanaged⟩
    have hlookup : d.state.running.lookup id = some entry := hentry
    rw [hlookup] at hmanaged
    cases entry with
    | active b =>
      obtain rfl : b = attempt := Option.some.inj hmanaged
      exact ⟨id, hentry, hexited⟩
    | starting _ | reconnecting _ | failed => cases hexited
  · rintro ⟨id, hstored, hexited⟩
    have hlookup : d.state.running.lookup id = some (.active attempt) := hstored
    exact ⟨id, ⟨_, hstored, hexited⟩, by rw [hlookup]; rfl⟩

theorem nodup_dropped_maintainScan (order : List Uuid) (exited : ℕ → Bool) (now : ℕ)
    (fresh : Uuid) (honce : d.StoresOnce) :
    ((maintainScan order exited now fresh d.state).1.dropped.map ManagedAttempt.process).Nodup := by
  simp only [maintainScan, List.map_filterMap]
  refine List.Nodup.filterMap ?_ ((nodup_iterationOrder order d.state.running).filter _)
  intro i j k hi hj
  simp only [Option.mem_def, Option.map_eq_some_iff, Option.bind_eq_some_iff] at hi hj
  obtain ⟨a, ⟨entry, hentry, ha⟩, rfl⟩ := hi
  obtain ⟨b, ⟨entry', hentry', hb⟩, hk⟩ := hj
  rw [Attempt.managed_eq_some_iff] at ha hb
  subst ha hb
  exact honce i j a b hentry hentry' hk.symm

theorem processes_foldl_cleanup {attempts : List ManagedAttempt}
    (h : (attempts.map ManagedAttempt.process).Nodup) (d : Daemon) (k : ℕ) :
    (attempts.foldl Daemon.cleanup d).processes[k]? =
      if k ∈ attempts.map ManagedAttempt.process then d.processes[k]?.map fun p ↦
        { p with phase := .cleaned, cleanups := p.cleanups + 1 }
      else d.processes[k]? := by
  have hpoint : Pointwise (fun (d : Daemon) k ↦ d.processes[k]?) (fun d k ↦ d.cleanup ⟨k, 0⟩)
      (Option.map fun p ↦ { p with phase := .cleaned, cleanups := p.cleanups + 1 }) := by
    intro d j k
    by_cases hj : k = j
    · subst hj
      rw [if_pos rfl]
      exact processes_cleanup_self d ⟨k, 0⟩
    · rw [if_neg hj]
      exact processes_cleanup_of_ne d (Ne.symm hj)
  rw [← hpoint.foldl h d k, List.foldl_map]
  rfl

theorem execMaintain_processStep (honce : d.StoresOnce) (poller : Poller) (pc : MaintainPc) :
    ProcessStep d k (.maintain poller pc) (execMaintain crates env d poller pc).2
      (execMaintain crates env d poller pc).1 := by
  cases pc with
  | scan =>
    have hnodup := nodup_dropped_maintainScan env.order env.exited env.now env.processId honce
    have hmem := mem_dropped_maintainScan env.order env.exited env.now env.processId d
    have hprocess := processes_foldl_cleanup hnodup
      (d.setState (maintainScan env.order env.exited env.now env.processId d.state).2) k
    have hstores : ∀ id a, (execMaintain crates env d poller .scan).1.stores id a ↔
        d.stores id a ∧ env.exited a.process = false := by
      intro id a
      simp only [execMaintain, Daemon.stores, state_foldl_cleanup, Daemon.setState,
        view_maintainScan]
      exact RuleView.scan_active_iff ..
    by_cases hk : k ∈ (maintainScan env.order env.exited env.now env.processId
        d.state).1.dropped.map ManagedAttempt.process
    · rw [if_pos hk] at hprocess
      obtain ⟨attempt, hdropped, hk⟩ := List.mem_map.mp hk
      obtain ⟨id, hstored, hexited⟩ := (hmem attempt).mp hdropped
      refine .drop hk hstored rfl rfl hprocess fun j a ha hafter ↦ ?_
      rw [hstores, ha, ← hk, hexited] at hafter
      cases hafter.2
    · rw [if_neg hk] at hprocess
      refine .keep hprocess (fun phase ↦ Iff.rfl) (fun phase h ↦ by cases h) fun id a ha ↦ ?_
      rw [hstores]
      refine ⟨And.left, fun hstored ↦ ⟨hstored, ?_⟩⟩
      by_contra hexited
      exact hk (List.mem_map.mpr ⟨a, (hmem a).mpr ⟨id, hstored, by simpa using hexited⟩, ha⟩)
  | publish events retry =>
    cases events with
    | nil => exact .silent rfl rfl (resting_nextRetry ..).owns fun id a ↦ Iff.rfl
    | cons event events => exact .silent rfl rfl rfl fun id a ↦ Iff.rfl

theorem ProcessStep.reap (ended : ℕ → Bool) : ProcessStep d k .idle .idle (d.reap ended) := by
  have hprocess : (d.reap ended).processes[k]? = d.processes[k]?.map fun p ↦
      if p.phase = .abandoned ∧ ended k = true then { p with phase := .failed } else p :=
    List.getElem?_mapIdx
  rcases hget : d.processes[k]? with _ | process
  · rw [hget] at hprocess
    exact .other (by rw [hprocess, hget]; rfl) nofun nofun fun id a _ ↦ Iff.rfl
  · rw [hget, Option.map_some] at hprocess
    by_cases hended : process.phase = .abandoned ∧ ended k = true
    · rw [if_pos hended] at hprocess
      exact .expire hget hended.1 hprocess fun id a ↦ Iff.rfl
    · rw [if_neg hended] at hprocess
      exact .other (by rw [hprocess, hget]) nofun nofun fun id a _ ↦ Iff.rfl

/-- **What a section does to a process.** -/
theorem exec_processStep (hcrates : crates.Faithful) (managed : Bool) (env : Env) {d : Daemon}
    (honce : d.StoresOnce) (k : ℕ) {p : Pc} (hp : Reserves d p) :
    ProcessStep d k p (exec crates managed env d p).2 (exec crates managed env d p).1 := by
  have hstores := stores_exec_iff hcrates managed env hp
  cases p with
  | idle =>
    simp only [exec]
    split
    · exact .reap env.ended
    · exact .silent rfl rfl (resting_handle _).owns fun id a ↦ Iff.rfl
    · exact .silent rfl rfl rfl fun id a ↦ Iff.rfl
  | returned request reply => exact .silent rfl rfl rfl (hstores rfl)
  | dispatch request => exact .silent rfl rfl rfl (hstores rfl)
  | start caller pc => exact execStart_processStep hcrates hp
  | stop request pc => exact execStop_processStep request pc
  | editEnter request => exact execEditEnter_processStep request
  | edit request edit pc =>
    cases pc with
    | cleanup attempt =>
      refine .cleanup rfl ?_
      simp only [exec, execEdit]
      split <;> rfl
    | save =>
      refine .silent ?_ rfl ?_ (hstores rfl)
      · simp only [exec, execEdit]
        split
        · rfl
        · split <;> rfl
      · simp only [exec, execEdit]
        split <;> rfl
    | stopFailed error | publishFailed error | publishStopped | finish reply =>
      exact .silent rfl rfl rfl (hstores rfl)
  | maintain poller pc => exact execMaintain_processStep honce poller pc
  | supervise => exact .silent rfl rfl (resting_nextRestore _).owns (hstores rfl)

end Exec

end TunnelDeck
