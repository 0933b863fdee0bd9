import TunnelDeck.Daemon.Change

/-!
# The life of a rule

`RuleStep` lists everything a section can do to one rule: what its runtime entry, its flags and
its stored value are before and after, and which section of which call does it. It is the life
cycle *stopped, starting, active, reconnecting, failed* of a rule, with the reservation by an edit
as a second axis. `exec_ruleStep` shows that the daemon does nothing else, so an invariant of one
rule is proved by going through the list.
-/

namespace TunnelDeck

open Json (Value)
open Concurrency

/-! ## Threads between two pieces of work -/

/-- The thread is about to begin a piece of work, or has done what it was asked. -/
inductive Pc.Resting : Pc → Prop
  | returned {request : Request} {reply : Reply} : Resting (.returned request reply)
  | dispatch {request : Request} : Resting (.dispatch request)
  | client {request : Request} : Resting (.start (.client request) .enter)
  | retry {poller : Poller} {id : Uuid} {rest : List Uuid} :
    Resting (.start (.retry poller id rest) .enter)
  | restore {id : Uuid} {rest : List Uuid} : Resting (.start (.restore id rest) .enter)
  | stop {request : Request} : Resting (.stop request .enter)
  | editEnter {request : Request} : Resting (.editEnter request)
  | finish {request : Request} {edit : Edit} {reply : Reply} :
    Resting (.edit request edit (.finish reply))
  | scan {poller : Poller} : Resting (.maintain poller .scan)

@[simp] theorem resting_handle (request : Request) : (handle request).Resting := by
  rcases request with ⟨operation, payload⟩
  cases operation <;> constructor

@[simp] theorem resting_nextRetry (poller : Poller) (ids : List Uuid) :
    (nextRetry poller ids).Resting := by
  cases ids <;> cases poller <;> constructor

@[simp] theorem resting_nextRestore (ids : List Uuid) : (nextRestore ids).Resting := by
  cases ids <;> constructor

@[simp] theorem resting_resume (crates : Crates) (caller : Caller) (reply : Reply) :
    (caller.resume crates reply).Resting := by
  cases caller with
  | client request => exact .returned
  | retry poller id rest => exact resting_nextRetry poller rest
  | restore id rest => exact resting_nextRestore rest
  | edit request edit saved => exact .finish

/-! ## What a thread holds -/

def Pc.launching : Pc → Option Launch
  | .start _ (.launch launch) | .start _ (.spawned launch _) | .start _ (.launched launch _)
  | .start _ (.failed launch _) => some launch
  | _ => none

def Caller.reserved : Caller → Option Uuid
  | .edit _ e _ => some e.id
  | .client _ | .retry _ _ _ | .restore _ _ => none

def Pc.reserved : Pc → Option Uuid
  | .edit _ e _ => some e.id
  | .start caller _ => caller.reserved
  | _ => none

section Held

variable (request : Request) (reply : Reply) (caller : Caller) (edit : Edit) (poller : Poller)

@[simp] theorem launching_idle : Pc.idle.launching = none := rfl
@[simp] theorem launching_returned : (Pc.returned request reply).launching = none := rfl
@[simp] theorem launching_dispatch : (Pc.dispatch request).launching = none := rfl
@[simp] theorem launching_enter : (Pc.start caller .enter).launching = none := rfl
@[simp] theorem launching_discard (launch : Launch) (attempt : ManagedAttempt) :
    (Pc.start caller (.discard launch attempt)).launching = none := rfl
@[simp] theorem launching_publish (event : String) (id : Uuid) :
    (Pc.start caller (.publish event id reply)).launching = none := rfl
@[simp] theorem launching_stop (pc : StopPc) : (Pc.stop request pc).launching = none := rfl
@[simp] theorem launching_editEnter : (Pc.editEnter request).launching = none := rfl
@[simp] theorem launching_edit (pc : EditPc) : (Pc.edit request edit pc).launching = none := rfl
@[simp] theorem launching_maintain (pc : MaintainPc) :
    (Pc.maintain poller pc).launching = none := rfl
@[simp] theorem launching_supervise : Pc.supervise.launching = none := rfl

@[simp] theorem reserved_idle : Pc.idle.reserved = none := rfl
@[simp] theorem reserved_returned : (Pc.returned request reply).reserved = none := rfl
@[simp] theorem reserved_dispatch : (Pc.dispatch request).reserved = none := rfl
@[simp] theorem reserved_start (pc : StartPc) :
    (Pc.start caller pc).reserved = caller.reserved := rfl
@[simp] theorem reserved_stop (pc : StopPc) : (Pc.stop request pc).reserved = none := rfl
@[simp] theorem reserved_editEnter : (Pc.editEnter request).reserved = none := rfl
@[simp] theorem reserved_edit (pc : EditPc) :
    (Pc.edit request edit pc).reserved = some edit.id := rfl
@[simp] theorem reserved_maintain (pc : MaintainPc) :
    (Pc.maintain poller pc).reserved = none := rfl
@[simp] theorem reserved_supervise : Pc.supervise.reserved = none := rfl

end Held

@[simp] theorem launching_stopNext (crates : Crates) (request : Request) (id : Uuid)
    (entry : Option Attempt) : (stopNext crates request id entry).launching = none := by
  rcases entry with _ | (_ | _ | _ | _) <;> rfl

@[simp] theorem reserved_stopNext (crates : Crates) (request : Request) (id : Uuid)
    (entry : Option Attempt) : (stopNext crates request id entry).reserved = none := by
  rcases entry with _ | (_ | _ | _ | _) <;> rfl

@[simp] theorem Pc.Resting.launching {p : Pc} (h : p.Resting) : p.launching = none := by
  cases h <;> rfl

@[simp] theorem reserved_handle (request : Request) : (handle request).reserved = none := by
  rcases request with ⟨operation, payload⟩
  cases operation <;> rfl

@[simp] theorem reserved_nextRetry (poller : Poller) (ids : List Uuid) :
    (nextRetry poller ids).reserved = none := by
  cases ids <;> cases poller <;> rfl

@[simp] theorem reserved_nextRestore (ids : List Uuid) : (nextRestore ids).reserved = none := by
  cases ids <;> rfl

@[simp] theorem reserved_resume (crates : Crates) (caller : Caller) (reply : Reply) :
    (caller.resume crates reply).reserved = caller.reserved := by
  cases caller with
  | client request => rfl
  | retry poller id rest => exact reserved_nextRetry poller rest
  | restore id rest => exact reserved_nextRestore rest
  | edit request edit saved => rfl

/-! ## Steps of one rule -/

/-- The start is of the rule `id` and gets past the first checks. -/
structure Admitted (crates : Crates) (d : Daemon) (id : Uuid) (caller : Caller) : Prop where
  selects : ruleId crates (caller.payload crates) d.state = .ok id
  unreserved : (d.state.view id).editing → caller.editOwned = true
  wanted : caller.automatic = true → ¬ (d.state.view id).stopped

/-- What one section does to the rule `id`: the thread goes from one point to another and the rule
from its present view to a new one. -/
inductive RuleStep (crates : Crates) (env : Env) (d : Daemon) (id : Uuid) :
    Pc → Pc → RuleView → Prop
  /-- The section does nothing to the rule. -/
  | keep {p p' : Pc} (hlaunch : ∀ l, p'.launching = some l → l.id = id → p.launching = some l)
      (hreserved : p'.reserved = some id ↔ p.reserved = some id)
      (hadmitted : ∀ caller, p = .start caller .enter → ¬ Admitted crates d id caller) :
    RuleStep crates env d id p p' (d.state.view id)
  /-- A client changes the stored rule. -/
  | configure {request : Request} {reply : Reply} {rule : Option Rule}
      (hfree : (d.state.view id).rule = none ∨
        ((d.state.view id).entry = none ∧ ¬ (d.state.view id).editing)) :
    RuleStep crates env d id (.dispatch request) (.returned request reply)
      { d.state.view id with rule }
  /-- A start finds no rule, or one that is running already. -/
  | release {caller : Caller} {reply : Reply} (hadmitted : Admitted crates d id caller)
      (hrule : (d.state.view id).rule = none ∨
        ∃ entry, (d.state.view id).entry = some entry ∧ entry ≠ .failed) :
    RuleStep crates env d id (.start caller .enter) (caller.resume crates reply)
      ((d.state.view id).release caller.manual)
  /-- A start finds the local port taken. -/
  | refuse {caller : Caller} {rule : Rule} {failure : Failure}
      (hadmitted : Admitted crates d id caller) (hrule : (d.state.view id).rule = some rule)
      (hentry : (d.state.view id).entry = none ∨ (d.state.view id).entry = some .failed)
      (hport : checkLocalPort env.bind rule = .error failure) :
    RuleStep crates env d id (.start caller .enter) (caller.resume crates (.error failure))
      { (d.state.view id).release caller.manual with entry := none }
  /-- A start stores its marker. -/
  | launch {caller : Caller} {rule : Rule} (hadmitted : Admitted crates d id caller)
      (hrule : (d.state.view id).rule = some rule)
      (hentry : (d.state.view id).entry = none ∨ (d.state.view id).entry = some .failed)
      (hport : checkLocalPort env.bind rule = .ok ()) :
    RuleStep crates env d id (.start caller .enter)
      (.start caller (.launch ⟨id, rule, env.attemptId⟩))
      { (d.state.view id).release caller.manual with entry := some (.starting env.attemptId) }
  /-- A launch fails while its marker is the entry. -/
  | fail {caller : Caller} {launch : Launch} {error : ProcessError} {p' : Pc}
      (hid : launch.id = id) (hcurrent : launch.current d.state)
      (hlaunch : p'.launching = none) (hreserved : p'.reserved = caller.reserved) :
    RuleStep crates env d id (.start caller (.failed launch error)) p'
      ((d.state.view id).launchFailed caller.editOwned launch error env.now)
  /-- A launch succeeds while its marker is the entry. -/
  | finish {caller : Caller} {launch : Launch} {attempt : Option ManagedAttempt}
      (hid : launch.id = id) (hcurrent : launch.current d.state) :
    RuleStep crates env d id (.start caller (.launched launch attempt))
      (.start caller (.publish "rule_started" launch.id (startReply crates launch.id true true)))
      ((d.state.view id).launched caller.editOwned (launch.entry attempt) env.now)
  /-- A stop takes the entry. -/
  | stop {request : Request} (hid : ruleId crates request.payload d.state = .ok id)
      (hediting : ¬ (d.state.view id).editing)
      (hrule : (d.state.view id).rule.isSome = true) :
    RuleStep crates env d id (.stop request .enter)
      (stopNext crates request id (d.state.view id).entry) (d.state.view id).stop
  /-- An edit reserves the rule and takes its attempt. -/
  | reserve {request : Request} {edit : Edit} {attempt : ManagedAttempt} (hid : edit.id = id)
      (hrule : (d.state.view id).rule = some edit.expected)
      (hediting : ¬ (d.state.view id).editing)
      (hentry : (d.state.view id).entry = some (.active attempt)) :
    RuleStep crates env d id (.editEnter request) (.edit request edit (.cleanup attempt))
      (d.state.view id).reserve
  /-- An edit could not stop the attempt. -/
  | stopFailed {request : Request} {edit : Edit} {error : ProcessError} (hid : edit.id = id) :
    RuleStep crates env d id (.edit request edit (.stopFailed error))
      (.edit request edit (.publishFailed error)) (d.state.view id).stopFailed
  /-- An edit commits its replacement. -/
  | commit {request : Request} {edit : Edit} {outcome : Except StoreError Unit}
      (hid : edit.id = id) (houtcome : committed outcome = true)
      (hrule : (d.state.view id).rule.isSome = true) :
    RuleStep crates env d id (.edit request edit .save) (.start (.edit request edit outcome) .enter)
      { d.state.view id with rule := some edit.replacement }
  /-- An edit gives the rule back. -/
  | unreserve {request : Request} {edit : Edit} {reply : Reply} (hid : edit.id = id) :
    RuleStep crates env d id (.edit request edit (.finish reply)) (.returned request reply)
      { d.state.view id with editing := False }
  /-- Maintenance looks at the rule. -/
  | scan {poller : Poller} {events : List (String × Uuid)} {retry : List Uuid}
      (hretry : id ∈ retry ↔
        ∃ due, (d.state.view id).entry = some (.reconnecting due) ∧ due ≤ env.now) :
    RuleStep crates env d id (.maintain poller .scan) (.maintain poller (.publish events retry))
      ((d.state.view id).scan env.exited env.now)

section Exec

variable {crates : Crates} {managed : Bool} {env : Env} {d : Daemon} {id : Uuid}

theorem RuleStep.unrelated {p p' : Pc} {v : RuleView} (hv : v = d.state.view id)
    (hlaunch : ∀ l, p'.launching = some l → l.id = id → p.launching = some l)
    (hreserved : p'.reserved = some id ↔ p.reserved = some id)
    (hadmitted : ∀ caller, p = .start caller .enter → ¬ Admitted crates d id caller) :
    RuleStep crates env d id p p' v :=
  hv ▸ .keep hlaunch hreserved hadmitted

theorem RuleStep.congr {p p' : Pc} {v v' : RuleView} (h : RuleStep crates env d id p p' v)
    (hv : v' = v) : RuleStep crates env d id p p' v' :=
  hv ▸ h

theorem RuleStep.silent {p p' : Pc} {v : RuleView} (hv : v = d.state.view id)
    (hlaunch : ∀ l, p'.launching = some l → p.launching = some l)
    (hreserved : p'.reserved = p.reserved) (henter : ∀ caller, p ≠ .start caller .enter) :
    RuleStep crates env d id p p' v := by
  subst hv
  exact .keep (fun l hl _ ↦ hlaunch l hl) (by rw [hreserved])
    fun caller hcaller ↦ absurd hcaller (henter caller)

/-- A start that does nothing to the rule: it is of another rule or is turned away. -/
theorem RuleStep.turnedAway {caller : Caller} {p' : Pc} {v : RuleView}
    (hv : v = d.state.view id) (hlaunch : ∀ l, p'.launching = some l → l.id ≠ id)
    (hreserved : p'.reserved = (Pc.start caller .enter).reserved)
    (hadmitted : ¬ Admitted crates d id caller) :
    RuleStep crates env d id (.start caller .enter) p' v := by
  subst hv
  refine .keep (fun l hl hid ↦ absurd hid (hlaunch l hl)) (by rw [hreserved]) ?_
  rintro caller' ⟨⟩
  exact hadmitted

theorem execStart_next (crates : Crates) (managed : Bool) (env : Env) (d : Daemon)
    (caller : Caller) (pc : StartPc) :
    (∃ reply, (execStart crates managed env d caller pc).2 = caller.resume crates reply) ∨
      ∃ pc', (execStart crates managed env d caller pc).2 = .start caller pc' ∧ pc' ≠ .enter := by
  cases pc with
  | enter | launch | spawned | launched | failed =>
    simp only [execStart]
    repeat' split
    all_goals first | exact Or.inl ⟨_, rfl⟩ | exact Or.inr ⟨_, rfl, nofun⟩
  | discard launch attempt => exact Or.inl ⟨_, rfl⟩
  | publish event id reply => exact Or.inl ⟨_, rfl⟩

theorem Admitted.eq {caller : Caller} {j : Uuid} (h : Admitted crates d id caller)
    (hj : ruleId crates (caller.payload crates) d.state = .ok j) : j = id :=
  Except.ok.inj (hj.symm.trans h.selects)

theorem execStart_enter_ruleStep (caller : Caller) :
    RuleStep crates env d id (.start caller .enter)
      (execStart crates managed env d caller .enter).2
      ((execStart crates managed env d caller .enter).1.state.view id) := by
  have hentered := startEnter_entered crates caller.automatic caller.editOwned
    (caller.payload crates) env.attemptId env.bind d.state
  rcases hstart : startEnter crates caller.automatic caller.editOwned (caller.payload crates)
    env.attemptId env.bind d.state with ⟨entry, s⟩
  rw [hstart] at hentered
  simp only [execStart, hstart]
  cases hentered with
  | unresolved hid =>
    refine .turnedAway rfl (by simp) (reserved_resume ..) fun h ↦ ?_
    exact nomatch hid.symm.trans h.selects
  | beingEdited hid hediting howned =>
    refine .turnedAway rfl (by simp) (reserved_resume ..) fun h ↦ ?_
    have hrefused := h.unreserved (h.eq hid ▸ hediting)
    rw [howned] at hrefused
    cases hrefused
  | stopped hid hediting hautomatic hstopped =>
    refine .turnedAway rfl (by simp) (reserved_resume ..) fun h ↦ ?_
    exact h.wanted hautomatic (h.eq hid ▸ hstopped)
  | @missing j s' hid hediting hstopped hrule hs' =>
    subst hs'
    by_cases hj : id = j
    · subst hj
      exact RuleStep.congr (.release ⟨hid, hediting, hstopped⟩ (Or.inl hrule))
        (State.view_release_self ..)
    · exact .turnedAway (State.view_release_of_ne _ hj _) (by simp) (reserved_resume ..)
        fun h ↦ hj (h.eq hid).symm
  | @running j s' rule entry hid hediting hstopped hrule hentry hfailed hs' =>
    subst hs'
    by_cases hj : id = j
    · subst hj
      exact RuleStep.congr (.release ⟨hid, hediting, hstopped⟩ (Or.inr ⟨entry, hentry, hfailed⟩))
        (State.view_release_self ..)
    · exact .turnedAway (State.view_release_of_ne _ hj _) (by simp) (reserved_resume ..)
        fun h ↦ hj (h.eq hid).symm
  | @refused j s' rule failure hid hediting hstopped hrule hentry hport hs' =>
    subst hs'
    by_cases hj : id = j
    · subst hj
      refine RuleStep.congr (.refuse ⟨hid, hediting, hstopped⟩ hrule hentry hport) ?_
      rw [Daemon.setState, State.view_clearFailed_self, State.view_release_self]
      exact RuleView.clearFailed_of_idle hentry
    · refine .turnedAway ?_ (by simp) (reserved_resume ..) fun h ↦ hj (h.eq hid).symm
      rw [Daemon.setState, State.view_clearFailed_of_ne _ hj, State.view_release_of_ne _ hj]
  | @launch j s' rule hid hediting hstopped hrule hentry hport hs' =>
    subst hs'
    by_cases hj : id = j
    · subst hj
      refine RuleStep.congr (.launch ⟨hid, hediting, hstopped⟩ hrule hentry hport) ?_
      rw [Daemon.setState, State.view_setEntry_self, State.view_clearFailed_self,
        State.view_release_self]
      rfl
    · refine .turnedAway ?_ ?_ rfl fun h ↦ hj (h.eq hid).symm
      · rw [Daemon.setState, State.view_setEntry_of_ne _ hj, State.view_clearFailed_of_ne _ hj,
          State.view_release_of_ne _ hj]
      · rintro l ⟨⟩ hl
        exact hj hl.symm

theorem execStart_ruleStep (caller : Caller) (pc : StartPc) :
    RuleStep crates env d id (.start caller pc) (execStart crates managed env d caller pc).2
      ((execStart crates managed env d caller pc).1.state.view id) := by
  cases pc with
  | enter => exact execStart_enter_ruleStep caller
  | launch launch =>
    simp only [execStart]
    split
    · split <;> exact .silent rfl (fun l hl ↦ hl) rfl (by simp)
    · exact .silent rfl (fun l hl ↦ hl) rfl (by simp)
  | spawned launch process =>
    simp only [execStart]
    split <;> exact .silent rfl (fun l hl ↦ hl) rfl (by simp)
  | launched launch attempt =>
    by_cases hcurrent : launch.current d.state
    · obtain ⟨hwanted, hself, hother⟩ := startFinish_of_current hcurrent caller.editOwned attempt
        env.now
      simp only [execStart, hwanted, if_true]
      by_cases hid : launch.id = id
      · subst hid
        exact .congr (.finish rfl hcurrent) hself
      · exact .silent (hother id (Ne.symm hid)) (by simp) rfl (by simp)
    · simp only [execStart, startFinish_of_not_current hcurrent, Bool.false_eq_true, if_false]
      split
      · exact .silent rfl (by simp) rfl (by simp)
      · exact .silent rfl (by simp) (reserved_resume ..) (by simp)
  | failed launch error =>
    by_cases hcurrent : launch.current d.state
    · obtain ⟨hrecorded, hself, hother⟩ := startFailed_of_current hcurrent caller.editOwned error
        env.now
      simp only [execStart, hrecorded]
      by_cases hid : launch.id = id
      · subst hid
        split
        · exact .congr (.fail rfl hcurrent (by simp) (by simp)) hself
        · exact .congr (.fail rfl hcurrent rfl rfl) hself
        · exact .congr (.fail rfl hcurrent (by simp) (by simp)) hself
      · split
        · exact .silent (hother id (Ne.symm hid)) (by simp) (reserved_resume ..) (by simp)
        · exact .silent (hother id (Ne.symm hid)) (by simp) rfl (by simp)
        · exact .silent (hother id (Ne.symm hid)) (by simp) (reserved_resume ..) (by simp)
    · simp only [execStart, startFailed_of_not_current hcurrent]
      exact .silent rfl (by simp) (reserved_resume ..) (by simp)
  | discard launch attempt =>
    exact .silent rfl (by simp [execStart]) (reserved_resume ..) (by simp)
  | publish event eventId reply =>
    exact .silent rfl (by simp [execStart]) (reserved_resume ..) (by simp)

theorem execStop_ruleStep (request : Request) (pc : StopPc) :
    RuleStep crates env d id (.stop request pc) (execStop crates env d request pc).2
      ((execStop crates env d request pc).1.state.view id) := by
  cases pc with
  | enter =>
    rcases hstop : stopEnter crates request.payload d.state with ⟨result, s⟩
    rcases stopEnter_spec hstop with ⟨failure, rfl, rfl⟩ | ⟨j, hid, hediting, hrule, rfl, rfl⟩
    · simp only [execStop, hstop]
      exact .silent rfl (by simp) rfl (by simp)
    · simp only [execStop, hstop]
      by_cases hj : id = j
      · subst hj
        exact .congr (.stop hid hediting hrule) (view_stopped ..)
      · exact .silent (view_stopped_of_ne _ hj) (by simp) (by simp) (by simp)
  | cleanup j attempt =>
    simp only [execStop]
    refine .silent rfl ?_ ?_ (by simp) <;> split <;> simp [Pc.launching]
  | publish j => exact .silent rfl (by simp [execStop]) rfl (by simp)

theorem execEditEnter_ruleStep (request : Request) :
    RuleStep crates env d id (.editEnter request) (execEditEnter crates d request).2
      ((execEditEnter crates d request).1.state.view id) := by
  unfold execEditEnter
  split
  · exact .silent rfl (by simp) rfl (by simp)
  · rename_i edit hedit
    rcases hreserve : editReserve crates edit d.state with ⟨result, s⟩
    rcases editReserve_spec hreserve with
      ⟨failure, rfl, rfl⟩ | ⟨attempt, hrule, hediting, hentry, rfl, rfl⟩
    · exact .silent rfl (by simp) rfl (by simp)
    · by_cases hid : edit.id = id
      · subst hid
        exact .congr (.reserve rfl hrule hediting hentry) (view_reserved ..)
      · exact .unrelated (view_reserved_of_ne _ (Ne.symm hid)) (by simp) (by simp [hid]) (by simp)

theorem execEdit_ruleStep (hcrates : crates.Faithful) (request : Request) (edit : Edit)
    (pc : EditPc) :
    RuleStep crates env d id (.edit request edit pc) (execEdit crates env d request edit pc).2
      ((execEdit crates env d request edit pc).1.state.view id) := by
  cases pc with
  | cleanup attempt => exact .silent rfl (by simp [execEdit]) rfl (by simp)
  | stopFailed error =>
    by_cases hid : edit.id = id
    · subst hid
      exact .congr (.stopFailed rfl) (view_editStopFailed ..)
    · exact .silent (view_editStopFailed_of_ne _ _ (Ne.symm hid)) (by simp [execEdit])
        rfl (by simp)
  | publishFailed error => exact .silent rfl (by simp [execEdit]) rfl (by simp)
  | publishStopped => exact .silent rfl (by simp [execEdit]) rfl (by simp)
  | save =>
    have hsaved := editSave_spec hcrates env.save edit d.state
    rcases hsave : editSave crates env.save edit d.state with ⟨outcome, s⟩
    rw [hsave] at hsaved
    simp only [execEdit, hsave]
    cases hsaved with
    | missing hrule => exact .silent rfl (by simp) rfl (by simp)
    | unsaved herror hrule hdirectory =>
      simp only [herror, Bool.false_eq_true, if_false]
      exact .silent rfl (by simp) rfl (by simp)
    | committed houtcome hrule hvalid hstored =>
      simp only [houtcome, if_true]
      by_cases hid : edit.id = id
      · subst hid
        refine .congr (.commit rfl houtcome hrule) ?_
        exact congrArg (fun rule ↦ { d.state.view edit.id with rule })
          (findRule_replaceRule_self edit.sameId hrule)
      · refine .silent ?_ (by simp) rfl (by simp)
        exact congrArg (fun rule ↦ { d.state.view id with rule })
          (findRule_replaceRule_of_ne edit.sameId (Ne.symm hid) _)
  | finish reply =>
    by_cases hid : edit.id = id
    · subst hid
      exact .congr (.unreserve rfl) (State.view_unreserve_self ..)
    · exact .unrelated (State.view_unreserve_of_ne _ (Ne.symm hid)) (by simp [execEdit])
        (by simp [execEdit, hid]) (by simp)

theorem mem_retry_maintainScan (order : List Uuid) (exited : ℕ → Bool) (now : ℕ) (fresh : Uuid)
    (s : State) (id : Uuid) :
    id ∈ (maintainScan order exited now fresh s).1.retry ↔
      ∃ due, (s.view id).entry = some (.reconnecting due) ∧ due ≤ now := by
  simp only [maintainScan]
  rw [mem_filter_iterationOrder]
  constructor
  · rintro ⟨entry, hentry, hdue⟩
    cases entry with
    | reconnecting due => exact ⟨due, hentry, by simpa [Attempt.isDue] using hdue⟩
    | starting _ | active _ | failed => cases hdue
  · rintro ⟨due, hentry, hdue⟩
    exact ⟨_, hentry, by simpa [Attempt.isDue] using hdue⟩

@[simp] theorem state_foldl_cleanup (attempts : List ManagedAttempt) (d : Daemon) :
    (attempts.foldl Daemon.cleanup d).state = d.state := by
  induction attempts generalizing d with
  | nil => rfl
  | cons attempt attempts ih => exact ih (d.cleanup attempt)

theorem execMaintain_ruleStep (poller : Poller) (pc : MaintainPc) :
    RuleStep crates env d id (.maintain poller pc) (execMaintain crates env d poller pc).2
      ((execMaintain crates env d poller pc).1.state.view id) := by
  cases pc with
  | scan =>
    have hretry := mem_retry_maintainScan env.order env.exited env.now env.processId d.state id
    refine .congr (.scan hretry) ?_
    simp only [execMaintain, state_foldl_cleanup]
    exact view_maintainScan ..
  | publish events retry =>
    cases events with
    | nil => exact .silent rfl (by simp [execMaintain]) (by simp [execMaintain]) (by simp)
    | cons event events =>
      exact .silent rfl (by simp [execMaintain]) (by simp [execMaintain]) (by simp)

theorem execDispatch_ruleStep (hcrates : crates.Faithful) (request : Request) :
    RuleStep crates env d id (.dispatch request)
      (exec crates managed env d (.dispatch request)).2
      ((exec crates managed env d (.dispatch request)).1.state.view id) := by
  have hdispatched := dispatch_spec hcrates env.save env.now request d.state
  rcases hdispatch : dispatch crates env.save env.now request d.state with ⟨reply, events, s⟩
  rw [hdispatch] at hdispatched
  simp only [exec, hdispatch]
  cases hdispatched with
  | kept => exact .silent rfl (by simp) rfl (by simp)
  | unsaved => exact .silent rfl (by simp) rfl (by simp)
  | committed reply event hchange hvalid hstored hreply =>
    rcases hchange.findRule_eq id with hsame | hfree
    · refine .silent ?_ (by simp) rfl (by simp)
      exact congrArg (fun rule ↦ { d.state.view id with rule }) hsame
    · exact .configure hfree

/-- **What a section does to a rule.** -/
theorem exec_ruleStep (hcrates : crates.Faithful) (managed : Bool) (env : Env) (d : Daemon)
    (id : Uuid) (p : Pc) :
    RuleStep crates env d id p (exec crates managed env d p).2
      ((exec crates managed env d p).1.state.view id) := by
  cases p with
  | idle =>
    simp only [exec]
    split
    · exact .silent rfl (fun l hl ↦ hl) rfl (by simp)
    · exact .silent rfl (by simp) (by simp) (by simp)
    · exact .silent rfl (by simp) rfl (by simp)
  | returned request reply => exact .silent rfl (by simp [exec]) rfl (by simp)
  | dispatch request => exact execDispatch_ruleStep hcrates request
  | start caller pc => exact execStart_ruleStep caller pc
  | stop request pc => exact execStop_ruleStep request pc
  | editEnter request => exact execEditEnter_ruleStep request
  | edit request edit pc => exact execEdit_ruleStep hcrates request edit pc
  | maintain poller pc => exact execMaintain_ruleStep poller pc
  | supervise => exact .silent rfl (by simp [exec]) (by simp [exec]) (by simp)

end Exec

end TunnelDeck
