import TunnelDeck.Daemon.Ownership

/-!
# Refused requests

A request is refused when its first section answers it with an error before anything was launched,
stopped or written. Such a section should leave the state as it was. All but one do: a start takes
back a manual stop and forgets a failure before its last checks, the lookup of the rule and the
probe of the local port.

## Main results

* `refusal_keeps_iff`: a refused request leaves the state as it was exactly if it is not a start
  that has a manual stop to take back or a failure to forget.
-/

namespace TunnelDeck

open Concurrency

variable {crates : Crates} {managed : Bool} {env : Env} {d : Daemon}

/-- The requests that act on rules, on their tunnels or on the settings. -/
def Operation.acts : Operation → Bool
  | .forwardAdd | .forwardImport | .forwardRemove | .forwardStart | .forwardStop
  | .forwardEditActive | .settingsUpdate => true
  | _ => false

def ErrorCode.refuses : ErrorCode → Bool
  | .invalidRequest | .notFound | .conflict | .unavailable => true
  | _ => false

/-- The failure that a request is answered with. -/
def Pc.refusal : Pc → Option Failure
  | .returned _ (.error failure) => some failure
  | _ => none

/-- Everything but the directory is the same. -/
structure State.Same (s s' : State) : Prop where
  rules : s'.rules = s.rules
  settings : s'.settings = s.settings
  running : s'.running = s.running
  diagnostics : s'.diagnostics = s.diagnostics
  manuallyStopped : s'.manuallyStopped = s.manuallyStopped
  editing : s'.editing = s.editing

theorem State.Same.refl (s : State) : s.Same s := ⟨rfl, rfl, rfl, rfl, rfl, rfl⟩

/-- The request is a start of a rule that is not being edited and that is manually stopped or has
failed. -/
def TakesBack (crates : Crates) (request : Request) (s : State) : Prop :=
  request.operation = .forwardStart ∧ ∃ id, ruleId crates request.payload s = .ok id ∧
    id ∉ s.editing ∧ (id ∈ s.manuallyStopped ∨ s.running.lookup id = some .failed)

/-- Taking back a stop and forgetting a failure changes nothing exactly if there is neither. -/
theorem same_release_clearFailed_iff (s : State) (id : Uuid) :
    s.Same ((s.release true id).clearFailed id) ↔
      id ∉ s.manuallyStopped ∧ s.running.lookup id ≠ some .failed := by
  have hrunning : (s.release true id).running = s.running := s.running_release true id
  have hflags : ((s.release true id).clearFailed id).manuallyStopped =
      s.manuallyStopped.erase id := by
    rw [State.clearFailed]
    split <;> rfl
  constructor
  · intro h
    constructor
    · exact Finset.erase_eq_self.mp (hflags.symm.trans h.manuallyStopped)
    · intro hfailed
      have hafter : ((s.release true id).clearFailed id).running.lookup id = none := by
        rw [State.clearFailed, if_pos (by rwa [hrunning])]
        exact AList.lookup_erase _ _
      rw [h.running, hfailed] at hafter
      cases hafter
  · rintro ⟨hstopped, hfailed⟩
    rw [State.clearFailed_of_ne _ (by rwa [hrunning])]
    exact ⟨rfl, rfl, hrunning, rfl, Finset.erase_eq_self.mpr hstopped, rfl⟩

theorem same_release_iff (s : State) (id : Uuid) :
    s.Same (s.release true id) ↔ id ∉ s.manuallyStopped :=
  ⟨fun h ↦ Finset.erase_eq_self.mp h.manuallyStopped,
    fun h ↦ ⟨rfl, rfl, rfl, rfl, Finset.erase_eq_self.mpr h, rfl⟩⟩

/-! ## The requests one by one -/

theorem dispatch_refused (hcrates : crates.Faithful) {request : Request} {code : ErrorCode}
    {message : String} (hrefused : (exec crates managed env d (.dispatch request)).2.refusal =
      some (code, message)) (hcode : code.refuses = true) :
    d.state.Same (exec crates managed env d (.dispatch request)).1.state := by
  have hdispatched := dispatch_spec hcrates env.save env.now request d.state
  rcases hdispatch : dispatch crates env.save env.now request d.state with ⟨reply, events, s⟩
  rw [hdispatch] at hdispatched
  simp only [exec, hdispatch] at hrefused ⊢
  cases hdispatched with
  | kept => exact .refl _
  | unsaved => exact ⟨rfl, rfl, rfl, rfl, rfl, rfl⟩
  | committed reply event hchange hvalid hstored hreply =>
    -- the document was replaced, so the error is an internal one
    cases reply with
    | ok value => cases hrefused
    | error failure =>
      obtain rfl : failure = (code, message) := Option.some.inj hrefused
      have hinternal : code = .internal := hreply _ rfl
      rw [hinternal] at hcode
      cases hcode

theorem stop_refused {request : Request} {failure : Failure}
    (hrefused : (exec crates managed env d (.stop request .enter)).2.refusal = some failure) :
    (exec crates managed env d (.stop request .enter)).1.state = d.state := by
  rcases hstop : stopEnter crates request.payload d.state with ⟨result, s⟩
  rcases stopEnter_spec hstop with ⟨failure', rfl, rfl⟩ | ⟨id, -, -, -, rfl, rfl⟩
  · simp only [exec, execStop, hstop]
    rfl
  · simp only [exec, execStop, hstop] at hrefused
    rcases hentry : d.state.running.lookup id with _ | (_ | _ | _ | _) <;>
      rw [hentry] at hrefused <;> cases hrefused

theorem edit_refused {request : Request} {failure : Failure}
    (hrefused : (exec crates managed env d (.editEnter request)).2.refusal = some failure) :
    (exec crates managed env d (.editEnter request)).1.state = d.state := by
  rcases hparse : parseEdit crates request.payload with failure' | edit
  · simp only [exec, execEditEnter, hparse]
  · rcases hreserve : editReserve crates edit d.state with ⟨result, s⟩
    rcases editReserve_spec hreserve with ⟨failure', rfl, rfl⟩ | ⟨attempt, -, -, -, rfl, rfl⟩
    · simp only [exec, execEditEnter, hparse, hreserve]
      rfl
    · simp only [exec, execEditEnter, hparse, hreserve] at hrefused
      cases hrefused

theorem start_refused {request : Request} {failure : Failure}
    (hentries : ∀ id, (d.state.view id).entry ≠ none → (d.state.view id).rule.isSome = true)
    (hrefused : (exec crates managed env d (.start (.client request) .enter)).2.refusal =
      some failure) :
    d.state.Same (exec crates managed env d (.start (.client request) .enter)).1.state ↔
      ∀ id, ruleId crates request.payload d.state = .ok id → id ∉ d.state.editing →
        id ∉ d.state.manuallyStopped ∧ d.state.running.lookup id ≠ some .failed := by
  have hentered := startEnter_entered crates false false request.payload env.attemptId env.bind
    d.state
  rcases hstart : startEnter crates false false request.payload env.attemptId env.bind d.state with
    ⟨entry, s⟩
  rw [hstart] at hentered
  simp only [exec, execStart, Caller.automatic, Caller.editOwned, Caller.payload, hstart]
    at hrefused ⊢
  cases hentered with
  | unresolved hid =>
    exact ⟨fun _ id hid' ↦ (by cases hid.symm.trans hid'), fun _ ↦ State.Same.refl _⟩
  | @beingEdited id hid hediting =>
    refine ⟨fun _ j hj hfree ↦ ?_, fun _ ↦ State.Same.refl _⟩
    rw [← Except.ok.inj (hid.symm.trans hj)] at hfree
    exact absurd hediting hfree
  | stopped hid hediting hautomatic => cases hautomatic
  | @missing id _ hid hediting hstopped hrule hs =>
    subst hs
    have hfree : id ∉ d.state.editing := fun h ↦ by cases hediting h
    have hentry : d.state.running.lookup id ≠ some .failed := by
      intro hfailed
      have hsome := hentries id fun hnone ↦ by cases hnone.symm.trans hfailed
      exact absurd hsome (by simp [State.view, hrule])
    refine (same_release_iff d.state id).trans ⟨fun hnot j hj _ ↦ ?_, fun h ↦ (h id hid hfree).1⟩
    rw [← Except.ok.inj (hid.symm.trans hj)]
    exact ⟨hnot, hentry⟩
  | running => cases hrefused
  | @refused id _ rule failure' hid hediting hstopped hrule hentry hport hs =>
    subst hs
    have hfree : id ∉ d.state.editing := fun h ↦ by cases hediting h
    refine (same_release_clearFailed_iff d.state id).trans
      ⟨fun hnot j hj _ ↦ ?_, fun h ↦ h id hid hfree⟩
    rw [← Except.ok.inj (hid.symm.trans hj)]
    exact hnot
  | launch => cases hrefused

/-! ## All requests -/

/-- **When a refusal keeps the state.** In every reachable state, a refused request leaves
everything as it was if and only if it is not a start of a rule that has a manual stop to take back
or a failure to forget. -/
theorem refusal_keeps_iff (hcrates : crates.Faithful) {faults : OpenFaults}
    {directory : Directory} {s : State} (hopen : openState crates faults directory = .ok s)
    {as : List Choice} {w : System}
    (hw : run (System.step crates managed) (System.opened s) as = w) {request : Request}
    (hacts : request.operation.acts = true) {env : Env} {code : ErrorCode} {message : String}
    (hrefused : (exec crates managed env w.shared (handle request)).2.refusal =
      some (code, message)) (hcode : code.refuses = true) :
    w.shared.state.Same (exec crates managed env w.shared (handle request)).1.state ↔
      ¬ TakesBack crates request w.shared.state := by
  have hentries : ∀ id, (w.shared.state.view id).entry ≠ none →
      (w.shared.state.view id).rule.isSome = true := by
    intro id hentry
    rw [← hw] at hentry ⊢
    exact rule_of_entry hcrates (idle_of_open hopen) as hentry
  rcases request with ⟨operation, payload⟩
  cases operation with
  | forwardAdd | forwardImport | forwardRemove | settingsUpdate =>
    exact ⟨fun _ h ↦ (nomatch h.1), fun _ ↦ dispatch_refused hcrates hrefused hcode⟩
  | forwardStart =>
    refine (start_refused hentries hrefused).trans ⟨fun h ↦ ?_, fun h id hid hfree ↦ ?_⟩
    · rintro ⟨-, id, hid, hfree, hflag⟩
      obtain ⟨hstopped, hfailed⟩ := h id hid hfree
      rcases hflag with hflag | hflag
      · exact hstopped hflag
      · exact hfailed hflag
    · exact ⟨fun hstopped ↦ h ⟨rfl, id, hid, hfree, Or.inl hstopped⟩,
        fun hfailed ↦ h ⟨rfl, id, hid, hfree, Or.inr hfailed⟩⟩
  | forwardStop =>
    refine ⟨fun _ h ↦ (nomatch h.1), fun _ ↦ ?_⟩
    rw [handle, stop_refused hrefused]
    exact .refl _
  | forwardEditActive =>
    refine ⟨fun _ h ↦ (nomatch h.1), fun _ ↦ ?_⟩
    rw [handle, edit_refused hrefused]
    exact .refl _
  | hostList | hostShow | hostTest | forwardList | settingsGet | status | subscribe => cases hacts

/-! ### Examples -/

/-- A client stops the example rule, which has nothing running. -/
def exampleHalted : List Choice :=
  [(0, { call := some (.request ⟨.forwardStop, selectName "database"⟩) }), (0, {}), (0, {})]

def exampleTaken : Env :=
  { attemptId := 1, bind := some ⟨.addrInUse, "Address already in use"⟩ }

/-- After the stop of the example rule, a refused stop of an unknown rule keeps the state. -/
theorem refusal_keeps_iff_exampleHalted :
    (run (System.step exampleCrates true) exampleOpened exampleHalted).shared.state.Same
      (exec exampleCrates true {} (run (System.step exampleCrates true) exampleOpened
        exampleHalted).shared (handle ⟨.forwardStop, selectName "replica"⟩)).1.state :=
  (refusal_keeps_iff exampleCrates_faithful exampleOpened_open rfl rfl
    (show _ = some (ErrorCode.notFound, "rule was not found") by decide +kernel) rfl).mpr
    fun h ↦ nomatch h.1

/-- The client gets a conflict, and the rule is no longer manually stopped. -/
theorem exampleTaken_changed :
    (exec exampleCrates true exampleTaken (run (System.step exampleCrates true) exampleOpened
        exampleHalted).shared (handle ⟨.forwardStart, selectName "database"⟩)).2.refusal =
      some (.conflict, "local listener 127.0.0.1:5433 is already in use") ∧
    ¬ (run (System.step exampleCrates true) exampleOpened exampleHalted).shared.state.Same
      (exec exampleCrates true exampleTaken (run (System.step exampleCrates true) exampleOpened
        exampleHalted).shared (handle ⟨.forwardStart, selectName "database"⟩)).1.state := by
  refine ⟨by decide +kernel, fun h ↦ ?_⟩
  have hbefore : exampleRule.id ∈ (run (System.step exampleCrates true) exampleOpened
      exampleHalted).shared.state.manuallyStopped := by decide +kernel
  rw [← h.manuallyStopped] at hbefore
  exact absurd hbefore (by decide +kernel)

end TunnelDeck
