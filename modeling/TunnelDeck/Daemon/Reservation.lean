import TunnelDeck.Daemon.Selection

/-!
# Reservations

An edit reserves its rule by putting the id into `editing` and gives it back in `finish_edit`. The
invariant of this module says that reserved ids and editing threads correspond one to one, and
what a thread that has not committed its edit yet can rely on: its rule is still the one the client
saw, it has no runtime entry, and it is manually stopped.
-/

namespace TunnelDeck

open Concurrency

/-! ## Edits that have not committed yet -/

/-- The edit of a thread that has reserved its rule and has not saved it yet. -/
def Pc.pending : Pc → Option Edit
  | .edit _ e (.cleanup _) | .edit _ e (.stopFailed _) | .edit _ e .publishStopped
  | .edit _ e .save => some e
  | _ => none

@[simp] theorem pending_start (caller : Caller) (pc : StartPc) :
    (Pc.start caller pc).pending = none := rfl

@[simp] theorem pending_returned (request : Request) (reply : Reply) :
    (Pc.returned request reply).pending = none := rfl

@[simp] theorem pending_maintain (poller : Poller) (pc : MaintainPc) :
    (Pc.maintain poller pc).pending = none := rfl

@[simp] theorem pending_finish (request : Request) (edit : Edit) (reply : Reply) :
    (Pc.edit request edit (.finish reply)).pending = none := rfl

@[simp] theorem pending_publishFailed (request : Request) (edit : Edit) (error : ProcessError) :
    (Pc.edit request edit (.publishFailed error)).pending = none := rfl

@[simp] theorem pending_stop (request : Request) (pc : StopPc) :
    (Pc.stop request pc).pending = none := rfl

@[simp] theorem pending_stopNext (crates : Crates) (request : Request) (id : Uuid)
    (entry : Option Attempt) : (stopNext crates request id entry).pending = none := by
  rcases entry with _ | (_ | _ | _ | _) <;> rfl

@[simp] theorem Pc.Resting.pending {p : Pc} (h : p.Resting) : p.pending = none := by
  cases h <;> rfl

variable {crates : Crates} {managed : Bool} {env : Env} {d : Daemon}

@[simp] theorem pending_execStart (caller : Caller) (pc : StartPc) :
    (execStart crates managed env d caller pc).2.pending = none := by
  cases pc with
  | enter | launch | spawned | failed | launched =>
    simp only [execStart]
    repeat' split
    all_goals simp
  | discard | publish => simp [execStart]

@[simp] theorem pending_execStop (request : Request) (pc : StopPc) :
    (execStop crates env d request pc).2.pending = none := by
  cases pc with
  | enter | cleanup =>
    simp only [execStop]
    split <;> simp
  | publish => rfl

@[simp] theorem pending_execMaintain (poller : Poller) (pc : MaintainPc) :
    (execMaintain crates env d poller pc).2.pending = none := by
  cases pc with
  | scan => rfl
  | publish events retry => cases events <;> simp [execMaintain]

theorem exec_pending {p : Pc} {edit : Edit}
    (h : (exec crates managed env d p).2.pending = some edit) :
    (p.pending = some edit ∧ (exec crates managed env d p).1.state = d.state) ∨
      ∃ request attempt, p = .editEnter request ∧
        findRule d.state.rules edit.id = some edit.expected ∧ edit.id ∉ d.state.editing ∧
        d.state.running.lookup edit.id = some (.active attempt) ∧
        (exec crates managed env d p).1.state = (((d.state.reserve edit.id).markStopped
          edit.id).removeInfo edit.id).removeEntry edit.id ∧
        (exec crates managed env d p).2 = .edit request edit (.cleanup attempt) := by
  cases p with
  | idle =>
    simp only [exec] at h
    split at h
    · cases h
    · simp at h
    · cases h
  | returned request reply => cases h
  | dispatch request => cases h
  | start caller pc => simp [exec] at h
  | stop request pc => simp [exec] at h
  | editEnter request =>
    -- only here an edit begins to wait for its process
    refine Or.inr ?_
    simp only [exec, execEditEnter] at h ⊢
    cases hparse : parseEdit crates request.payload with
    | error failure => simp [hparse] at h
    | ok e =>
      rcases hreserve : editReserve crates e d.state with ⟨result, s⟩
      rcases editReserve_spec hreserve with
        ⟨failure, rfl, rfl⟩ | ⟨attempt, hrule, hediting, hentry, rfl, rfl⟩
      · simp [hparse, hreserve] at h
      · simp only [hparse, hreserve] at h ⊢
        obtain rfl : e = edit := Option.some.inj h
        exact ⟨request, attempt, rfl, hrule, hediting, hentry, rfl, rfl⟩
  | edit request e pc =>
    cases pc with
    | cleanup attempt =>
      -- the edit goes on with what it has reserved
      refine Or.inl ⟨?_, rfl⟩
      simp only [exec, execEdit] at h
      split at h <;> exact h
    | stopFailed error => cases h
    | publishFailed error => cases h
    | publishStopped => exact Or.inl ⟨h, rfl⟩
    | save =>
      simp only [exec, execEdit] at h
      split at h <;> cases h
    | finish reply => cases h
  | maintain poller pc => simp [exec] at h
  | supervise => simp [exec] at h

/-! ## The invariant -/

/-- What a thread can rely on about the rule it has reserved. -/
structure Reserves (d : Daemon) (p : Pc) : Prop where
  editing : ∀ id, p.reserved = some id → (d.state.view id).editing
  rule : ∀ id, p.reserved = some id → (d.state.view id).rule.isSome = true
  pending : ∀ edit, p.pending = some edit →
    (d.state.view edit.id).rule = some edit.expected ∧ (d.state.view edit.id).entry = none ∧
      (d.state.view edit.id).stopped

/-- Two threads have not reserved the same rule. -/
def Disjoint (p q : Pc) : Prop := ∀ id, p.reserved = some id → q.reserved ≠ some id

theorem Admitted.reserved (hcrates : crates.Faithful) {id : Uuid} {caller : Caller}
    (h : Admitted crates d id caller) (hediting : (d.state.view id).editing) :
    caller.reserved = some id := by
  have howned := h.unreserved hediting
  cases caller with
  | edit request e saved =>
    have hid := h.selects
    rw [Caller.payload, ruleId_selectId hcrates] at hid
    exact congrArg some (Except.ok.inj hid)
  | client _ | retry _ _ _ | restore _ _ => cases howned

theorem RuleStep.reserved_before {id : Uuid} {p p' : Pc} {v : RuleView}
    (h : RuleStep crates env d id p p' v) (hp' : p'.reserved = some id) :
    p.reserved = some id ∨ (¬ (d.state.view id).editing ∧ v = (d.state.view id).reserve ∧
      (d.state.view id).rule.isSome = true) := by
  cases h with
  | keep hlaunch hreserved => exact Or.inl (hreserved.mp hp')
  | configure => cases hp'
  | release | refuse => exact Or.inl (by simpa using hp')
  | launch | finish | commit | stopFailed => exact Or.inl hp'
  | fail hid hcurrent hlaunch hreserved => exact Or.inl (hreserved.symm.trans hp')
  | stop => simp at hp'
  | reserve hid hrule hediting hentry =>
    exact Or.inr ⟨hediting, rfl, by rw [hrule]; rfl⟩
  | unreserve => cases hp'
  | scan => cases hp'

/-- **What another thread does to a reserved rule**: nothing, or it ends a launch that has the
marker of the rule, or it looks at the rule in `maintain`. -/
theorem RuleStep.by_other (hcrates : crates.Faithful) {id : Uuid} {p p' : Pc} {v : RuleView}
    (h : RuleStep crates env d id p p' v) (hediting : (d.state.view id).editing)
    (hrule : (d.state.view id).rule.isSome = true) (hp : p.reserved ≠ some id) :
    v = d.state.view id ∨
    (∃ launch, p.launching = some launch ∧ launch.id = id ∧ launch.current d.state ∧
      v.editing ∧ v.rule = (d.state.view id).rule) ∨
    ∃ poller, p = .maintain poller .scan ∧ v = (d.state.view id).scan env.exited env.now := by
  cases h with
  | keep => exact Or.inl rfl
  | configure hfree =>
    rcases hfree with hnone | ⟨-, hfree⟩
    · rw [hnone] at hrule
      cases hrule
    · exact absurd hediting hfree
  | release hadmitted | refuse hadmitted | launch hadmitted =>
    exact absurd (hadmitted.reserved hcrates hediting) hp
  | fail hid hcurrent =>
    exact Or.inr (Or.inl ⟨_, rfl, hid, hcurrent, by simpa using hediting, by simp⟩)
  | finish hid hcurrent => exact Or.inr (Or.inl ⟨_, rfl, hid, hcurrent, hediting, rfl⟩)
  | stop hid hfree => exact absurd hediting hfree
  | reserve hid hfind hfree => exact absurd hediting hfree
  | stopFailed hid | commit hid | unreserve hid => exact absurd (congrArg some hid) hp
  | scan => exact Or.inr (Or.inr ⟨_, rfl, rfl⟩)

theorem RuleStep.reserved_by_other (hcrates : crates.Faithful) {id : Uuid} {p p' : Pc}
    {v : RuleView} (h : RuleStep crates env d id p p' v) (hediting : (d.state.view id).editing)
    (hrule : (d.state.view id).rule.isSome = true) (hp : p.reserved ≠ some id) :
    v.editing ∧ v.rule = (d.state.view id).rule := by
  rcases h.by_other hcrates hediting hrule hp with
    rfl | ⟨launch, -, -, -, hkept⟩ | ⟨poller, -, rfl⟩
  · exact ⟨hediting, rfl⟩
  · exact hkept
  · exact ⟨by simpa using hediting, by simp⟩

theorem RuleStep.pending_by_other (hcrates : crates.Faithful) {id : Uuid} {p p' : Pc}
    {v : RuleView} (h : RuleStep crates env d id p p' v) (hediting : (d.state.view id).editing)
    (hrule : (d.state.view id).rule.isSome = true) (hentry : (d.state.view id).entry = none)
    (hp : p.reserved ≠ some id) : v = d.state.view id := by
  rcases h.by_other hcrates hediting hrule hp with
    hkept | ⟨launch, -, hid, hcurrent, -⟩ | ⟨poller, -, hscan⟩
  · exact hkept
  · subst hid
    exact nomatch hentry.symm.trans hcurrent
  · rw [hscan]
    exact RuleView.scan_of_none hentry

theorem RuleStep.reserved_after {id : Uuid} {p p' : Pc} {v : RuleView}
    (h : RuleStep crates env d id p p' v) (hp : p.reserved = some id)
    (hp' : p'.reserved = some id) (hediting : (d.state.view id).editing)
    (hrule : (d.state.view id).rule.isSome = true) : v.editing ∧ v.rule.isSome = true := by
  cases h with
  | keep => exact ⟨hediting, hrule⟩
  | configure => cases hp
  | release | refuse | launch => exact ⟨hediting, hrule⟩
  | fail => exact ⟨by simpa using hediting, by simpa using hrule⟩
  | finish => exact ⟨hediting, hrule⟩
  | stop => cases hp
  | reserve => cases hp
  | stopFailed => exact ⟨hediting, hrule⟩
  | commit => exact ⟨hediting, rfl⟩
  | unreserve => cases hp'
  | scan => cases hp

theorem Reserves.own (hcrates : crates.Faithful) {p : Pc} (h : Reserves d p) :
    Reserves (exec crates managed env d p).1 (exec crates managed env d p).2 := by
  have hboth : ∀ id, (exec crates managed env d p).2.reserved = some id →
      ((exec crates managed env d p).1.state.view id).editing ∧
        ((exec crates managed env d p).1.state.view id).rule.isSome = true := by
    intro id hid
    have hstep := exec_ruleStep hcrates managed env d id p
    rcases hstep.reserved_before hid with hp | ⟨-, hview, hrule⟩
    · exact hstep.reserved_after hp hid (h.editing id hp) (h.rule id hp)
    · rw [hview]
      exact ⟨trivial, hrule⟩
  refine ⟨fun id hid ↦ (hboth id hid).1, fun id hid ↦ (hboth id hid).2, fun edit hedit ↦ ?_⟩
  rcases exec_pending hedit with ⟨hpending, hstate⟩ | ⟨_, _, -, hrule, -, -, hstate, -⟩
  · rw [hstate]
    exact h.pending edit hpending
  · rw [hstate, view_reserved]
    exact ⟨hrule, rfl, trivial⟩

/-- A rule that is reserved after a section is reserved by the thread that ran it, or was reserved
before by another one. -/
theorem RuleStep.editing_owner {id : Uuid} {p p' : Pc} {v : RuleView}
    (h : RuleStep crates env d id p p' v) (hv : v.editing) :
    p'.reserved = some id ∨ ((d.state.view id).editing ∧ p.reserved ≠ some id) := by
  by_cases hp : p.reserved = some id
  · refine Or.inl ?_
    cases h with
    | keep hlaunch hreserved => exact hreserved.mpr hp
    | configure | stop | reserve | scan => cases hp
    | release | refuse => simpa using hp
    | launch | finish | stopFailed | commit => exact hp
    | fail hid hcurrent hlaunch hreserved => exact hreserved.trans hp
    | unreserve => cases hv
  · cases h with
    | keep | configure | release | refuse | launch | finish | stop | stopFailed | commit =>
      exact Or.inr ⟨hv, hp⟩
    | fail => exact Or.inr ⟨by simpa using hv, hp⟩
    | reserve hid => exact Or.inl (congrArg some hid)
    | unreserve => cases hv
    | scan => exact Or.inr ⟨by simpa using hv, hp⟩

theorem reserved_of_pending {p : Pc} {edit : Edit} (h : p.pending = some edit) :
    p.reserved = some edit.id := by
  cases p with
  | edit request e pc =>
    cases pc <;> first | exact congrArg (Option.map Edit.id) h | cases h
  | _ => cases h

theorem Reserves.frame (hcrates : crates.Faithful) {p q : Pc} (h : Reserves d q)
    (hdisjoint : Disjoint p q) : Reserves (exec crates managed env d p).1 q := by
  have hother : ∀ id, q.reserved = some id → p.reserved ≠ some id :=
    fun id hq hp ↦ hdisjoint id hp hq
  have hstep := fun id ↦ exec_ruleStep hcrates managed env d id p
  refine ⟨fun id hid ↦ ?_, fun id hid ↦ ?_, fun edit hedit ↦ ?_⟩
  · exact ((hstep id).reserved_by_other hcrates (h.editing id hid) (h.rule id hid)
      (hother id hid)).1
  · rw [((hstep id).reserved_by_other hcrates (h.editing id hid) (h.rule id hid)
      (hother id hid)).2]
    exact h.rule id hid
  · have hid := reserved_of_pending hedit
    rw [(hstep edit.id).pending_by_other hcrates (h.editing _ hid) (h.rule _ hid)
      (h.pending edit hedit).2.1 (hother _ hid)]
    exact h.pending edit hedit

theorem Disjoint.own (hcrates : crates.Faithful) {p q : Pc} (h : Disjoint p q)
    (hq : Reserves d q) : Disjoint (exec crates managed env d p).2 q := by
  intro id hp' hid
  rcases (exec_ruleStep hcrates managed env d id p).reserved_before hp' with hp | ⟨hfree, -, -⟩
  · exact h id hp hid
  · exact hfree (hq.editing id hid)

/-- **Reservations and editing threads correspond.** -/
structure Reservations (w : System) : Prop where
  consistent : World.Consistent (fun _ ↦ True) Reserves Disjoint w
  owned : ∀ id, id ∈ w.shared.state.editing → ∃ t, (w.thread t).reserved = some id

theorem Reservations.step (hcrates : crates.Faithful) {w : System} (h : Reservations w)
    (a : Choice) : Reservations (System.step crates managed w a) := by
  refine ⟨?_, ?_⟩
  · refine World.Consistent.step (C := fun _ _ _ ↦ True) (fun p q hpq id hq hp ↦ hpq id hp hq)
      (fun e s p _ _ hp ↦ ⟨trivial, hp.own hcrates⟩)
      (fun e s p q _ _ _ hq hpq ↦ ⟨hq.frame hcrates hpq, hpq.own hcrates hq⟩) h.consistent trivial
  · refine World.owned_step (C := fun _ s p ↦ Reserves s p) (fun d id ↦ id ∈ d.state.editing)
      (fun p id ↦ p.reserved = some id) ?_ h.owned (h.consistent.thread a.1)
    intro env d p hp id hediting
    exact (exec_ruleStep hcrates managed env d id p).editing_owner hediting

theorem Reservations.opened {s : State} (hs : s.editing = ∅) :
    Reservations (System.opened s) := by
  refine ⟨⟨trivial, fun t ↦ ⟨?_, ?_, ?_⟩, fun t u _ ↦ ?_⟩, fun id hid ↦ ?_⟩
  · intro id h; cases h
  · intro id h; cases h
  · intro edit h; cases h
  · intro id h; cases h
  · simp [System.opened, hs] at hid

end TunnelDeck
