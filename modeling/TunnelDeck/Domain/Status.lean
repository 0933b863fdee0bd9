import Mathlib.Data.List.TakeWhile
import TunnelDeck.Concurrency.Run
import TunnelDeck.Domain.Rule

/-!
# The runtime state machine

`RuntimeStateMachine` says in which order the events of a rule may come. An event carries the id of
the attempt it is about, and an event that is about another attempt than the present one, or that
does not fit the state, is refused and changes nothing.

Its laws are about the events accepted so far. `Recorded` runs the machine and keeps them, the
latest one first, so that "since the latest start" is what stands in front of that start.

## Main result

`runtime_law`: in every run in which no id begins two attempts, an active state belongs to the
latest attempt, events of earlier attempts change nothing, and a stop holds until the next start.
-/

namespace TunnelDeck

open Concurrency

/-! ## The machine -/

/-- A transparent newtype of a UUID. -/
abbrev AttemptId := Uuid

inductive RuntimeState where
  | stopped
  | starting (attemptId : AttemptId)
  | active (attemptId : AttemptId)
  | reconnecting (failedAttemptId : AttemptId)
  | stopping (attemptId : Option AttemptId)
  | failed (attemptId : AttemptId)
  deriving DecidableEq

inductive RuntimeEvent where
  | startRequested (attemptId : AttemptId)
  | forwardingAccepted (attemptId : AttemptId)
  | attemptFailed (attemptId : AttemptId) (retry : Bool)
  | processExited (attemptId : AttemptId) (retry : Bool)
  | retryDue (failedAttemptId nextAttemptId : AttemptId)
  | stopRequested
  | cleanupComplete
  deriving DecidableEq

structure Transition where
  before : RuntimeState
  after : RuntimeState
  changed : Bool
  deriving DecidableEq

inductive TransitionError where
  | invalid (state : RuntimeState) (event : RuntimeEvent)
  | staleAttempt (expected actual : AttemptId)
  deriving DecidableEq

/-- `ensure_attempt`. -/
def ensureAttempt (expected actual : AttemptId) : Except TransitionError Unit :=
  if expected = actual then .ok () else .error (.staleAttempt expected actual)

/-- `failed_state`. -/
def failedState (attemptId : AttemptId) (retry : Bool) : RuntimeState :=
  if retry then .reconnecting attemptId else .failed attemptId

def RuntimeState.next (state : RuntimeState) (event : RuntimeEvent) :
    Except TransitionError RuntimeState :=
  match state, event with
  | .stopped, .startRequested attemptId | .failed _, .startRequested attemptId =>
    .ok (.starting attemptId)
  | .starting expected, .forwardingAccepted attemptId => do
    ensureAttempt expected attemptId
    return .active attemptId
  | .starting expected, .attemptFailed attemptId retry => do
    ensureAttempt expected attemptId
    return failedState attemptId retry
  | .active expected, .processExited attemptId retry => do
    ensureAttempt expected attemptId
    return failedState attemptId retry
  | .reconnecting expected, .retryDue failedAttemptId nextAttemptId => do
    ensureAttempt expected failedAttemptId
    return .starting nextAttemptId
  | .stopped, .stopRequested => .ok .stopped
  | .stopping attemptId, .stopRequested => .ok (.stopping attemptId)
  | .starting attemptId, .stopRequested | .active attemptId, .stopRequested
  | .failed attemptId, .stopRequested | .reconnecting attemptId, .stopRequested =>
    .ok (.stopping (some attemptId))
  | .stopping _, .cleanupComplete => .ok .stopped
  | _, _ => .error (.invalid state event)

structure RuntimeStateMachine where
  state : RuntimeState
  deriving DecidableEq

namespace RuntimeStateMachine

def new : RuntimeStateMachine := ⟨.stopped⟩

/-- `apply`: what it returns, and the machine after it. -/
def apply (machine : RuntimeStateMachine) (event : RuntimeEvent) :
    Except TransitionError Transition × RuntimeStateMachine :=
  match machine.state.next event with
  | .error e => (.error e, machine)
  | .ok after => (.ok ⟨machine.state, after, machine.state ≠ after⟩, ⟨after⟩)

end RuntimeStateMachine

/-! ## Accepted events -/

/-- All the steps of the machine. -/
inductive Accepts : RuntimeState → RuntimeEvent → RuntimeState → Prop
  | start {s : RuntimeState} (a : AttemptId) (h : s = .stopped ∨ ∃ b, s = .failed b) :
    Accepts s (.startRequested a) (.starting a)
  | accept (a : AttemptId) : Accepts (.starting a) (.forwardingAccepted a) (.active a)
  | fail (a : AttemptId) (retry : Bool) :
    Accepts (.starting a) (.attemptFailed a retry) (failedState a retry)
  | exit (a : AttemptId) (retry : Bool) :
    Accepts (.active a) (.processExited a retry) (failedState a retry)
  | retry (a b : AttemptId) : Accepts (.reconnecting a) (.retryDue a b) (.starting b)
  | rest {s : RuntimeState} (h : s = .stopped ∨ ∃ b, s = .stopping b) : Accepts s .stopRequested s
  | stop {s : RuntimeState} (a : AttemptId)
    (h : s = .starting a ∨ s = .active a ∨ s = .failed a ∨ s = .reconnecting a) :
    Accepts s .stopRequested (.stopping (some a))
  | cleanup (a : Option AttemptId) : Accepts (.stopping a) .cleanupComplete .stopped

theorem ensureAttempt_bind {expected actual : AttemptId} {after s : RuntimeState} :
    (do ensureAttempt expected actual; return after : Except TransitionError RuntimeState) = .ok s ↔
      expected = actual ∧ after = s := by
  rw [ensureAttempt]
  split
  · rename_i h
    simp [h, bind, Except.bind, pure, Except.pure]
  · rename_i h
    simp [h, bind, Except.bind]

/-- **What the machine accepts.** -/
theorem accepts_of_next {s s' : RuntimeState} {e : RuntimeEvent} (h : s.next e = .ok s') :
    Accepts s e s' := by
  cases e with
  | startRequested a =>
    cases s <;> cases h
    · exact .start a (Or.inl rfl)
    · exact .start a (Or.inr ⟨_, rfl⟩)
  | forwardingAccepted a =>
    cases s <;> try cases h
    obtain ⟨rfl, rfl⟩ := ensureAttempt_bind.mp h
    exact .accept _
  | attemptFailed a retry =>
    cases s <;> try cases h
    obtain ⟨rfl, rfl⟩ := ensureAttempt_bind.mp h
    exact .fail _ retry
  | processExited a retry =>
    cases s <;> try cases h
    obtain ⟨rfl, rfl⟩ := ensureAttempt_bind.mp h
    exact .exit _ retry
  | retryDue a b =>
    cases s <;> try cases h
    obtain ⟨rfl, rfl⟩ := ensureAttempt_bind.mp h
    exact .retry _ b
  | stopRequested =>
    cases s with
    | stopped | stopping =>
      cases h
      exact .rest (by simp)
    | starting a | active a | reconnecting a | failed a =>
      cases h
      exact .stop a (by simp)
  | cleanupComplete =>
    cases s <;> cases h
    exact .cleanup _

theorem next_stopRequested (s : RuntimeState) : ∃ s', s.next .stopRequested = .ok s' := by
  cases s <;> exact ⟨_, rfl⟩

/-- The machine with the events that it accepted, the latest one first. -/
structure Recorded where
  machine : RuntimeStateMachine
  log : List RuntimeEvent

namespace Recorded

def new : Recorded := ⟨.new, []⟩

/-- The event is applied, and kept if it is accepted. -/
def step (w : Recorded) (e : RuntimeEvent) : Recorded :=
  let (result, machine) := w.machine.apply e
  ⟨machine, match result with
    | .ok _ => e :: w.log
    | .error _ => w.log⟩

/-- An event is refused and changes nothing, or it is accepted. -/
theorem step_cases (w : Recorded) (e : RuntimeEvent) :
    w.step e = w ∨ ∃ s, Accepts w.machine.state e s ∧ w.step e = ⟨⟨s⟩, e :: w.log⟩ := by
  rcases hnext : w.machine.state.next e with error | s
  · left
    simp [step, RuntimeStateMachine.apply, hnext]
  · refine Or.inr ⟨s, accepts_of_next hnext, ?_⟩
    simp [step, RuntimeStateMachine.apply, hnext]

end Recorded

/-! ## The history of a state -/

/-- The attempt that an event begins. -/
def RuntimeEvent.begins : RuntimeEvent → Option AttemptId
  | .startRequested attemptId => some attemptId
  | .retryDue _ nextAttemptId => some nextAttemptId
  | _ => none

def RuntimeEvent.Carries (a : AttemptId) : RuntimeEvent → Prop
  | .startRequested attemptId | .forwardingAccepted attemptId | .attemptFailed attemptId _
  | .processExited attemptId _ => attemptId = a
  | .retryDue failedAttemptId nextAttemptId => failedAttemptId = a ∨ nextAttemptId = a
  | .stopRequested | .cleanupComplete => False

def RuntimeEvent.isStart : RuntimeEvent → Bool
  | .startRequested _ => true
  | _ => false

def RuntimeState.attempt : RuntimeState → Option AttemptId
  | .stopped => none
  | .starting attemptId | .active attemptId | .reconnecting attemptId | .failed attemptId =>
    some attemptId
  | .stopping attemptId => attemptId

def RuntimeState.Resting (s : RuntimeState) : Prop := s = .stopped ∨ ∃ a, s = .stopping a

/-- The latest attempt that an accepted event has begun. -/
def latest (log : List RuntimeEvent) : Option AttemptId := log.findSome? RuntimeEvent.begins

/-- What was accepted since the latest attempt began. -/
def sinceBegun (log : List RuntimeEvent) : List RuntimeEvent :=
  log.takeWhile fun e ↦ e.begins = none

def sinceStart (log : List RuntimeEvent) : List RuntimeEvent := log.takeWhile fun e ↦ !e.isStart

namespace Recorded

/-- What the accepted events say about the state. -/
structure Sound (w : Recorded) : Prop where
  current : ∀ a, w.machine.state.attempt = some a → latest w.log = some a
  forwarded : ∀ a, w.machine.state = .active a → .forwardingAccepted a ∈ sinceBegun w.log
  running : w.machine.state.Resting ∨ .stopRequested ∉ sinceStart w.log

theorem Sound.new : Sound Recorded.new where
  current := nofun
  forwarded := nofun
  running := Or.inl (Or.inl rfl)

/-- **What one event keeps.** -/
theorem Sound.step {w : Recorded} (h : w.Sound) (e : RuntimeEvent) : (w.step e).Sound := by
  rcases w.step_cases e with hsame | ⟨s, haccepts, hnext⟩
  · rw [hsame]
    exact h
  obtain ⟨⟨before⟩, log⟩ := w
  rw [hnext]
  -- an event that begins nothing keeps the latest attempt and the latest start
  have hkeeps : e.begins = none → latest (e :: log) = latest log := by
    intro hbegins
    rw [latest, List.findSome?_cons, hbegins, latest]
  have hstays : e.isStart = false → e ≠ .stopRequested → ¬ before.Resting →
      .stopRequested ∉ sinceStart (e :: log) := by
    intro hstart hne hresting
    rw [sinceStart, List.takeWhile_cons_of_pos (by simp [hstart]), List.mem_cons, not_or]
    exact ⟨hne.symm, h.running.resolve_left hresting⟩
  cases haccepts with
  | start a => exact ⟨fun b hb ↦ hb, nofun, Or.inr (by simp [sinceStart, RuntimeEvent.isStart])⟩
  | accept a =>
    refine ⟨fun b hb ↦ (hkeeps rfl).trans (h.current b hb), ?_,
      Or.inr (hstays rfl nofun (by simp [RuntimeState.Resting]))⟩
    rintro b ⟨rfl⟩
    simp [sinceBegun, RuntimeEvent.begins]
  | fail a retry | exit a retry =>
    have hcurrent := (hkeeps rfl).trans (h.current a rfl)
    refine ⟨fun b hb ↦ ?_, ?_, Or.inr (hstays rfl nofun (by simp [RuntimeState.Resting]))⟩
    · cases retry <;> exact hcurrent.trans hb
    · cases retry <;> nofun
  | retry a b =>
    exact ⟨fun c hc ↦ hc, nofun, Or.inr (hstays rfl nofun (by simp [RuntimeState.Resting]))⟩
  | rest hresting =>
    refine ⟨fun b hb ↦ (hkeeps rfl).trans (h.current b hb), ?_, Or.inl hresting⟩
    rintro b ⟨rfl⟩
    simp at hresting
  | stop a hbefore =>
    refine ⟨fun b hb ↦ (hkeeps rfl).trans ((h.current a ?_).trans hb), nofun,
      Or.inl (Or.inr ⟨_, rfl⟩)⟩
    rcases hbefore with rfl | rfl | rfl | rfl <;> rfl
  | cleanup a => exact ⟨nofun, nofun, Or.inl (Or.inl rfl)⟩

theorem sound_run (events : List RuntimeEvent) : (run step new events).Sound :=
  invariant_run step (fun _ e h ↦ h.step e) .new events

/-- A new event that carries the id of another attempt than the latest changes nothing. -/
theorem Sound.step_of_carries {w : Recorded} (h : w.Sound) {e : RuntimeEvent} {a : AttemptId}
    (hcarries : e.Carries a) (hnew : e.begins ≠ some a) (hearlier : latest w.log ≠ some a) :
    w.step e = w := by
  rcases w.step_cases e with hsame | ⟨s, haccepts, -⟩
  · exact hsame
  -- what is accepted begins the attempt or is about the present one
  have hcurrent : w.machine.state.attempt ≠ some a := fun hattempt ↦
    hearlier (h.current a hattempt)
  generalize w.machine.state = before at haccepts hcurrent
  cases haccepts with
  | start b => exact absurd (congrArg some hcarries) hnew
  | accept b => exact absurd (congrArg some hcarries) hcurrent
  | fail b | exit b => exact absurd (congrArg some hcarries) hcurrent
  | retry b c =>
    rcases hcarries with hfailed | hbegun
    · exact absurd (congrArg some hfailed) hcurrent
    · exact absurd (congrArg some hbegun) hnew
  | rest | stop | cleanup => exact hcarries.elim

end Recorded

/-! ## The law -/

/-- The latest attempt stands behind what was accepted since it began. -/
theorem exists_of_latest {log : List RuntimeEvent} {a : AttemptId} (h : latest log = some a) :
    ∃ start older, log = sinceBegun log ++ start :: older ∧ start.begins = some a := by
  induction log with
  | nil => cases h
  | cons e log ih =>
    rw [latest, List.findSome?_cons] at h
    rcases hbegins : e.begins with _ | b
    · rw [hbegins] at h
      obtain ⟨start, older, hlog, hstart⟩ := ih h
      refine ⟨start, older, ?_, hstart⟩
      rw [sinceBegun, List.takeWhile_cons_of_pos (by simp [hbegins]), List.cons_append]
      exact congrArg (e :: ·) hlog
    · rw [hbegins] at h
      refine ⟨e, log, ?_, hbegins.trans h⟩
      rw [sinceBegun, List.takeWhile_cons_of_neg (by simp [hbegins])]
      rfl

theorem sinceBegun_subset (log : List RuntimeEvent) : sinceBegun log ⊆ sinceStart log := by
  induction log with
  | nil => exact List.Subset.refl _
  | cons e log ih =>
    rw [sinceBegun, sinceStart]
    by_cases hbegins : e.begins = none
    · have hstart : e.isStart = false := by
        cases e <;> first | rfl | cases hbegins
      rw [List.takeWhile_cons_of_pos (by simp [hbegins]),
        List.takeWhile_cons_of_pos (by simp [hstart])]
      exact List.cons_subset_cons e ih
    · rw [List.takeWhile_cons_of_neg (by simp [hbegins])]
      exact List.nil_subset _

open Recorded in
/-- **The law of the machine.** In every sequence of events, refused ones included, of which no two
begin an attempt under one id:

* an active state belongs to the attempt that the latest accepted start or retry began; since then
  its forwarding was accepted and no stop was;
* an event with the id of any earlier attempt changes nothing;
* a stop is accepted in every state;
* from an accepted stop on the state is stopping or stopped until a start is accepted. -/
theorem runtime_law (events : List RuntimeEvent)
    (hfresh : (events.filterMap RuntimeEvent.begins).Nodup) :
    let w := run step new events
    (∀ a, w.machine.state = .active a → ∃ newer start older, w.log = newer ++ start :: older ∧
      start.begins = some a ∧ .forwardingAccepted a ∈ newer ∧
      ∀ e ∈ newer, e.begins = none ∧ e ≠ .stopRequested) ∧
    (∀ before e after a, events = before ++ e :: after →
      a ∈ before.filterMap RuntimeEvent.begins → latest (run step new before).log ≠ some a →
      e.Carries a →
      ((run step new before).machine.apply e).2 = (run step new before).machine) ∧
    (∃ transition, (w.machine.apply .stopRequested).1 = .ok transition) ∧
    ∀ newer older, w.log = newer ++ .stopRequested :: older →
      (∀ e ∈ newer, e.isStart = false) → w.machine.state.Resting := by
  intro w
  have hsound : w.Sound := sound_run events
  refine ⟨fun a hactive ↦ ?_, ?_, ?_, fun newer older hlog hnewer ↦ ?_⟩
  · obtain ⟨start, older, hlog, hstart⟩ :=
      exists_of_latest (hsound.current a (by rw [hactive]; rfl))
    have hrunning : .stopRequested ∉ sinceStart w.log :=
      hsound.running.resolve_left (by simp [RuntimeState.Resting, hactive])
    refine ⟨sinceBegun w.log, start, older, hlog, hstart, hsound.forwarded a hactive, ?_⟩
    intro e he
    refine ⟨by simpa using List.mem_takeWhile_imp he, ?_⟩
    rintro rfl
    exact hrunning (sinceBegun_subset w.log he)
  · rintro before e after a rfl ha hearlier hcarries
    -- the id is not begun again
    have hnew : e.begins ≠ some a := by
      intro hbegins
      rw [List.filterMap_append, List.filterMap_cons, hbegins] at hfresh
      exact (List.nodup_append.mp hfresh).2.2 a ha a List.mem_cons_self rfl
    exact congrArg Recorded.machine ((sound_run before).step_of_carries hcarries hnew hearlier)
  · obtain ⟨s, hs⟩ := next_stopRequested w.machine.state
    rw [RuntimeStateMachine.apply, hs]
    exact ⟨_, rfl⟩
  · refine hsound.running.resolve_right fun hnot ↦ hnot ?_
    rw [hlog, sinceStart, List.takeWhile_append_of_pos (by simpa using hnewer),
      List.takeWhile_cons_of_pos rfl]
    exact List.mem_append_right _ List.mem_cons_self

/-- An attempt fails and is retried, and the failed attempt is heard of again. -/
def exampleRetried : List RuntimeEvent :=
  [.startRequested 1, .attemptFailed 1 true, .retryDue 1 2, .forwardingAccepted 1,
    .forwardingAccepted 2]

theorem runtime_law_exampleRetried :
    ∃ newer start older, (run Recorded.step .new exampleRetried).log = newer ++ start :: older ∧
      start.begins = some 2 ∧ .forwardingAccepted 2 ∈ newer ∧
      ∀ e ∈ newer, e.begins = none ∧ e ≠ .stopRequested :=
  (runtime_law exampleRetried (by decide)).1 2 (by decide)

end TunnelDeck
