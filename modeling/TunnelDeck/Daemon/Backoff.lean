import TunnelDeck.Daemon.Bookkeeping
import TunnelDeck.Daemon.Retries

/-!
# The backoff of a rule

A reconnect is scheduled with a delay that is drawn from a range, and the range doubles with every
reconnect since the last time the rule was known to be well. The daemon keeps the number in the
diagnostics: it goes when they go, it grows on two paths, and `maintain` sets it back when it sees
an attempt that has been active for a minute.

A `Tally` runs the daemon and counts by what really happens: since the latest of the last stop, the
last edit and the last exit of an attempt that had been active for a minute. When each process exits
is given from the outside, and `maintain` sees a process exited from then on. The two numbers differ
where the daemon does not come to see what happens.

## Main results

* `CounterStep`: all that a section does to the counter, apart from stops and `maintain`.
* `Tally.Counted.step`: the invariant that ties the counter to the tally.
* `Tally.backoff_law`: the law of the delays, in every run in which nothing is overlooked.
-/

namespace TunnelDeck

open Json (Value)
open Concurrency

/-! ## The counter -/

namespace RuleView

def retries (v : RuleView) : ℕ := (v.info.getD {}).retryAttempt

/-- The rule neither is active nor waits for a reconnect. -/
def quiescent (v : RuleView) : Prop :=
  v.active = false ∧ ∀ due, v.entry ≠ some (.reconnecting due)

/-- The view after an attempt has failed: a reconnect is scheduled, or there is none. -/
def Fails (v v' : RuleView) (now : ℕ) : Prop :=
  (∃ entropy, v'.entry = some (.reconnecting (now + fullJitter v.retries entropy)) ∧
      v'.retries = saturatingSucc v.retries) ∨
    v'.quiescent ∧ v'.retries = v.retries

variable (v : RuleView)

theorem quiescent_of_entry {v : RuleView} (h : v.entry = none ∨ v.entry = some .failed) :
    v.quiescent := by
  rcases h with h | h
  · exact ⟨by rw [active, h]; rfl, by simp [h]⟩
  · exact ⟨by rw [active, h]; rfl, by simp [h]⟩

theorem launchFailed_fails (editOwned : Bool) (launch : Launch) (error : ProcessError)
    (now : ℕ) : v.Fails (v.launchFailed editOwned launch error now) now := by
  simp only [launchFailed]
  split
  · exact Or.inl ⟨uuidEntropy launch.attemptId, rfl, rfl⟩
  · refine Or.inr ⟨quiescent_of_entry ?_, rfl⟩
    cases editOwned
    · exact Or.inr rfl
    · exact Or.inl rfl

theorem exit_fails (now : ℕ) (attemptId : Uuid) : v.Fails (v.exit now attemptId) now := by
  simp only [exit]
  split
  · exact Or.inl ⟨uuidEntropy attemptId, rfl, rfl⟩
  · exact Or.inr ⟨quiescent_of_entry (Or.inr rfl), rfl⟩

theorem retries_reset (now : ℕ) :
    (v.reset now).retries =
      if v.since.any fun since ↦ resetAfter ≤ now - since then 0 else v.retries := by
  rw [retries, reset, since, retries]
  cases hinfo : v.info with
  | none => rfl
  | some info =>
    simp only [Option.map_some, Option.getD_some, Option.bind_some]
    split <;> rfl

/-- `maintain` does nothing to a rule without an attempt but take a reconnect that is due. -/
theorem scan_of_idle {v : RuleView} (h : v.active = false) (exited : ℕ → Bool) (now : ℕ) :
    v.scan exited now = v ∨ v.scan exited now = { v with entry := none } := by
  unfold scan
  split
  · rename_i attempt hentry
    exact absurd (active_iff.mpr ⟨attempt, hentry⟩) (ne_true_of_eq_false h)
  · split
    · exact Or.inr rfl
    · exact Or.inl rfl
  · exact Or.inl rfl

end RuleView

/-! ## What a section does to the counter -/

/-- A point at which the count of a rule may start again. -/
def Pc.restarts : Pc → Bool
  | .stop _ .enter | .editEnter _ | .dispatch _ | .maintain _ .scan => true
  | _ => false

/-- What a section does to the counter and the entry of a rule, if it is neither a stop nor the
section of `maintain`. -/
inductive CounterStep (now : ℕ) (p : Pc) (v v' : RuleView) : Prop
  | quiet (hentry : v'.entry = v.entry) (hinfo : v'.info = v.info)
      (hediting : ∀ request, p = .editEnter request → (v'.editing ↔ v.editing))
  /-- An edit reserves the rule. -/
  | reserve (hp : ∃ request, p = .editEnter request) (hbefore : ¬ v.editing)
      (hediting : v'.editing) (hentry : v'.entry = none) (hinfo : v'.info = none)
  /-- A start or an edit leaves the rule without an attempt. -/
  | rest (hp : p.restarts = false) (hidle : v.active = false) (hrest : v'.quiescent)
      (hretries : v'.retries = v.retries)
  /-- A reconnect is scheduled. -/
  | retry (hp : p.restarts = false) (hidle : v.quiescent) (entropy : ℕ)
      (hentry : v'.entry = some (.reconnecting (now + fullJitter v.retries entropy)))
      (hretries : v'.retries = saturatingSucc v.retries)
  /-- A launch has succeeded. -/
  | finish (hp : p.restarts = false) (hidle : v.active = false) (hactive : v'.active = true)
      (hsince : v'.since = some now) (hretries : v'.retries = v.retries)

/-- **All that a section does to the counter.** -/
theorem RuleStep.counter {crates : Crates} {env : Env} {d : Daemon} {id : Uuid} {p p' : Pc}
    {v : RuleView} (h : RuleStep crates env d id p p' v) (hp : Reserves d p)
    (hmanaged : p.unmanaged = false) (hstop : ∀ request, p ≠ .stop request .enter)
    (hscan : ∀ poller, p ≠ .maintain poller .scan) :
    CounterStep env.now p (d.state.view id) v := by
  have hstarting : ∀ {launch : Launch}, launch.id = id → launch.current d.state →
      (d.state.view id).quiescent := by
    rintro launch rfl hcurrent
    have hentry : (d.state.view launch.id).entry = some (.starting launch.attemptId) := hcurrent
    exact ⟨by rw [RuleView.active, hentry]; rfl, by simp [hentry]⟩
  cases h with
  | keep => exact .quiet rfl rfl fun _ _ ↦ Iff.rfl
  | configure | release | commit | unreserve => exact .quiet rfl rfl fun _ h ↦ by cases h
  | refuse hadmitted hrule hentry =>
    exact .rest rfl (RuleView.quiescent_of_entry hentry).1
      (RuleView.quiescent_of_entry (Or.inl rfl)) rfl
  | launch hadmitted hrule hentry =>
    exact .rest rfl (RuleView.quiescent_of_entry hentry).1 ⟨rfl, fun _ h ↦ by cases h⟩ rfl
  | @fail caller launch error p' hid hcurrent =>
    have hidle := hstarting hid hcurrent
    rcases (d.state.view id).launchFailed_fails caller.editOwned launch error env.now with
      ⟨entropy, hentry, hretries⟩ | ⟨hrest, hretries⟩
    · exact .retry rfl hidle entropy hentry hretries
    · exact .rest rfl hidle.1 hrest hretries
  | @finish caller launch attempt hid hcurrent =>
    cases attempt with
    | none => cases hmanaged
    | some attempt => exact .finish rfl (hstarting hid hcurrent).1 rfl rfl rfl
  | stop => exact absurd rfl (hstop _)
  | reserve hid hrule hediting hentry =>
    exact .reserve ⟨_, rfl⟩ hediting trivial rfl rfl
  | @stopFailed request edit error hid =>
    -- the edit has taken the attempt before it stopped it
    obtain ⟨-, hentry, -⟩ := hp.pending edit rfl
    rw [hid] at hentry
    exact .rest rfl (RuleView.quiescent_of_entry (Or.inl hentry)).1
      (RuleView.quiescent_of_entry (Or.inr rfl)) rfl
  | scan => exact absurd rfl (hscan _)

/-! ## The tally of a rule -/

/-- A run of the daemon with what happened to one rule. -/
structure Tally where
  system : System
  /-- The reconnects that were scheduled since the count last started. -/
  scheduled : ℕ
  /-- When the present attempt became active. -/
  activated : ℕ
  /-- `maintain` has seen the present attempt run a minute after that. -/
  settled : Bool

section Tally

variable (crates : Crates) (exits : ℕ → ℕ) (id : Uuid)

/-- The choice in which a process is seen to have exited from its exit on. -/
def observed (a : Choice) : Choice :=
  (a.1, { a.2 with exited := fun process ↦ exits process ≤ a.2.now })

def stopsRule (request : Request) (s : State) : Bool :=
  (stopEnter crates request.payload s).1.toOption.any fun taken ↦ taken.1 = id

/-- The request edits the rule while it has no runtime entry: a `ForwardAdd` under its id. -/
def replacesRule (env : Env) (request : Request) (s : State) : Bool :=
  request.operation = .forwardAdd &&
    ((decodeRule crates request.payload).bind fun wire ↦
      (Rule.ofWire wire).toOption).any (fun rule ↦ rule.id = id) &&
    (findRule s.rules id).isSome &&
    (dispatch crates env.save env.now request s).2.1 ≠ []

/-- The entry is an attempt that has exited by now and was active for a minute when it did. -/
def outlasted (activated now : ℕ) : Option Attempt → Bool
  | some (.active attempt) =>
    exits attempt.process ≤ now && resetAfter ≤ exits attempt.process - activated
  | _ => false

namespace Tally

/-- The daemon right after it was opened. -/
def opened (s : State) : Tally where
  system := .opened s
  scheduled := 0
  activated := 0
  settled := false

def view (t : Tally) : RuleView := t.system.shared.state.view id

def next (t : Tally) (a : Choice) : System :=
  System.step crates true t.system (observed exits a)

def viewNext (t : Tally) (a : Choice) : RuleView :=
  (t.next crates exits a).shared.state.view id

/-- The count starts again: the rule is stopped or edited, or `maintain` comes to an attempt of it
that had been active for a minute when it exited. -/
def restarts (t : Tally) (a : Choice) : Bool :=
  let s := t.system.shared.state
  match t.system.thread a.1 with
  | .stop request .enter => stopsRule crates id request s
  | .editEnter _ => id ∉ s.editing && id ∈ (t.next crates exits a).shared.state.editing
  | .dispatch request => replacesRule crates id (observed exits a).2 request s
  | .maintain _ .scan => outlasted exits t.activated a.2.now (s.running.lookup id)
  | _ => false

/-- The number of reconnects that were scheduled before one that this section schedules. -/
def counted (t : Tally) (a : Choice) : ℕ :=
  if t.restarts crates exits id a then 0 else t.scheduled

/-- When the reconnect is due that the section schedules. -/
def reconnects (t : Tally) (a : Choice) : Option ℕ :=
  match (t.viewNext crates exits id a).entry with
  | some (.reconnecting due) =>
    if (t.view id).entry = some (.reconnecting due) then none else some due
  | _ => none

/-- `maintain` looks at the runtime entries. -/
def scans (t : Tally) (a : Choice) : Bool :=
  match t.system.thread a.1 with
  | .maintain _ .scan => true
  | _ => false

def step (t : Tally) (a : Choice) : Tally :=
  let before := t.view id
  let after := t.viewNext crates exits id a
  let changed : Bool := after.entry ≠ before.entry
  { system := t.next crates exits a
    scheduled := t.counted crates exits id a +
      if (t.reconnects crates exits id a).isSome then 1 else 0
    activated := if after.active && changed then a.2.now else t.activated
    settled := !changed && (t.settled ||
      (t.scans a && before.active && resetAfter ≤ a.2.now - t.activated)) }

theorem run_system (t : Tally) (as : List Choice) :
    (run (step crates exits id) t as).system =
      run (System.step crates true) t.system (as.map (observed exits)) := by
  induction as generalizing t with
  | nil => rfl
  | cons a as ih => exact ih (t.step crates exits id a)

/-- The count starts again and the daemon does not notice: the rule is edited while it has no
runtime entry, or no `maintain` has seen the attempt run for a minute. -/
def overlooks (t : Tally) (a : Choice) : Bool :=
  t.restarts crates exits id a &&
    match t.system.thread a.1 with
    | .dispatch _ => true
    | .maintain _ .scan => !t.settled
    | _ => false

/-- Where the daemon does not notice that the count starts again there is nothing to count, and the
number fits into a `u32` when a reconnect is scheduled. -/
def Regular (t : Tally) (a : Choice) : Prop :=
  (t.overlooks crates exits id a = true → t.scheduled = 0) ∧
    ((t.reconnects crates exits id a).isSome = true → t.counted crates exits id a < 2 ^ 32)

instance (t : Tally) (a : Choice) : Decidable (t.Regular crates exits id a) :=
  inferInstanceAs (Decidable (_ ∧ _))

/-- The law of a section: a reconnect that it schedules comes after a delay between zero and a
minute, and at most `2 ^ k` seconds, where `k` reconnects were scheduled before it and the counter
says so. -/
def Lawful (t : Tally) (a : Choice) : Prop :=
  ∀ due ∈ t.reconnects crates exits id a,
    (t.view id).retries = t.counted crates exits id a ∧ a.2.now ≤ due ∧
      due - a.2.now ≤ min 60000 (2 ^ t.counted crates exits id a * 1000)

instance (t : Tally) (a : Choice) : Decidable (t.Lawful crates exits id a) :=
  inferInstanceAs (Decidable (∀ due ∈ t.reconnects crates exits id a, _))

/-- The counter follows the tally: up to the largest number of the counter, and once an attempt is
settled it is zero already. -/
structure Counted (t : Tally) : Prop where
  counter : (t.view id).retries = if t.settled then 0 else min t.scheduled 4294967295
  since : (t.view id).active = true → (t.view id).since = some t.activated
  outlived : t.settled = true → ∃ attempt, (t.view id).entry = some (.active attempt) ∧
    resetAfter ≤ exits attempt.process - t.activated

end Tally

end Tally

/-! ## The counter follows the tally -/

section Follow

variable {crates : Crates} {exits : ℕ → ℕ} {id : Uuid} {t : Tally} {a : Choice}

namespace Tally

theorem Counted.opened {s : State} (hs : s.Idle) : (Tally.opened s).Counted exits id := by
  have hinfo : ((Tally.opened s).view id).info = none := by
    show s.diagnostics.lookup id = none
    rw [hs.diagnostics]
    rfl
  have hentry : ((Tally.opened s).view id).entry = none := by
    show s.running.lookup id = none
    rw [hs.running]
    rfl
  constructor
  · rw [RuleView.retries, hinfo]
    rfl
  · intro hactive
    rw [RuleView.active, hentry] at hactive
    cases hactive
  · intro hsettled
    cases hsettled

theorem Counted.not_settled (h : t.Counted exits id) (hidle : (t.view id).active = false) :
    t.settled = false := by
  by_contra hsettled
  obtain ⟨attempt, hentry, -⟩ := h.outlived (eq_true_of_ne_false hsettled)
  exact ne_true_of_eq_false hidle (RuleView.active_iff.mpr ⟨attempt, hentry⟩)

theorem Counted.retries_of_idle (h : t.Counted exits id) (hidle : (t.view id).active = false) :
    (t.view id).retries = min t.scheduled 4294967295 := by
  rw [h.counter, h.not_settled hidle]
  rfl

theorem reconnects_of_same
    (hentry : (t.viewNext crates exits id a).entry = (t.view id).entry) :
    t.reconnects crates exits id a = none := by
  rw [reconnects, hentry]
  split
  · rename_i due hdue
    exact if_pos hdue
  · rfl

theorem reconnects_of_quiescent (h : (t.viewNext crates exits id a).quiescent) :
    t.reconnects crates exits id a = none := by
  rw [reconnects]
  split
  · rename_i due hdue
    exact absurd hdue (h.2 due)
  · rfl

theorem reconnects_of_active (h : (t.viewNext crates exits id a).active = true) :
    t.reconnects crates exits id a = none := by
  obtain ⟨attempt, hentry⟩ := RuleView.active_iff.mp h
  rw [reconnects, hentry]

theorem Counted.quiet (h : t.Counted exits id)
    (hentry : (t.viewNext crates exits id a).entry = (t.view id).entry)
    (hinfo : (t.viewNext crates exits id a).info = (t.view id).info)
    (hcount : t.counted crates exits id a = t.scheduled) (hscan : t.scans a = false) :
    (t.step crates exits id a).Counted exits id := by
  have hsettled : (t.step crates exits id a).settled = t.settled := by
    simp [step, hentry, hscan]
  have hactivated : (t.step crates exits id a).activated = t.activated := by
    simp [step, hentry]
  have hscheduled : (t.step crates exits id a).scheduled = t.scheduled := by
    simp [step, reconnects_of_same hentry, hcount]
  constructor
  · rw [hsettled, hscheduled, ← h.counter]
    show ((t.viewNext crates exits id a).info.getD {}).retryAttempt = _
    rw [hinfo]
    rfl
  · intro hactive
    rw [hactivated, ← h.since]
    · show (t.viewNext crates exits id a).info.bind RuntimeInfo.activeSince = _
      rw [hinfo]
      rfl
    · show ((t.view id).entry.any Attempt.isActive) = true
      rw [← hentry]
      exact hactive
  · rw [hsettled, hactivated]
    intro hset
    obtain ⟨attempt, hattempt, houtlived⟩ := h.outlived hset
    exact ⟨attempt, hentry.trans hattempt, houtlived⟩

theorem Counted.settled_step (h : t.Counted exits id)
    (hidle : (t.viewNext crates exits id a).active = false) :
    (t.step crates exits id a).settled = false := by
  by_cases hentry : (t.viewNext crates exits id a).entry = (t.view id).entry
  · have hbefore : (t.view id).active = false := by
      rw [RuleView.active, ← hentry]
      exact hidle
    simp [step, h.not_settled hbefore, hbefore]
  · simp [step, hentry]

theorem Counted.of_idle (h : t.Counted exits id)
    (hidle : (t.viewNext crates exits id a).active = false)
    (hcounter : (t.viewNext crates exits id a).retries =
      min (t.step crates exits id a).scheduled 4294967295) :
    (t.step crates exits id a).Counted exits id := by
  have hsettled := h.settled_step hidle
  constructor
  · rw [hsettled]
    exact hcounter
  · intro hactive
    cases hidle.symm.trans hactive
  · intro hset
    cases hsettled.symm.trans hset

theorem Counted.rest (h : t.Counted exits id)
    (hrest : (t.viewNext crates exits id a).quiescent)
    (hcounter : (t.viewNext crates exits id a).retries =
      min (t.counted crates exits id a) 4294967295) :
    (t.step crates exits id a).Counted exits id := by
  refine h.of_idle hrest.1 ?_
  simp [step, reconnects_of_quiescent hrest, hcounter]

theorem reconnects_of_retry {due : ℕ} (hbefore : (t.view id).entry ≠ some (.reconnecting due))
    (hentry : (t.viewNext crates exits id a).entry = some (.reconnecting due)) :
    t.reconnects crates exits id a = some due := by
  rw [reconnects, hentry]
  exact if_neg hbefore

theorem saturatingSucc_min (n : ℕ) :
    saturatingSucc (min n 4294967295) = min (n + 1) 4294967295 := by
  rw [saturatingSucc]
  omega

theorem Counted.fails (h : t.Counted exits id)
    (hbefore : ∀ due, (t.view id).entry ≠ some (.reconnecting due))
    (hfails : (t.view id).Fails (t.viewNext crates exits id a) a.2.now)
    (hcounter : (t.view id).retries = min (t.counted crates exits id a) 4294967295) :
    (t.step crates exits id a).Counted exits id := by
  rcases hfails with ⟨entropy, hentry, hretries⟩ | ⟨hrest, hretries⟩
  · have hreconnects := reconnects_of_retry (hbefore _) hentry
    refine h.of_idle ?_ ?_
    · rw [RuleView.active, hentry]
      rfl
    · rw [hretries, hcounter, saturatingSucc_min]
      simp [step, hreconnects]
  · exact h.rest hrest (hretries.trans hcounter)

theorem Counted.finish (h : t.Counted exits id) (hidle : (t.view id).active = false)
    (hactive : (t.viewNext crates exits id a).active = true)
    (hsince : (t.viewNext crates exits id a).since = some a.2.now)
    (hretries : (t.viewNext crates exits id a).retries = (t.view id).retries)
    (hcount : t.counted crates exits id a = t.scheduled) :
    (t.step crates exits id a).Counted exits id := by
  have hchanged : (t.viewNext crates exits id a).entry ≠ (t.view id).entry := by
    intro hsame
    rw [RuleView.active, hsame] at hactive
    cases hidle.symm.trans hactive
  have hreconnects := reconnects_of_active hactive
  have hsettled : (t.step crates exits id a).settled = false := by simp [step, hchanged]
  constructor
  · rw [hsettled]
    refine hretries.trans ((h.retries_of_idle hidle).trans ?_)
    simp [step, hreconnects, hcount]
  · intro _
    refine hsince.trans ?_
    simp [step, hactive, hchanged]
  · intro hset
    cases hsettled.symm.trans hset

/-! ### Stops -/

theorem viewNext_of_point {p : Pc} (hpoint : t.system.thread a.1 = p) :
    t.viewNext crates exits id a =
      (exec crates true (observed exits a).2 t.system.shared p).1.state.view id := by
  rw [← hpoint]
  rfl

theorem viewNext_stop {request : Request} (hpoint : t.system.thread a.1 = .stop request .enter) :
    t.viewNext crates exits id a =
      if stopsRule crates id request t.system.shared.state then (t.view id).stop
      else t.view id := by
  rw [viewNext_of_point hpoint]
  rcases hstop : stopEnter crates request.payload t.system.shared.state with ⟨result, s⟩
  rcases stopEnter_spec hstop with ⟨failure, rfl, rfl⟩ | ⟨j, hid, hediting, hrule, rfl, rfl⟩
  · simp only [exec, execStop, stopsRule, hstop]
    rfl
  · have hstops : stopsRule crates id request t.system.shared.state = decide (j = id) := by
      rw [stopsRule, hstop]
      rfl
    simp only [exec, execStop, hstop, hstops, decide_eq_true_iff]
    split
    · rename_i hj
      subst hj
      exact view_stopped ..
    · rename_i hj
      exact view_stopped_of_ne _ (Ne.symm hj)

theorem Counted.stop (h : t.Counted exits id) {request : Request}
    (hpoint : t.system.thread a.1 = .stop request .enter) :
    (t.step crates exits id a).Counted exits id ∧ t.reconnects crates exits id a = none := by
  have hrestarts : t.restarts crates exits id a =
      stopsRule crates id request t.system.shared.state := by
    simp only [restarts, hpoint]
  have hview : t.viewNext crates exits id a = _ := viewNext_stop hpoint
  rw [← hrestarts] at hview
  split at hview
  · rename_i hstops
    have hrest : (t.viewNext crates exits id a).quiescent :=
      RuleView.quiescent_of_entry (Or.inl (by rw [hview]; rfl))
    refine ⟨h.rest hrest ?_, reconnects_of_quiescent hrest⟩
    rw [hview, counted, if_pos hstops]
    rfl
  · rename_i hstops
    have hentry := congrArg RuleView.entry hview
    refine ⟨h.quiet hentry (congrArg RuleView.info hview) (if_neg hstops) ?_,
      reconnects_of_same hentry⟩
    simp only [scans, hpoint]

/-! ### Maintenance -/

theorem outlasted_of_idle (h : (t.view id).active = false) {now : ℕ} :
    outlasted exits t.activated now (t.view id).entry = false := by
  rw [outlasted]
  intro attempt hentry
  exact absurd (RuleView.active_iff.mpr ⟨attempt, hentry⟩) (ne_true_of_eq_false h)

theorem viewNext_scan {poller : Poller} (hpoint : t.system.thread a.1 = .maintain poller .scan) :
    t.viewNext crates exits id a =
      (t.view id).scan (fun process ↦ exits process ≤ a.2.now) a.2.now := by
  rw [viewNext_of_point hpoint]
  simp only [exec, execMaintain, state_foldl_cleanup]
  exact view_maintainScan ..

theorem Counted.alive (h : t.Counted exits id) {attempt : ManagedAttempt}
    (hscan : t.scans a = true) (hentry : (t.view id).entry = some (.active attempt))
    (hruns : ¬ exits attempt.process ≤ a.2.now)
    (hview : t.viewNext crates exits id a = (t.view id).reset a.2.now)
    (hcount : t.counted crates exits id a = t.scheduled) :
    (t.step crates exits id a).Counted exits id := by
  have hactive : (t.view id).active = true := RuleView.active_iff.mpr ⟨attempt, hentry⟩
  have hsame : (t.viewNext crates exits id a).entry = (t.view id).entry := by
    rw [hview]
    rfl
  have hsettled : (t.step crates exits id a).settled =
      (t.settled || decide (resetAfter ≤ a.2.now - t.activated)) := by
    simp [step, hsame, hscan, hactive]
  have hactivated : (t.step crates exits id a).activated = t.activated := by simp [step, hsame]
  have hscheduled : (t.step crates exits id a).scheduled = t.scheduled := by
    simp [step, reconnects_of_same hsame, hcount]
  constructor
  · have hretries : ((t.step crates exits id a).view id).retries =
        if resetAfter ≤ a.2.now - t.activated then 0 else (t.view id).retries := by
      refine (congrArg RuleView.retries hview).trans ?_
      rw [RuleView.retries_reset, h.since hactive]
      simp only [Option.any_some, decide_eq_true_iff]
    rw [hretries, hsettled, hscheduled, h.counter]
    rcases t.settled with _ | _ <;> simp
  · intro _
    rw [hactivated, ← h.since hactive]
    exact (congrArg RuleView.since hview).trans (RuleView.since_reset _)
  · rw [hsettled, hactivated, Bool.or_eq_true, decide_eq_true_iff]
    rintro (hset | hminute)
    · obtain ⟨attempt', hentry', houtlived⟩ := h.outlived hset
      exact ⟨attempt', hsame.trans hentry', houtlived⟩
    · -- it is seen to run after a minute, so it exits later
      exact ⟨attempt, hsame.trans hentry, by omega⟩

/-- When `maintain` comes to an attempt that has exited, the counter is the number of the tally. -/
theorem Counted.retries_of_exited (h : t.Counted exits id) {poller : Poller}
    (hpoint : t.system.thread a.1 = .maintain poller .scan) {attempt : ManagedAttempt}
    (hentry : (t.view id).entry = some (.active attempt))
    (hexited : exits attempt.process ≤ a.2.now)
    (hoverlooks : t.overlooks crates exits id a = true → t.scheduled = 0) :
    (t.view id).retries = min (t.counted crates exits id a) 4294967295 := by
  have hrestarts : t.restarts crates exits id a =
      decide (resetAfter ≤ exits attempt.process - t.activated) := by
    have hlookup : t.system.shared.state.running.lookup id = some (.active attempt) := hentry
    simp [restarts, hpoint, hlookup, outlasted, hexited]
  have hsettled : t.settled = true → t.restarts crates exits id a = true := by
    intro hset
    obtain ⟨attempt', hentry', houtlived⟩ := h.outlived hset
    cases hentry.symm.trans hentry'
    rw [hrestarts, decide_eq_true_iff]
    exact houtlived
  rw [h.counter, counted]
  split
  · rename_i hset
    rw [if_pos (hsettled hset)]
    rfl
  · rename_i hset
    split
    · rename_i hrestart
      rw [hoverlooks]
      simp [overlooks, hrestart, hpoint, hset]
    · rfl

theorem Counted.still (h : t.Counted exits id) (hbefore : (t.view id).active = false)
    (hafter : (t.viewNext crates exits id a).active = false)
    (hretries : (t.viewNext crates exits id a).retries = (t.view id).retries)
    (hcount : t.counted crates exits id a = t.scheduled)
    (hreconnects : t.reconnects crates exits id a = none) :
    (t.step crates exits id a).Counted exits id := by
  refine h.of_idle hafter ((hretries.trans (h.retries_of_idle hbefore)).trans ?_)
  simp [step, hreconnects, hcount]

/-- Where a section schedules a reconnect an attempt has failed, and the counter is the number of
the tally. -/
def Accounted (crates : Crates) (exits : ℕ → ℕ) (id : Uuid) (t : Tally) (a : Choice) : Prop :=
  (t.reconnects crates exits id a).isSome = true →
    (t.view id).retries = min (t.counted crates exits id a) 4294967295 ∧
      (t.view id).Fails (t.viewNext crates exits id a) a.2.now

theorem accounted_of_none (h : t.reconnects crates exits id a = none) :
    t.Accounted crates exits id a := by
  intro hsome
  rw [h] at hsome
  cases hsome

theorem Counted.scan (h : t.Counted exits id) {poller : Poller}
    (hpoint : t.system.thread a.1 = .maintain poller .scan)
    (hoverlooks : t.overlooks crates exits id a = true → t.scheduled = 0) :
    (t.step crates exits id a).Counted exits id ∧ t.Accounted crates exits id a := by
  have hview : t.viewNext crates exits id a = _ := viewNext_scan hpoint
  -- only an attempt can exit or be set back
  by_cases hactive : (t.view id).active = true
  · obtain ⟨attempt, hentry⟩ := RuleView.active_iff.mp hactive
    have hnot : ∀ due, (t.view id).entry ≠ some (.reconnecting due) := by simp [hentry]
    by_cases hexited : exits attempt.process ≤ a.2.now
    · -- the attempt has exited, and the counter starts again if it was settled
      have hfails : (t.view id).Fails (t.viewNext crates exits id a) a.2.now := by
        rw [hview, RuleView.scan, hentry]
        simp only [hexited, decide_true, if_true]
        exact RuleView.exit_fails ..
      have hcounter := h.retries_of_exited hpoint hentry hexited hoverlooks
      exact ⟨h.fails hnot hfails hcounter, fun _ ↦ ⟨hcounter, hfails⟩⟩
    · have hreset : t.viewNext crates exits id a = (t.view id).reset a.2.now := by
        rw [hview, RuleView.scan, hentry]
        simp [hexited]
      have hcount : t.counted crates exits id a = t.scheduled := by
        have hlookup : t.system.shared.state.running.lookup id = some (.active attempt) := hentry
        simp [counted, restarts, hpoint, hlookup, outlasted, hexited]
      refine ⟨h.alive (by simp only [scans, hpoint]) hentry hexited hreset hcount, ?_⟩
      exact accounted_of_none (reconnects_of_same (by rw [hreset]; rfl))
  · have hidle := eq_false_of_ne_true hactive
    have hcount : t.counted crates exits id a = t.scheduled := by
      refine if_neg (ne_true_of_eq_false ?_)
      simp only [restarts, hpoint]
      exact outlasted_of_idle hidle
    rcases RuleView.scan_of_idle hidle (fun process ↦ exits process ≤ a.2.now) a.2.now with
      hsame | htaken
    · rw [← hview] at hsame
      have hentry := congrArg RuleView.entry hsame
      have hnone := reconnects_of_same hentry
      refine ⟨h.still hidle ?_ (congrArg RuleView.retries hsame) hcount hnone,
        accounted_of_none hnone⟩
      rw [hsame]
      exact hidle
    · rw [← hview] at htaken
      have hrest : (t.viewNext crates exits id a).quiescent :=
        RuleView.quiescent_of_entry (Or.inl (by rw [htaken]))
      have hnone := reconnects_of_quiescent hrest
      exact ⟨h.still hidle hrest.1 (by rw [htaken]; rfl) hcount hnone, accounted_of_none hnone⟩

/-! ### Every section -/

/-- The count does not start again at any other point. -/
theorem counted_of_restarts (h : (t.system.thread a.1).restarts = false) :
    t.counted crates exits id a = t.scheduled := by
  refine if_neg (ne_true_of_eq_false ?_)
  rw [restarts]
  split
  case h_5 => rfl
  all_goals
    rename_i hpoint
    rw [hpoint] at h
    cases h

theorem scans_of_ne (h : ∀ poller, t.system.thread a.1 ≠ .maintain poller .scan) :
    t.scans a = false := by
  rw [scans]
  split
  · rename_i poller hpoint
    exact absurd hpoint (h poller)
  · rfl

theorem counterStep (hcrates : crates.Faithful) (htimely : Timely t.system)
    (hstop : ∀ request, t.system.thread a.1 ≠ .stop request .enter)
    (hscan : ∀ poller, t.system.thread a.1 ≠ .maintain poller .scan) :
    CounterStep a.2.now (t.system.thread a.1) (t.view id) (t.viewNext crates exits id a) :=
  (exec_ruleStep hcrates true (observed exits a).2 t.system.shared id
    (t.system.thread a.1)).counter (htimely.reservations.consistent.thread a.1)
    (htimely.managed a.1) hstop hscan

/-- **What every section keeps.** -/
theorem Counted.step (hcrates : crates.Faithful) (htimely : Timely t.system)
    (h : t.Counted exits id) (hoverlooks : t.overlooks crates exits id a = true → t.scheduled = 0) :
    (t.step crates exits id a).Counted exits id ∧ t.Accounted crates exits id a := by
  by_cases hstop : ∃ request, t.system.thread a.1 = .stop request .enter
  · obtain ⟨request, hpoint⟩ := hstop
    obtain ⟨hcounted, hnone⟩ := h.stop hpoint
    exact ⟨hcounted, accounted_of_none hnone⟩
  by_cases hscan : ∃ poller, t.system.thread a.1 = .maintain poller .scan
  · obtain ⟨poller, hpoint⟩ := hscan
    exact h.scan hpoint hoverlooks
  rw [not_exists] at hstop hscan
  have hscans := scans_of_ne hscan
  have hstep : CounterStep a.2.now (t.system.thread a.1) (t.view id)
      (t.viewNext crates exits id a) := counterStep hcrates htimely hstop hscan
  cases hstep with
  | quiet hentry hinfo hediting =>
    have hcount : t.counted crates exits id a = t.scheduled := by
      rw [counted]
      split
      · -- only an edit of a rule without an entry starts the count again in silence
        rename_i hrestarts
        refine (hoverlooks ?_).symm
        rw [overlooks, hrestarts, Bool.true_and]
        rw [restarts] at hrestarts
        split at hrestarts
        · rename_i request hpoint
          exact absurd hpoint (hstop request)
        · rename_i request hpoint
          rw [Bool.and_eq_true, decide_eq_true_iff, decide_eq_true_iff] at hrestarts
          exact absurd ((hediting request hpoint).mp hrestarts.2) hrestarts.1
        · rename_i request hpoint
          simp only [hpoint]
        · rename_i poller hpoint
          exact absurd hpoint (hscan poller)
        · cases hrestarts
      · rfl
    exact ⟨h.quiet hentry hinfo hcount hscans, accounted_of_none (reconnects_of_same hentry)⟩
  | reserve hp hbefore hediting hentry hinfo =>
    obtain ⟨request, hpoint⟩ := hp
    have hrest : (t.viewNext crates exits id a).quiescent :=
      RuleView.quiescent_of_entry (Or.inl hentry)
    refine ⟨h.rest hrest ?_, accounted_of_none (reconnects_of_quiescent hrest)⟩
    -- the diagnostics went when the edit reserved the rule
    have hrestarts : t.restarts crates exits id a = true := by
      simp only [restarts, hpoint]
      rw [Bool.and_eq_true, decide_eq_true_iff, decide_eq_true_iff]
      exact ⟨hbefore, hediting⟩
    rw [counted, if_pos hrestarts, RuleView.retries, hinfo]
    rfl
  | rest hp hidle hrest hretries =>
    have hcount : t.counted crates exits id a = t.scheduled := counted_of_restarts hp
    refine ⟨h.rest hrest ?_, accounted_of_none (reconnects_of_quiescent hrest)⟩
    rw [hretries, h.retries_of_idle hidle, hcount]
  | retry hp hidle entropy hentry hretries =>
    have hcount : t.counted crates exits id a = t.scheduled := counted_of_restarts hp
    have hcounter : (t.view id).retries = min (t.counted crates exits id a) 4294967295 := by
      rw [h.retries_of_idle hidle.1, hcount]
    have hfails : (t.view id).Fails (t.viewNext crates exits id a) a.2.now :=
      Or.inl ⟨entropy, hentry, hretries⟩
    exact ⟨h.fails hidle.2 hfails hcounter, fun _ ↦ ⟨hcounter, hfails⟩⟩
  | finish hp hidle hactive hsince hretries =>
    have hcount : t.counted crates exits id a = t.scheduled := counted_of_restarts hp
    exact ⟨h.finish hidle hactive hsince hretries hcount,
      accounted_of_none (reconnects_of_active hactive)⟩

/-! ## The law -/

theorem Accounted.lawful_iff (h : t.Accounted crates exits id a)
    (hsome : (t.reconnects crates exits id a).isSome = true) :
    t.Lawful crates exits id a ↔ t.counted crates exits id a < 2 ^ 32 := by
  obtain ⟨hcounter, hfails⟩ := h hsome
  obtain ⟨due, hdue⟩ := Option.isSome_iff_exists.mp hsome
  constructor
  · intro hlawful
    have hretries := (hlawful due hdue).1
    omega
  · intro hfits due' hdue'
    obtain rfl : due = due' := Option.some.inj (hdue.symm.trans hdue')
    have hretries : (t.view id).retries = t.counted crates exits id a := by omega
    have hentry : (t.viewNext crates exits id a).entry = some (.reconnecting due) := by
      rw [reconnects] at hdue
      split at hdue
      · rename_i due' hentry
        split at hdue
        · cases hdue
        · rw [hentry, Option.some.inj hdue]
      · cases hdue
    -- the delay is drawn from the range of the counter
    rcases hfails with ⟨entropy, hentry', -⟩ | ⟨hrest, -⟩
    · have hjitter := fullJitter_le (t.view id).retries entropy
      rw [hentry, Option.some.injEq, Attempt.reconnecting.injEq] at hentry'
      rw [hretries] at hjitter hentry'
      exact ⟨hretries, by omega, by omega⟩
    · exact absurd hentry (hrest.2 due)

theorem reconnects_of_dispatch (hcrates : crates.Faithful) (htimely : Timely t.system)
    {request : Request} (hpoint : t.system.thread a.1 = .dispatch request) :
    t.reconnects crates exits id a = none := by
  have hstep : CounterStep a.2.now (t.system.thread a.1) (t.view id)
      (t.viewNext crates exits id a) :=
    counterStep hcrates htimely (by simp [hpoint]) (by simp [hpoint])
  rw [hpoint] at hstep
  cases hstep with
  | quiet hentry => exact reconnects_of_same hentry
  | reserve hp =>
    obtain ⟨request', hp⟩ := hp
    cases hp
  | rest hp => cases hp
  | retry hp => cases hp
  | finish hp => cases hp

/-- **The law of one section.** -/
theorem Counted.lawful_iff (hcrates : crates.Faithful) (htimely : Timely t.system)
    (h : t.Counted exits id) (hsome : (t.reconnects crates exits id a).isSome = true) :
    t.Lawful crates exits id a ↔ t.Regular crates exits id a := by
  by_cases hoverlooks : t.overlooks crates exits id a = true → t.scheduled = 0
  · rw [((h.step hcrates htimely hoverlooks).2).lawful_iff hsome, Regular,
      and_iff_right hoverlooks]
    exact ⟨fun hfits _ ↦ hfits, fun hfits ↦ hfits hsome⟩
  · refine iff_of_false (fun hlawful ↦ hoverlooks fun hoverlooked ↦ ?_) fun h ↦ hoverlooks h.1
    obtain ⟨due, hdue⟩ := Option.isSome_iff_exists.mp hsome
    have hretries := (hlawful due hdue).1
    rw [overlooks, Bool.and_eq_true] at hoverlooked
    obtain ⟨hrestarts, hunseen⟩ := hoverlooked
    rw [counted, if_pos hrestarts, h.counter] at hretries
    split at hunseen
    · rename_i request hpoint
      rw [reconnects_of_dispatch hcrates htimely hpoint] at hsome
      cases hsome
    · -- the attempt is not settled, so the counter goes on
      rw [Bool.not_eq_true'] at hunseen
      rw [hunseen, if_neg Bool.false_ne_true] at hretries
      omega
    · cases hunseen

/-- **The law of the backoff.** In every run of a managed daemon, whatever the schedule and the
clock, whenever the processes exit and whatever is drawn: if every section is regular then every
reconnect of the rule obeys the law. And a reconnect that is scheduled by the next section of such
a run obeys it only if this section is regular too. -/
theorem backoff_law (hcrates : crates.Faithful) {faults : OpenFaults} {directory : Directory}
    {s : State} (hopen : openState crates faults directory = .ok s) (exits : ℕ → ℕ) (id : Uuid)
    (as : List Choice)
    (has : Along (step crates exits id) (Regular crates exits id) (opened s) as) :
    Along (step crates exits id) (Lawful crates exits id) (opened s) as ∧
      ∀ a, ((run (step crates exits id) (opened s) as).reconnects crates exits id a).isSome =
          true →
        ((run (step crates exits id) (opened s) as).Lawful crates exits id a ↔
          (run (step crates exits id) (opened s) as).Regular crates exits id a) := by
  -- both invariants hold behind every initial part of the run
  have hinvariant : ∀ bs, Along (step crates exits id) (Regular crates exits id) (opened s) bs →
      Timely (run (step crates exits id) (opened s) bs).system ∧
        (run (step crates exits id) (opened s) bs).Counted exits id := by
    intro bs hbs
    refine invariant_along (step crates exits id)
      (I := fun t ↦ Timely t.system ∧ t.Counted exits id) (fun t a h hregular ↦ ?_)
      ⟨Timely.opened (idle_of_open hopen), Counted.opened (idle_of_open hopen)⟩ hbs
    exact ⟨h.1.step hcrates (observed exits a), (h.2.step hcrates h.1 hregular.1).1⟩
  constructor
  · rw [along_iff_initial]
    rintro bs a ⟨cs, rfl⟩
    rw [List.append_assoc, along_append] at has
    obtain ⟨htimely, hcounted⟩ := hinvariant bs has.1
    intro due hdue
    have hsome : ((run (step crates exits id) (opened s) bs).reconnects crates exits id a).isSome =
        true := Option.isSome_of_eq_some hdue
    exact (hcounted.lawful_iff hcrates htimely hsome).mpr has.2.1 due hdue
  · intro a hsome
    obtain ⟨htimely, hcounted⟩ := hinvariant as has
    exact hcounted.lawful_iff hcrates htimely hsome

/-! ### An example -/

/-- The first attempt exits after five seconds, the second a bit more than a minute after it has
become active. -/
def exampleExits (process : ℕ) : ℕ := if process = 0 then 5000 else 67100

/-- A tunnel is up and ends, and the supervisor schedules a reconnect. -/
def exampleEnded : List Choice :=
  exampleStarted ++ ([(0, {}), (0, {}), (1, { call := some .supervise }), (1, {}),
    (1, { attemptId := 2 }), (1, { now := 5000 }), (1, {}), (1, {})] : List Choice)

theorem backoff_law_exampleEnded :
    Along (step exampleCrates exampleExits exampleRule.id)
      (Lawful exampleCrates exampleExits exampleRule.id)
      (opened exampleOpened.shared.state) exampleEnded :=
  (backoff_law exampleCrates_faithful exampleOpened_open exampleExits exampleRule.id exampleEnded
    (show Along _ _ _ exampleEnded by decide +kernel)).1

/-- The reconnect is due, the tunnel is up again, and `maintain` comes back to it after it has
ended. -/
def exampleOverlooked : List Choice :=
  exampleEnded ++ ([(1, { now := 6000 }), (1, {}), (1, { attemptId := 3 }), (1, {}), (1, {}),
    (1, { now := 6100 }), (1, {}), (1, { now := 67200 })] : List Choice)

/-- The second reconnect breaks the law: the attempt was active for a minute, and still the counter
goes on from the first one. -/
theorem exampleOverlooked_not_lawful :
    ¬ Along (step exampleCrates exampleExits exampleRule.id)
      (Lawful exampleCrates exampleExits exampleRule.id)
      (opened exampleOpened.shared.state) exampleOverlooked := by
  decide +kernel

end Tally

end Follow

end TunnelDeck
