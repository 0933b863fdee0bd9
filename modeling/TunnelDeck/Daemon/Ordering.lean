import TunnelDeck.Daemon.Announcements
import TunnelDeck.Daemon.Exclusion

/-!
# The order of reports

The hub numbers the events in the order in which they are published, and a thread publishes its
event some sections after the change that the event reports. A `Chronicle` runs the daemon and
notes for one rule when its entry changed and which change each published event reports.

The numbers follow the changes as long as no change of the rule falls between another one and its
event. `Races` is a section that makes such a change.

## Main results

* `reports_ordered_of_not_races`: without such a section the events about a rule are ordered as the
  changes that they report. If moreover no change is silent, the last one describes the rule once
  the daemon is done with it.
* `exampleDelayed_misordered`: a start stores its attempt, a stop removes it and publishes its
  event, and the event of the start comes last.
-/

namespace TunnelDeck

open Concurrency

/-! ## The chronicle of a rule -/

/-- A published event about the rule, with the change that it reports: when it was made and the
entry that it left. -/
structure Report where
  name : String
  time : ℕ
  entry : Option Attempt
  deriving DecidableEq

/-- A run of the daemon with what happened to one rule. Time is counted in sections. -/
structure Chronicle where
  system : System
  time : ℕ
  /-- The change that each thread has to report: when it was made and the entry that it left. -/
  changed : ℕ → ℕ × Option Attempt
  /-- When the entry of the rule last changed. -/
  last : ℕ
  /-- What was published about the rule, in the order of the sequence numbers. -/
  reports : List Report

section Chronicle

variable (crates : Crates) (managed : Bool) (id : Uuid)

/-- The section changes the rule, and its thread comes to have an event about that to publish. -/
def Reportable (w : System) (a : Choice) : Prop :=
  (((System.step crates managed w a).thread a.1).report id).isSome = true ∧
    ((System.step crates managed w a).thread a.1).report id ≠ (w.thread a.1).report id

instance (w : System) (a : Choice) : Decidable (Reportable crates managed id w a) :=
  inferInstanceAs (Decidable (_ ∧ _))

/-- The section changes the rule while another thread has an event about it to publish. -/
def Races (w : System) (a : Choice) : Prop :=
  Reportable crates managed id w a ∧ ∃ t ≠ a.1, ((w.thread t).report id).isSome = true

/-- The section removes the rule while its reconnect is taken out. -/
def Forgets (w : System) (a : Choice) : Prop :=
  (∃ t, id ∈ (w.thread t).retries) ∧ (w.shared.state.view id).entry = none ∧
    (w.shared.state.view id).rule.isSome = true ∧
    ((System.step crates managed w a).shared.state.view id).rule = none

namespace Chronicle

/-- The daemon right after it was opened. -/
def opened (s : State) : Chronicle where
  system := .opened s
  time := 0
  changed := fun _ ↦ (0, none)
  last := 0
  reports := []

def step (c : Chronicle) (a : Choice) : Chronicle :=
  let w := System.step crates managed c.system a
  let entry := (w.shared.state.view id).entry
  let published := reportsIn crates id (w.shared.events.drop c.system.shared.events.length)
  { system := w
    time := c.time + 1
    changed :=
      if Reportable crates managed id c.system a then
        Function.update c.changed a.1 (c.time + 1, entry)
      else c.changed
    last := if entry = (c.system.shared.state.view id).entry then c.last else c.time + 1
    reports := c.reports ++
      published.map fun name ↦ ⟨name, (c.changed a.1).1, (c.changed a.1).2⟩ }

theorem run_system (c : Chronicle) (as : List Choice) :
    (run (step crates managed id) c as).system = run (System.step crates managed) c.system as := by
  induction as generalizing c with
  | nil => rfl
  | cons a as ih => exact ih (c.step crates managed id a)

theorem along_system {crates : Crates} {managed : Bool} {id : Uuid} {C : System → Choice → Prop}
    {c : Chronicle} (as : List Choice) (h : Along (System.step crates managed) C c.system as) :
    Along (step crates managed id) (fun c a ↦ C c.system a) c as := by
  induction as generalizing c with
  | nil => trivial
  | cons a as ih => exact ⟨h.1, ih h.2⟩

end Chronicle

end Chronicle

/-! ## Reports follow the changes -/

variable {crates : Crates} {managed : Bool} {id : Uuid}

namespace Chronicle

/-- The part of the invariant that every section keeps: the reports are those of the daemon, and
the entry is noted when it changes. -/
structure Faithful (crates : Crates) (managed : Bool) (id : Uuid) (c : Chronicle) : Prop where
  tidy : ∀ t, (c.system.thread t).Tidy managed
  names : c.reports.map Report.name = reportsIn crates id c.system.shared.events
  last : c.last ≤ c.time
  first : c.last = 0 → (c.system.shared.state.view id).entry = none

/-- The invariant: what was published and what is to be published are in the order of the changes,
at most one thread has something to publish, and a report of the last change has the present
entry. -/
structure Ordered (crates : Crates) (managed : Bool) (id : Uuid) (c : Chronicle) : Prop where
  faithful : c.Faithful crates managed id
  named : ∀ r ∈ c.reports, lifecycleName managed r.entry = some r.name
  past : ∀ r ∈ c.reports, r.time ≤ c.time
  sorted : c.reports.Pairwise fun r r' ↦ r.time < r'.time
  owed : ∀ t name, (c.system.thread t).report id = some name →
    lifecycleName managed (c.changed t).2 = some name ∧ (c.changed t).1 ≤ c.time ∧
      ∀ r ∈ c.reports, r.time < (c.changed t).1
  alone : ∀ t u, ((c.system.thread t).report id).isSome = true →
    ((c.system.thread u).report id).isSome = true → t = u
  present : ∀ r ∈ c.reports, c.last ≤ r.time →
    r.entry = (c.system.shared.state.view id).entry
  toCome : ∀ t, ((c.system.thread t).report id).isSome = true → c.last ≤ (c.changed t).1 →
    (c.changed t).2 = (c.system.shared.state.view id).entry

theorem Ordered.opened {s : State} (hs : s.Idle) : Ordered crates managed id (.opened s) where
  faithful :=
    { tidy := fun _ ↦ trivial
      names := rfl
      last := Nat.le_refl 0
      first := fun _ ↦ by simp [Chronicle.opened, System.opened, State.view, hs.running] }
  named := nofun
  past := nofun
  sorted := .nil
  owed := nofun
  alone := nofun
  present := nofun
  toCome := nofun

section Step

variable {c : Chronicle} {a : Choice}

/-- A change that was made before is the last one only if the entry has not changed since. -/
theorem entry_of_last_le {time : ℕ} (htime : time ≤ c.time)
    (h : (c.step crates managed id a).last ≤ time) :
    ((c.step crates managed id a).system.shared.state.view id).entry =
        (c.system.shared.state.view id).entry ∧ c.last ≤ time := by
  simp only [step] at h ⊢
  split at h
  · rename_i hsame
    exact ⟨hsame, h⟩
  · omega

theorem Faithful.next (hcrates : crates.Faithful) (h : c.Faithful crates managed id) :
    (c.step crates managed id a).Faithful crates managed id := by
  obtain ⟨events, happend, -⟩ := exec_reported hcrates a.2 c.system.shared id (h.tidy a.1)
  refine ⟨tidy_step h.tidy a, ?_, ?_, ?_⟩
  · simp only [step, World.step_shared, happend, List.drop_left, List.map_append, List.map_map,
      h.names, reportsIn_append]
    rw [Function.comp_def, List.map_id']
  · simp only [step]
    split
    · exact h.last.trans (Nat.le_succ _)
    · exact Nat.le_refl _
  · simp only [step]
    split
    · rename_i hsame
      rw [hsame]
      exact h.first
    · exact fun hzero ↦ absurd hzero (Nat.succ_ne_zero _)

/-- **What a section adds to the chronicle.** Its thread goes on with nothing new to report, or it
gives up a report in silence, or it comes to have a report, or it publishes one. -/
theorem step_cases (hcrates : crates.Faithful) (htidy : ∀ t, (c.system.thread t).Tidy managed) :
    (((c.step crates managed id a).system.thread a.1).report id =
        (c.system.thread a.1).report id ∧ (c.step crates managed id a).changed = c.changed ∧
        (c.step crates managed id a).reports = c.reports) ∨
      (((c.step crates managed id a).system.thread a.1).report id = none ∧
        Silent crates id c.system a ∧ (c.step crates managed id a).changed = c.changed ∧
        (c.step crates managed id a).reports = c.reports) ∨
      (Reportable crates managed id c.system a ∧
        (∃ name, ((c.step crates managed id a).system.thread a.1).report id = some name ∧
          lifecycleName managed
            ((c.step crates managed id a).system.shared.state.view id).entry = some name) ∧
        (c.step crates managed id a).changed = Function.update c.changed a.1
          (c.time + 1, ((c.step crates managed id a).system.shared.state.view id).entry) ∧
        (c.step crates managed id a).reports = c.reports) ∨
      ∃ name, (c.system.thread a.1).report id = some name ∧
        ((c.step crates managed id a).system.thread a.1).report id = none ∧
        (c.step crates managed id a).changed = c.changed ∧
        (c.step crates managed id a).reports =
          c.reports ++ [⟨name, (c.changed a.1).1, (c.changed a.1).2⟩] := by
  obtain ⟨events, happend, hreport⟩ := exec_reported hcrates a.2 c.system.shared id (htidy a.1)
  have hpublished : reportsIn crates id ((System.step crates managed c.system a).shared.events.drop
      c.system.shared.events.length) = reportsIn crates id events := by
    rw [World.step_shared, happend, List.drop_left]
  have hthread := World.step_thread_self (exec crates managed) c.system a
  simp only [step, hpublished]
  generalize reportsIn crates id events = names at hreport
  cases hreport with
  | quiet hsame =>
    rw [← hthread] at hsame
    exact Or.inl ⟨hsame, if_neg fun hnew ↦ hnew.2 hsame, List.append_nil _⟩
  | @owe name hname hnew hentry =>
    rw [← hthread] at hname
    have hreportable : Reportable crates managed id c.system a :=
      ⟨Option.isSome_of_eq_some hname, fun hsame ↦ hnew (hsame.symm.trans hname)⟩
    exact Or.inr (Or.inr (Or.inl ⟨hreportable, ⟨name, hname, hentry⟩, if_pos hreportable,
      List.append_nil _⟩))
  | @tell name hname hnone =>
    rw [← hthread] at hnone
    refine Or.inr (Or.inr (Or.inr ⟨name, hname, hnone, if_neg ?_, rfl⟩))
    rintro ⟨hsome, -⟩
    rw [hnone] at hsome
    cases hsome
  | drop hpc hcleanup hnone =>
    rw [← hthread] at hnone
    refine Or.inr (Or.inl ⟨hnone, .cleanupFailed hpc hcleanup, if_neg ?_, List.append_nil _⟩)
    rintro ⟨hsome, -⟩
    rw [hnone] at hsome
    cases hsome

theorem report_of_ne {t : ℕ} (ht : t ≠ a.1) :
    ((c.step crates managed id a).system.thread t).report id = (c.system.thread t).report id :=
  congrArg (Pc.report id) (World.step_thread_of_ne _ c.system ht)

theorem Ordered.quiet (hcrates : crates.Faithful) (h : c.Ordered crates managed id)
    (hkeep : ∀ name, ((c.step crates managed id a).system.thread a.1).report id = some name →
      (c.system.thread a.1).report id = some name)
    (hchanged : (c.step crates managed id a).changed = c.changed)
    (hreports : (c.step crates managed id a).reports = c.reports) :
    (c.step crates managed id a).Ordered crates managed id := by
  have hbefore : ∀ t name, ((c.step crates managed id a).system.thread t).report id = some name →
      (c.system.thread t).report id = some name := by
    intro t name ht
    by_cases hta : t = a.1
    · subst hta
      exact hkeep name ht
    · exact (report_of_ne hta).symm.trans ht
  have hsome : ∀ t, (((c.step crates managed id a).system.thread t).report id).isSome = true →
      ((c.system.thread t).report id).isSome = true := by
    intro t ht
    obtain ⟨name, hname⟩ := Option.isSome_iff_exists.mp ht
    exact Option.isSome_of_eq_some (hbefore t name hname)
  refine ⟨h.faithful.next hcrates, hreports ▸ h.named,
    fun r hr ↦ (h.past r (hreports ▸ hr)).trans (Nat.le_succ _), hreports ▸ h.sorted,
    fun t name ht ↦ ?_, fun t u ht hu ↦ h.alone t u (hsome t ht) (hsome u hu),
    fun r hr hlast ↦ ?_, fun t ht hlast ↦ ?_⟩
  · obtain ⟨hname, htime, hlater⟩ := h.owed t name (hbefore t name ht)
    rw [hchanged, hreports]
    exact ⟨hname, htime.trans (Nat.le_succ _), hlater⟩
  · rw [hreports] at hr
    obtain ⟨hsame, hlast⟩ := entry_of_last_le (h.past r hr) hlast
    rw [hsame]
    exact h.present r hr hlast
  · obtain ⟨name, hname⟩ := Option.isSome_iff_exists.mp (hsome t ht)
    rw [hchanged] at hlast ⊢
    obtain ⟨hsame, hlast⟩ := entry_of_last_le (h.owed t name hname).2.1 hlast
    rw [hsame]
    exact h.toCome t (hsome t ht) hlast

/-- A change of the rule is later than every change that was reported, and by then nothing else is
to be published. -/
theorem Ordered.owe (hcrates : crates.Faithful) (h : c.Ordered crates managed id)
    (hother : ∀ t ≠ a.1, (c.system.thread t).report id = none)
    (hentry : ∃ name, ((c.step crates managed id a).system.thread a.1).report id = some name ∧
      lifecycleName managed
        ((c.step crates managed id a).system.shared.state.view id).entry = some name)
    (hchanged : (c.step crates managed id a).changed = Function.update c.changed a.1
      (c.time + 1, ((c.step crates managed id a).system.shared.state.view id).entry))
    (hreports : (c.step crates managed id a).reports = c.reports) :
    (c.step crates managed id a).Ordered crates managed id := by
  have honly : ∀ t, (((c.step crates managed id a).system.thread t).report id).isSome = true →
      t = a.1 := by
    intro t ht
    by_contra hta
    rw [report_of_ne hta, hother t hta] at ht
    cases ht
  have hself : (c.step crates managed id a).changed a.1 =
      (c.time + 1, ((c.step crates managed id a).system.shared.state.view id).entry) := by
    rw [hchanged, Function.update_self]
  refine ⟨h.faithful.next hcrates, hreports ▸ h.named,
    fun r hr ↦ (h.past r (hreports ▸ hr)).trans (Nat.le_succ _), hreports ▸ h.sorted,
    fun t name ht ↦ ?_, fun t u ht hu ↦ (honly t ht).trans (honly u hu).symm,
    fun r hr hlast ↦ ?_, fun t ht _ ↦ ?_⟩
  · obtain rfl := honly t (Option.isSome_of_eq_some ht)
    obtain ⟨name', hname, hentry⟩ := hentry
    rw [hself, hreports]
    refine ⟨?_, Nat.le_refl _, fun r hr ↦ Nat.lt_succ_of_le (h.past r hr)⟩
    rw [← Option.some.inj (hname.symm.trans ht)]
    exact hentry
  · rw [hreports] at hr
    obtain ⟨hsame, hlast⟩ := entry_of_last_le (h.past r hr) hlast
    rw [hsame]
    exact h.present r hr hlast
  · rw [honly t ht, hself]

/-- What is published is the only thing that was to be published, and its change is later than
every change that was reported. -/
theorem Ordered.tell (hcrates : crates.Faithful) (h : c.Ordered crates managed id) {name : String}
    (hname : (c.system.thread a.1).report id = some name)
    (hnone : ((c.step crates managed id a).system.thread a.1).report id = none)
    (hreports : (c.step crates managed id a).reports =
      c.reports ++ [⟨name, (c.changed a.1).1, (c.changed a.1).2⟩]) :
    (c.step crates managed id a).Ordered crates managed id := by
  obtain ⟨hentry, htime, hlater⟩ := h.owed a.1 name hname
  have hnot : ∀ t, ¬ (((c.step crates managed id a).system.thread t).report id).isSome = true := by
    intro t ht
    by_cases hta : t = a.1
    · rw [hta, hnone] at ht
      cases ht
    · rw [report_of_ne hta] at ht
      exact hta (h.alone t a.1 ht (Option.isSome_of_eq_some hname))
  have hmem : ∀ r ∈ (c.step crates managed id a).reports,
      r ∈ c.reports ∨ r = ⟨name, (c.changed a.1).1, (c.changed a.1).2⟩ := by
    intro r hr
    rw [hreports] at hr
    exact (List.mem_append.mp hr).imp (fun hr ↦ hr) List.mem_singleton.mp
  refine ⟨h.faithful.next hcrates, fun r hr ↦ ?_, fun r hr ↦ ?_, ?_,
    fun t name ht ↦ absurd (Option.isSome_of_eq_some ht) (hnot t),
    fun t u ht _ ↦ absurd ht (hnot t), fun r hr hlast ↦ ?_, fun t ht _ ↦ absurd ht (hnot t)⟩
  · rcases hmem r hr with hr | rfl
    · exact h.named r hr
    · exact hentry
  · rcases hmem r hr with hr | rfl
    · exact (h.past r hr).trans (Nat.le_succ _)
    · exact htime.trans (Nat.le_succ _)
  · rw [hreports, List.pairwise_append]
    refine ⟨h.sorted, List.pairwise_singleton .., fun r hr r' hr' ↦ ?_⟩
    rw [List.mem_singleton.mp hr']
    exact hlater r hr
  · rcases hmem r hr with hr | rfl
    · obtain ⟨hsame, hlast⟩ := entry_of_last_le (h.past r hr) hlast
      rw [hsame]
      exact h.present r hr hlast
    · obtain ⟨hsame, hlast⟩ := entry_of_last_le htime hlast
      rw [hsame]
      exact h.toCome a.1 (Option.isSome_of_eq_some hname) hlast

/-- **The order is kept** by every section that does not race. -/
theorem Ordered.next (hcrates : crates.Faithful) (h : c.Ordered crates managed id)
    (hrace : ¬ Races crates managed id c.system a) :
    (c.step crates managed id a).Ordered crates managed id := by
  rcases step_cases hcrates h.faithful.tidy with ⟨hsame, hchanged, hreports⟩ |
    ⟨hnone, -, hchanged, hreports⟩ | ⟨hreportable, hentry, hchanged, hreports⟩ |
    ⟨name, hname, hnone, -, hreports⟩
  · exact h.quiet hcrates (fun name ht ↦ hsame.symm.trans ht) hchanged hreports
  · exact h.quiet hcrates (fun name ht ↦ nomatch hnone.symm.trans ht) hchanged hreports
  · refine h.owe hcrates (fun t ht ↦ ?_) hentry hchanged hreports
    by_contra hsome
    exact hrace ⟨hreportable, t, ht, Option.ne_none_iff_isSome.mp hsome⟩
  · exact h.tell hcrates hname hnone hreports

/-! ## The last report -/

/-- A thread that changes the entry and then has an event about the rule to publish did not have
that event to publish before. -/
theorem reportable_of_change (hcrates : crates.Faithful) {w : System}
    (hchange : ((System.step crates managed w a).shared.state.view id).entry ≠
      (w.shared.state.view id).entry)
    (hsome : (((System.step crates managed w a).thread a.1).report id).isSome = true) :
    Reportable crates managed id w a := by
  refine ⟨hsome, ?_⟩
  have hstep := exec_ruleStep hcrates managed a.2 w.shared id (w.thread a.1)
  rw [World.step_thread_self] at hsome ⊢
  rw [World.step_shared] at hchange
  generalize (exec crates managed a.2 w.shared (w.thread a.1)).1.state.view id = v
    at hstep hchange
  generalize (exec crates managed a.2 w.shared (w.thread a.1)).2 = p' at hstep hsome ⊢
  generalize w.thread a.1 = p at hstep ⊢
  have hnew : p.report id = none → p'.report id ≠ p.report id := by
    intro hnone hsame
    rw [hsame, hnone] at hsome
    cases hsome
  cases hstep with
  | keep | configure | release | commit | unreserve => exact absurd rfl hchange
  | refuse | launch | fail | finish | stop | reserve | scan => exact hnew rfl
  | stopFailed hid =>
    simp only [Pc.report, if_pos hid]
    decide

/-- The last change of the entry is reported, or a thread announces it. -/
def Told (id : Uuid) (c : Chronicle) : Prop :=
  c.last = 0 ∨ (∃ r ∈ c.reports, c.last ≤ r.time) ∨
    ∃ t, Announces id c.system.shared (c.system.thread t) ∧
      (((c.system.thread t).report id).isSome = true → c.last ≤ (c.changed t).1)

theorem last_of_same
    (hsame : ((c.step crates managed id a).system.shared.state.view id).entry =
      (c.system.shared.state.view id).entry) : (c.step crates managed id a).last = c.last :=
  if_pos hsame

theorem changed_of_reportable (h : Reportable crates managed id c.system a) :
    ((c.step crates managed id a).changed a.1).1 = c.time + 1 := by
  simp only [step, if_pos h, Function.update_self]

theorem Told.report_step (hcrates : crates.Faithful) (hfaithful : c.Faithful crates managed id)
    (hloud : Loud crates id c.system a)
    (hsame : ((c.step crates managed id a).system.shared.state.view id).entry =
      (c.system.shared.state.view id).entry) {t : ℕ}
    (hreport : ((c.system.thread t).report id).isSome = true) (hlast : c.last ≤ (c.changed t).1) :
    (c.step crates managed id a).Told id := by
  have hlater : c.last ≤ c.time + 1 := hfaithful.last.trans (Nat.le_succ _)
  by_cases ht : t = a.1
  · -- its own section keeps the event, drops it, has another one to publish, or publishes it
    subst ht
    rcases step_cases hcrates hfaithful.tidy with ⟨hkeep, hchanged, -⟩ | ⟨-, hsilent, -⟩ |
      ⟨hreportable, -⟩ | ⟨name, -, -, -, hreports⟩
    · refine Or.inr (Or.inr ⟨a.1, Or.inl (by rwa [hkeep]), fun _ ↦ ?_⟩)
      rwa [last_of_same hsame, hchanged]
    · exact absurd hsilent hloud
    · refine Or.inr (Or.inr ⟨a.1, Or.inl hreportable.1, fun _ ↦ ?_⟩)
      rwa [last_of_same hsame, changed_of_reportable hreportable]
    · refine Or.inr (Or.inl ⟨⟨name, (c.changed a.1).1, (c.changed a.1).2⟩, ?_, ?_⟩)
      · rw [hreports]
        exact List.mem_append_right _ (List.mem_singleton_self _)
      · rwa [last_of_same hsame]
  · have hchanged : (c.step crates managed id a).changed t = c.changed t := by
      simp only [step]
      split
      · exact Function.update_of_ne ht ..
      · rfl
    refine Or.inr (Or.inr ⟨t, Or.inl (by rwa [report_of_ne ht]), fun _ ↦ ?_⟩)
    rwa [last_of_same hsame, hchanged]

theorem Told.next (hcrates : crates.Faithful) (h : c.Told id)
    (hfaithful : c.Faithful crates managed id) (hwanting : Wanting c.system)
    (hloud : Loud crates id c.system a) (hforgets : ¬ Forgets crates managed id c.system a) :
    (c.step crates managed id a).Told id := by
  by_cases hsame : ((c.step crates managed id a).system.shared.state.view id).entry =
    (c.system.shared.state.view id).entry
  · have hreported : ∀ r ∈ c.reports, r ∈ (c.step crates managed id a).reports :=
      fun r hr ↦ List.mem_append_left _ hr
    rcases h with hzero | ⟨r, hr, hlast⟩ | ⟨t, hannounces, hlast⟩
    · exact Or.inl ((last_of_same hsame).trans hzero)
    · exact Or.inr (Or.inl ⟨r, hreported r hr, (last_of_same hsame).le.trans hlast⟩)
    · by_cases hreport : ((c.system.thread t).report id).isSome = true
      · exact Told.report_step hcrates hfaithful hloud hsame hreport (hlast hreport)
      · -- the thread is under way: what it comes to have to publish it has just changed
        rcases (hannounces.resolve_left hreport).step hcrates hloud hsame with
          hnext | ⟨hretries, hentry, hrule, hnone, -⟩
        · refine Or.inr (Or.inr ⟨t, hnext, fun hsome ↦ ?_⟩)
          have ht : t = a.1 := by
            by_contra ht
            rw [report_of_ne ht] at hsome
            exact hreport hsome
          subst ht
          rw [last_of_same hsame, changed_of_reportable ⟨hsome, fun heq ↦ hreport (heq ▸ hsome)⟩]
          exact hfaithful.last.trans (Nat.le_succ _)
        · exact absurd ⟨⟨t, hretries⟩, hentry, hrule, hnone⟩ hforgets
  · have hlast : (c.step crates managed id a).last = c.time + 1 := if_neg hsame
    refine Or.inr (Or.inr ⟨a.1, ?_, fun hsome ↦ ?_⟩)
    · exact (announces_of_change hcrates hwanting hloud hsame).imp (fun h ↦ h) And.left
    · rw [hlast, changed_of_reportable (reportable_of_change hcrates hsame hsome)]

theorem Told.final (h : c.Told id) (hordered : c.Ordered crates managed id)
    (hdone : ∀ t, (c.system.thread t).DoneWith id) :
    match c.reports.getLast? with
    | none => (c.system.shared.state.view id).entry = none
    | some r => r.entry = (c.system.shared.state.view id).entry := by
  have hreported : c.last = 0 ∨ ∃ r ∈ c.reports, c.last ≤ r.time := by
    rcases h with hzero | hreport | ⟨t, hannounces, -⟩
    · exact Or.inl hzero
    · exact Or.inr hreport
    · exact absurd hannounces (hdone t).not_announces
  rcases List.eq_nil_or_concat c.reports with hnil | ⟨rs, r, hreports⟩
  · rw [hnil] at hreported ⊢
    rcases hreported with hzero | ⟨r, hr, -⟩
    · exact hordered.faithful.first hzero
    · exact absurd hr List.not_mem_nil
  · rw [List.concat_eq_append] at hreports
    have hlast : c.last ≤ r.time := by
      rcases hreported with hzero | ⟨r', hr', hlast⟩
      · rw [hzero]
        exact Nat.zero_le _
      · -- the reports are sorted, so the last one is no earlier than the one of the last change
        rw [hreports] at hr'
        rcases List.mem_append.mp hr' with hr' | hr'
        · have hsorted := hordered.sorted
          rw [hreports, List.pairwise_append] at hsorted
          exact hlast.trans (hsorted.2.2 r' hr' r (List.mem_singleton_self r)).le
        · exact List.mem_singleton.mp hr' ▸ hlast
    rw [hreports, List.getLast?_concat]
    exact hordered.present r (hreports ▸ List.mem_append_right _ (List.mem_singleton_self r)) hlast

end Step

end Chronicle

/-- **Events follow the changes that they report**, if no section changes the rule while another
thread has an event about it to publish. If besides no change is silent and the rule is not removed
while its reconnect is taken out, then once every thread is done with the rule its last event
describes it. -/
theorem reports_ordered_of_not_races (hcrates : crates.Faithful) {faults : OpenFaults}
    {directory : Directory} {s : State} (hopen : openState crates faults directory = .ok s)
    {as : List Choice}
    (has : Along (System.step crates managed) (fun w a ↦ ¬ Races crates managed id w a)
      (System.opened s) as) {c : Chronicle}
    (hc : run (Chronicle.step crates managed id) (.opened s) as = c) :
    c.system = run (System.step crates managed) (System.opened s) as ∧
      c.reports.map Report.name = reportsIn crates id c.system.shared.events ∧
      (∀ r ∈ c.reports, lifecycleName managed r.entry = some r.name) ∧
      c.reports.Pairwise (fun r r' ↦ r.time < r'.time) ∧
      (Along (System.step crates managed)
          (fun w a ↦ FreshId w a ∧ Loud crates id w a ∧ ¬ Forgets crates managed id w a)
          (System.opened s) as →
        (∀ t, (c.system.thread t).DoneWith id) →
        match c.reports.getLast? with
        | none => (c.system.shared.state.view id).entry = none
        | some r => r.entry = (c.system.shared.state.view id).entry) := by
  have hidle := idle_of_open hopen
  have hsystem : c.system = run (System.step crates managed) (System.opened s) as := by
    rw [← hc]
    exact Chronicle.run_system crates managed id (.opened s) as
  have hordered : c.Ordered crates managed id := by
    rw [← hc]
    exact invariant_along (Chronicle.step crates managed id)
      (fun _ _ h ha ↦ h.next hcrates ha) (.opened hidle) (Chronicle.along_system as has)
  refine ⟨hsystem, hordered.faithful.names, hordered.named, hordered.sorted, fun hloud hdone ↦ ?_⟩
  have htold : c.Told id := by
    rw [← hc]
    refine (invariant_along (Chronicle.step crates managed id)
      (I := fun c ↦ c.Faithful crates managed id ∧ Wanting c.system ∧ c.Told id)
      (fun c a h ha ↦ ?_) ⟨(Chronicle.Ordered.opened hidle).faithful, .opened hidle, Or.inl rfl⟩
      (Chronicle.along_system as hloud)).2.2
    obtain ⟨hfaithful, hwanting, htold⟩ := h
    exact ⟨hfaithful.next hcrates, hwanting.next hcrates ha.1,
      htold.next hcrates hfaithful hwanting ha.2.1 ha.2.2⟩
  exact htold.final hordered hdone

/-! ### Examples -/

/-- The section changes the rule while another one of the first `n` threads has an event about it to
publish. -/
def RacesAmong (crates : Crates) (managed : Bool) (id : Uuid) (n : ℕ) (w : System) (a : Choice) :
    Prop :=
  Reportable crates managed id w a ∧ ∃ t < n, t ≠ a.1 ∧ ((w.thread t).report id).isSome = true

instance (n : ℕ) (w : System) (a : Choice) : Decidable (RacesAmong crates managed id n w a) :=
  inferInstanceAs (Decidable (_ ∧ _))

theorem not_races_of_among {n : ℕ} {w : System} {a : Choice}
    (hw : ∀ u, n ≤ u → w.thread u = .idle) (h : ¬ RacesAmong crates managed id n w a) :
    ¬ Races crates managed id w a := by
  rintro ⟨hreportable, t, ht, hreport⟩
  rcases Nat.lt_or_ge t n with hlt | hge
  · exact h ⟨hreportable, t, hlt, ht, hreport⟩
  · rw [hw t hge] at hreport
    cases hreport

/-- One client starts the example rule and another one stops it again: the events are in this
order. -/
theorem reports_ordered_of_not_races_exampleServed :
    (run (Chronicle.step exampleCrates true exampleRule.id) (.opened exampleOpened.shared.state)
      (exampleServed ++ ([(1, {})] : List Choice))).reports.Pairwise
        fun r r' ↦ r.time < r'.time := by
  have hamong : Along (System.step exampleCrates true)
      (fun w a ↦ ¬ RacesAmong exampleCrates true exampleRule.id 2 w a) exampleOpened
      (exampleServed ++ ([(1, {})] : List Choice)) := by decide +kernel
  exact (reports_ordered_of_not_races exampleCrates_faithful exampleOpened_open
    (World.along_of_first _ (fun _ _ hw h ↦ not_races_of_among hw h) (fun _ _ ↦ rfl) (by decide)
      hamong) rfl).2.2.2.1

/-- The start of the example rule has stored its attempt. Before it publishes its event, a second
client stops the rule. -/
def exampleDelayed : List Choice :=
  exampleStarted ++ ([(0, {}),
    (1, { call := some (.request ⟨.forwardStop, selectName "database"⟩) }),
    (1, {}), (1, {}), (1, {}), (0, {})] : List Choice)

/-- The event of the start has a larger number than the one of the stop that removed its attempt,
and the last event of the stopped rule says that it was started. -/
theorem exampleDelayed_misordered :
    Along (System.step exampleCrates true) FreshId exampleOpened exampleDelayed ∧
      reportsIn exampleCrates exampleRule.id
          (run (System.step exampleCrates true) exampleOpened exampleDelayed).shared.events =
        ["rule_stopped", "rule_started"] ∧
      ¬ (run (Chronicle.step exampleCrates true exampleRule.id)
          (.opened exampleOpened.shared.state) exampleDelayed).reports.Pairwise
        (fun r r' ↦ r.time < r'.time) ∧
      ((run (System.step exampleCrates true) exampleOpened
        exampleDelayed).shared.state.view exampleRule.id).entry = none := by
  refine ⟨by decide +kernel, by decide +kernel, by decide +kernel, by decide +kernel⟩

end TunnelDeck
