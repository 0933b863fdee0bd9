import TunnelDeck.Daemon.Configuration
import TunnelDeck.Daemon.Ownership
import TunnelDeck.Daemon.Stops

/-!
# Edits are isolated

An edit of an active rule takes several sections: it reserves the rule, cleans up the attempt, saves
the replacement, restarts the rule and gives it back. In between other clients may do anything else.
Every section that could get in the way checks the reservation, and a launch that was under way
before has lost its marker, so the rule is left alone. The edit in turn saves the configuration as
it is at that moment with its own rule replaced, so it does not undo what others have changed.

What the others do to the configuration is a list of changes. A change that avoids a rule commutes
with the replacement of that rule, hence the order in which the edit and the others save does not
matter.

## Main results

* `edit_isolated`: while a rule is reserved nobody else changes, starts, stops or removes it; in the
  end the configuration is what the others made of it, with the one rule old or replaced; and the
  reservation is gone when the edit returns.
-/

namespace TunnelDeck

open Concurrency

variable {crates : Crates} {managed : Bool} {env : Env} {d : Daemon}

/-! ## Changes as operations -/

/-- A change of the configuration, as an operation on it. -/
inductive Change where
  /-- A rule takes the place of the one under its id. -/
  | put (rule : Rule)
  | append (rules : List Rule)
  | remove (id : Uuid)
  | configure (settings : Settings)

def Change.apply : Change → PersistedConfig → PersistedConfig
  | .put rule, config => { config with rules := replaceRule rule.id rule config.rules }
  | .append rules, config => { config with rules := config.rules ++ rules }
  | .remove id, config => { config with rules := config.rules.filter fun rule ↦ rule.id ≠ id }
  | .configure settings, config => { config with settings }

/-- The change has nothing to do with the rule under an id. -/
def Change.Avoids (id : Uuid) : Change → Prop
  | .put rule => rule.id ≠ id
  | .append rules => id ∉ rules.map Rule.id
  | .remove j => j ≠ id
  | .configure _ => True

theorem Change.Avoids.findRule_apply {id : Uuid} {c : Change} (h : c.Avoids id)
    (config : PersistedConfig) : findRule (c.apply config).rules id = findRule config.rules id := by
  cases c with
  | put rule => exact findRule_replaceRule_of_ne rfl (Ne.symm h) _
  | append rules =>
    rw [Change.apply, findRule_append, findRule_eq_none_iff.mpr h, Option.or_none]
  | remove j => exact findRule_filter_of_ne (Ne.symm h) _
  | configure settings => rfl

theorem Change.Avoids.apply_put {c : Change} {rule : Rule} (h : c.Avoids rule.id)
    {config : PersistedConfig} (hrule : (findRule config.rules rule.id).isSome = true) :
    c.apply ((Change.put rule).apply config) = (Change.put rule).apply (c.apply config) := by
  cases c with
  | put other =>
    exact congrArg (fun rules ↦ { config with rules }) (replaceRule_comm rfl rfl h config.rules)
  | append rules =>
    exact congrArg (fun rules ↦ { config with rules }) (replaceRule_append rule rules hrule).symm
  | remove j =>
    exact congrArg (fun rules ↦ { config with rules }) (replaceRule_filter rfl h config.rules)
  | configure settings => rfl

theorem Change.put_put {rule next : Rule} (h : next.id = rule.id) (config : PersistedConfig) :
    (Change.put next).apply ((Change.put rule).apply config) = (Change.put next).apply config := by
  simp only [Change.apply, h, replaceRule_replaceRule rfl]

/-- What is in memory of the configuration. -/
def State.persisted (s : State) : PersistedConfig := ⟨s.rules, s.settings⟩

theorem ConfigChange.exists_change {s : State} {rules : List Rule} {settings : Settings}
    (h : ConfigChange s rules settings) :
    ∃ c : Change, ⟨rules, settings⟩ = c.apply s.persisted ∧
      ∀ id ∈ s.editing, (findRule s.rules id).isSome = true → c.Avoids id := by
  cases h with
  | @replace rule hrule hediting hentry =>
    refine ⟨.put rule, rfl, ?_⟩
    rintro id hid - rfl
    exact hediting hid
  | @add rule hrule hediting =>
    refine ⟨.append [rule], rfl, fun id hid hsome hmem ↦ ?_⟩
    obtain rfl : id = rule.id := by simpa using hmem
    exact hediting hid
  | @importRules imported hnodup hnew =>
    refine ⟨.append imported, rfl, fun id hid hsome hmem ↦ ?_⟩
    rw [hnew id hmem] at hsome
    cases hsome
  | @remove removed hrule hediting hentry =>
    refine ⟨.remove removed, rfl, ?_⟩
    rintro id hid - rfl
    exact hediting hid
  | settings settings => exact ⟨.configure settings, rfl, fun id hid hsome ↦ trivial⟩

/-! ## The sections of an edit -/

/-- The edit of a call that has reserved its rule and has not given it back. -/
def Pc.edits : Pc → Option Edit
  | .edit _ e _ | .start (.edit _ e _) _ => some e
  | _ => none

theorem reserved_of_edits {p : Pc} {edit : Edit} (h : p.edits = some edit) :
    p.reserved = some edit.id := by
  unfold Pc.edits at h
  split at h <;> cases h <;> rfl

/-- A call that has reserved its rule goes on with the edit or gives the rule back. -/
theorem edits_exec (crates : Crates) (managed : Bool) (env : Env) (d : Daemon) {p : Pc}
    {edit : Edit} (h : p.edits = some edit) :
    (exec crates managed env d p).2.edits = some edit ∨
      ∃ request reply, p = .edit request edit (.finish reply) ∧
        (exec crates managed env d p).2 = .returned request reply := by
  unfold Pc.edits at h
  split at h
  · rename_i r e pc
    cases h
    cases pc with
    | save =>
      refine Or.inl ?_
      simp only [exec, execEdit]
      split <;> rfl
    | finish reply => exact Or.inr ⟨r, reply, rfl, rfl⟩
    | cleanup | stopFailed | publishFailed | publishStopped => exact Or.inl rfl
  · rename_i r e saved pc
    cases h
    refine Or.inl ?_
    rcases execStart_next crates managed env d (.edit r edit saved) pc with
      ⟨reply, hnext⟩ | ⟨pc', hnext, -⟩
    · rw [exec, hnext]
      rfl
    · rw [exec, hnext]
      rfl
  · cases h

theorem persisted_edits (hcrates : crates.Faithful) (managed : Bool) (env : Env) {p : Pc}
    {edit : Edit} (h : p.edits = some edit) :
    (exec crates managed env d p).1.state.persisted = d.state.persisted ∨
      (exec crates managed env d p).1.state.persisted =
        (Change.put edit.replacement).apply d.state.persisted := by
  rcases exec_config hcrates managed env d p with hconfig | ⟨request, reply, events, rfl, -⟩ |
    ⟨request, edit', outcome, rfl, hsaved⟩
  · exact Or.inl (congrArg Prod.snd hconfig)
  · cases h
  · cases h
    generalize (exec crates managed env d (.edit request edit .save)).1.state = s' at hsaved
    cases hsaved with
    | missing | unsaved => exact Or.inl rfl
    | committed =>
      rw [State.persisted, Change.apply, edit.sameId]
      exact Or.inr rfl

theorem persisted_other (hcrates : crates.Faithful) (managed : Bool) (env : Env) {p : Pc}
    {id : Uuid} (hediting : id ∈ d.state.editing)
    (hrule : (findRule d.state.rules id).isSome = true) (hp : p.reserved ≠ some id) :
    (exec crates managed env d p).1.state.persisted = d.state.persisted ∨
      ∃ c : Change, c.Avoids id ∧
        (exec crates managed env d p).1.state.persisted = c.apply d.state.persisted := by
  rcases exec_config hcrates managed env d p with hconfig | ⟨request, reply, events, rfl, hdone⟩ |
    ⟨request, edit, outcome, rfl, hsaved⟩
  · exact Or.inl (congrArg Prod.snd hconfig)
  · generalize (exec crates managed env d (.dispatch request)).1.state = s' at hdone
    cases hdone with
    | kept | unsaved => exact Or.inl rfl
    | committed _ event hchange =>
      obtain ⟨c, hc, havoids⟩ := hchange.exists_change
      exact Or.inr ⟨c, havoids id hediting hrule, hc⟩
  · have hne : edit.replacement.id ≠ id := by
      intro h
      exact hp (congrArg some (edit.sameId.symm.trans h))
    generalize (exec crates managed env d (.edit request edit .save)).1.state = s' at hsaved
    cases hsaved with
    | missing | unsaved => exact Or.inl rfl
    | committed =>
      refine Or.inr ⟨.put edit.replacement, hne, ?_⟩
      rw [State.persisted, Change.apply, edit.sameId]
      rfl

/-- A section that changes what a rule reserved by another thread looks like is one of `maintain`,
provided that no other launch of the rule has its marker. -/
theorem RuleStep.reserved_view (hcrates : crates.Faithful) {id : Uuid} {p p' : Pc} {v : RuleView}
    (h : RuleStep crates env d id p p' v) (hediting : (d.state.view id).editing)
    (hrule : (d.state.view id).rule.isSome = true) (hp : p.reserved ≠ some id)
    (hstale : ∀ l, p.launching = some l → l.id = id → ¬ l.current d.state) :
    v = d.state.view id ∨ ∃ poller, p = .maintain poller .scan ∧
      v = (d.state.view id).scan env.exited env.now := by
  rcases h.by_other hcrates hediting hrule hp with
    hkept | ⟨launch, hlaunch, hid, hcurrent, -⟩ | hscan
  · exact Or.inl hkept
  · exact absurd hcurrent (hstale launch hlaunch hid)
  · exact Or.inr hscan

theorem launching_reserved (hcrates : crates.Faithful) {p : Pc} {launch : Launch}
    (h : (exec crates managed env d p).2.launching = some launch)
    (hediting : (d.state.view launch.id).editing) (hp : p.reserved ≠ some launch.id) :
    p.launching = some launch := by
  have hstep := exec_ruleStep hcrates managed env d launch.id p
  generalize (exec crates managed env d p).2 = p' at h hstep
  generalize (exec crates managed env d p).1.state.view launch.id = v at hstep
  cases hstep with
  | keep hlaunch => exact hlaunch launch h rfl
  | launch hadmitted => exact absurd (hadmitted.reserved hcrates hediting) hp
  | fail hid hcurrent hlaunch => cases hlaunch.symm.trans h
  | release | refuse | stop => simp at h
  | configure | finish | reserve | stopFailed | commit | unreserve | scan => cases h

/-! ## While a rule is reserved -/

/-- The thread `t` is between the sections that reserve its rule and give it back. Launches of the
rule that others are in the middle of have lost their markers. -/
structure Editing (t : ℕ) (edit : Edit) (w : System) : Prop where
  sound : Sound w
  edits : (w.thread t).edits = some edit
  stale : ∀ u, u ≠ t → ∀ launch, (w.thread u).launching = some launch → launch.id = edit.id →
    launch.Stale w.shared

/-- The thread `t` has given the rule back in its last section. -/
structure Edited (t : ℕ) (edit : Edit) (w : System) : Prop where
  returned : ∃ request reply, w.thread t = .returned request reply
  unreserved : edit.id ∉ w.shared.state.editing

/-- Nobody but the thread `t` touches the rule in the next section: it stays as it is, unless
`maintain` records that its attempt has ended, and no launch of it begins. -/
structure Untouched (crates : Crates) (managed : Bool) (id : Uuid) (w : System) (b : Choice) :
    Prop where
  view : (System.step crates managed w b).shared.state.view id = w.shared.state.view id ∨
    ∃ poller, w.thread b.1 = .maintain poller .scan ∧
      (System.step crates managed w b).shared.state.view id =
        (w.shared.state.view id).scan b.2.exited b.2.now
  launch : ∀ launch, ((System.step crates managed w b).thread b.1).launching = some launch →
    launch.id = id → (w.thread b.1).launching = some launch

namespace Editing

variable {t : ℕ} {edit : Edit} {w : System}

theorem reserved (h : Editing t edit w) : (w.thread t).reserved = some edit.id :=
  reserved_of_edits h.edits

theorem editing (h : Editing t edit w) : (w.shared.state.view edit.id).editing :=
  (h.sound.reservations.consistent.thread t).editing edit.id h.reserved

theorem rule (h : Editing t edit w) :
    (w.shared.state.view edit.id).rule.isSome = true :=
  (h.sound.reservations.consistent.thread t).rule edit.id h.reserved

theorem reserved_other (h : Editing t edit w) {u : ℕ} (hu : u ≠ t) :
    (w.thread u).reserved ≠ some edit.id := fun hreserved ↦
  h.sound.reservations.consistent.pair t u hu.symm edit.id h.reserved hreserved

theorem untouched (hcrates : crates.Faithful) (h : Editing t edit w) {b : Choice}
    (hb : b.1 ≠ t) : Untouched crates managed edit.id w b := by
  refine ⟨?_, fun launch hlaunch hid ↦ ?_⟩
  · have hstep := exec_ruleStep hcrates managed b.2 w.shared edit.id (w.thread b.1)
    exact hstep.reserved_view hcrates h.editing h.rule (h.reserved_other hb)
      fun l hl hid ↦ (h.stale b.1 hb l hl hid).gone
  · rw [World.step_thread_self] at hlaunch
    exact launching_reserved hcrates hlaunch (hid ▸ h.editing) (hid ▸ h.reserved_other hb)

theorem next (hcrates : crates.Faithful) (h : Editing t edit w) {b : Choice}
    (hb : FreshId w b) : Editing t edit (System.step crates managed w b) ∨
      Edited t edit (System.step crates managed w b) := by
  have hsound : Sound (System.step crates managed w b) := h.sound.next hcrates hb
  have hstale : ∀ launch : Launch, launch.Stale w.shared →
      launch.Stale (System.step crates managed w b).shared := fun launch hl ↦ hl.next hcrates hb
  by_cases ht : b.1 = t
  · have hkept : ∀ u, u ≠ t → (System.step crates managed w b).thread u = w.thread u :=
      fun u hu ↦ World.step_thread_of_ne _ w (fun h ↦ hu (h.trans ht))
    have hself : (System.step crates managed w b).thread t =
        (exec crates managed b.2 w.shared (w.thread t)).2 := by
      rw [← ht, World.step_thread_self]
    rcases edits_exec crates managed b.2 w.shared h.edits with
      hnext | ⟨request, reply, hfinish, hreturned⟩
    · refine Or.inl ⟨hsound, (congrArg Pc.edits hself).trans hnext, ?_⟩
      intro u hu launch hlaunch hid
      rw [hkept u hu] at hlaunch
      exact hstale launch (h.stale u hu launch hlaunch hid)
    · refine Or.inr ⟨⟨request, reply, hself.trans hreturned⟩, ?_⟩
      rw [World.step_shared, ht, hfinish]
      exact Finset.notMem_erase _ _
  · refine Or.inl ⟨hsound, ?_, fun u hu launch hlaunch hid ↦ hstale launch ?_⟩
    · rw [World.step_thread_of_ne _ w (Ne.symm ht)]
      exact h.edits
    · by_cases hub : u = b.1
      · subst hub
        exact h.stale b.1 hu launch ((h.untouched hcrates hu).launch launch hlaunch hid) hid
      · rw [World.step_thread_of_ne _ w hub] at hlaunch
        exact h.stale u hu launch hlaunch hid

end Editing

/-! ## The configuration that the others produce -/

/-- The changes that the threads other than `t` make to the configuration in a run, in order. -/
inductive ChangedByOthers (crates : Crates) (managed : Bool) (t : ℕ) :
    System → List Choice → List Change → Prop
  | nil {w : System} : ChangedByOthers crates managed t w [] []
  /-- The section is one of `t` itself. -/
  | own {w : System} {b : Choice} {bs : List Choice} {cs : List Change} (ht : b.1 = t)
      (h : ChangedByOthers crates managed t (System.step crates managed w b) bs cs) :
    ChangedByOthers crates managed t w (b :: bs) cs
  /-- The section leaves the configuration alone. -/
  | kept {w : System} {b : Choice} {bs : List Choice} {cs : List Change} (ht : b.1 ≠ t)
      (hkept : (System.step crates managed w b).shared.state.persisted = w.shared.state.persisted)
      (h : ChangedByOthers crates managed t (System.step crates managed w b) bs cs) :
    ChangedByOthers crates managed t w (b :: bs) cs
  /-- The section changes the configuration. -/
  | changed {w : System} {b : Choice} {bs : List Choice} {c : Change} {cs : List Change}
      (ht : b.1 ≠ t) (hc : (System.step crates managed w b).shared.state.persisted =
        c.apply w.shared.state.persisted)
      (h : ChangedByOthers crates managed t (System.step crates managed w b) bs cs) :
    ChangedByOthers crates managed t w (b :: bs) (c :: cs)

/-- What the changes make of a configuration. -/
def produced (config : PersistedConfig) (cs : List Change) : PersistedConfig :=
  cs.foldl (fun config c ↦ c.apply config) config

/-- The configuration is `config` but for the rule of the edit, which is the old one or its
replacement. -/
structure Edit.Replaces (edit : Edit) (config : PersistedConfig) (s : State) : Prop where
  expected : findRule config.rules edit.id = some edit.expected
  persisted : s.persisted = (Change.put edit.expected).apply config ∨
    s.persisted = (Change.put edit.replacement).apply config

namespace Edit.Replaces

variable {edit : Edit} {config : PersistedConfig} {s s' : State}

theorem own (h : edit.Replaces config s)
    (hs : s'.persisted = (Change.put edit.replacement).apply s.persisted) :
    edit.Replaces config s' := by
  refine ⟨h.expected, Or.inr ?_⟩
  rcases h.persisted with hold | hnew
  · rw [hs, hold, Change.put_put edit.sameId]
  · rw [hs, hnew, Change.put_put rfl]

theorem other (h : edit.Replaces config s) {c : Change} (hc : c.Avoids edit.id)
    (hs : s'.persisted = c.apply s.persisted) : edit.Replaces (c.apply config) s' := by
  have hsome : (findRule config.rules edit.id).isSome = true := by
    rw [h.expected]
    rfl
  refine ⟨(hc.findRule_apply config).trans h.expected, h.persisted.imp ?_ ?_⟩
  · intro hold
    rw [hs, hold]
    exact Change.Avoids.apply_put hc hsome
  · intro hnew
    rw [hs, hnew]
    exact Change.Avoids.apply_put (edit.sameId.symm ▸ hc) (edit.sameId.symm ▸ hsome)

theorem refl (h : findRule s.rules edit.id = some edit.expected) :
    edit.Replaces s.persisted s := by
  refine ⟨h, Or.inl ?_⟩
  have hsame : replaceRule edit.expected.id edit.expected s.rules = s.rules := replaceRule_self h
  simp only [State.persisted, Change.apply, hsame]

end Edit.Replaces

theorem Editing.run (hcrates : crates.Faithful) {t : ℕ} {edit : Edit} {w : System}
    (h : Editing t edit w) {config : PersistedConfig}
    (hconfig : edit.Replaces config w.shared.state) {bs : List Choice}
    (hbs : Along (System.step crates managed)
      (fun w b ↦ FreshId w b ∧ (w.thread t).edits = some edit) w bs) :
    (Editing t edit (Concurrency.run (System.step crates managed) w bs) ∨
      Edited t edit (Concurrency.run (System.step crates managed) w bs)) ∧
    ∃ cs, ChangedByOthers crates managed t w bs cs ∧
      edit.Replaces (produced config cs)
        (Concurrency.run (System.step crates managed) w bs).shared.state := by
  induction bs generalizing w config with
  | nil => exact ⟨Or.inl h, [], .nil, hconfig⟩
  | cons b bs ih =>
    obtain ⟨⟨hfresh, -⟩, hrest⟩ := hbs
    rw [run_cons]
    -- the rest of the run, from the configuration that this section leaves
    have hgo : ∀ config', edit.Replaces config' (System.step crates managed w b).shared.state →
        (Editing t edit (Concurrency.run (System.step crates managed)
            (System.step crates managed w b) bs) ∨
          Edited t edit (Concurrency.run (System.step crates managed)
            (System.step crates managed w b) bs)) ∧
        ∃ cs, ChangedByOthers crates managed t (System.step crates managed w b) bs cs ∧
          edit.Replaces (produced config' cs) (Concurrency.run (System.step crates managed)
            (System.step crates managed w b) bs).shared.state := by
      intro config' hconfig'
      rcases h.next hcrates hfresh with hediting | hedited
      · exact ih hediting hconfig' hrest
      · cases bs with
        | nil => exact ⟨Or.inr hedited, [], .nil, hconfig'⟩
        | cons b' bs =>
          -- the edit has returned, so the run ends here
          obtain ⟨request, reply, hreturned⟩ := hedited.returned
          rw [along_cons, hreturned] at hrest
          cases hrest.1.2
    by_cases ht : b.1 = t
    · have hown := persisted_edits hcrates managed b.2 h.edits (d := w.shared)
      rw [← ht] at hown
      rcases hown with hkept | hput
      · obtain ⟨hend, cs, hcs, hproduced⟩ := hgo config
          ⟨hconfig.expected, by rw [World.step_shared, hkept]; exact hconfig.persisted⟩
        exact ⟨hend, cs, .own ht hcs, hproduced⟩
      · obtain ⟨hend, cs, hcs, hproduced⟩ := hgo config (hconfig.own hput)
        exact ⟨hend, cs, .own ht hcs, hproduced⟩
    · rcases persisted_other hcrates managed b.2 h.editing h.rule
        (h.reserved_other ht) with hkept | ⟨c, havoids, hc⟩
      · obtain ⟨hend, cs, hcs, hproduced⟩ := hgo config
          ⟨hconfig.expected, by rw [World.step_shared, hkept]; exact hconfig.persisted⟩
        exact ⟨hend, cs, .kept ht hkept hcs, hproduced⟩
      · obtain ⟨hend, cs, hcs, hproduced⟩ := hgo (c.apply config) (hconfig.other havoids hc)
        exact ⟨hend, c :: cs, .changed ht hc hcs, hproduced⟩

/-- **An edit is isolated.** Let a thread reserve its rule for an edit, and let a run of any threads
follow until the edit returns.

The rule was the one that the client expected when it was reserved. While it is reserved, no other
thread changes it, starts it, stops it or removes it. The configuration is what the changes of the
other threads make of the one at the reservation, but for the rule, which is the old one or its
replacement. When the edit has returned the rule is no longer reserved, and a rule that is
reserved at all belongs to a thread that is still editing it. -/
theorem edit_isolated (hcrates : crates.Faithful) {faults : OpenFaults} {directory : Directory}
    {s : State} (hopen : openState crates faults directory = .ok s) {as : List Choice}
    (has : Along (System.step crates managed) FreshId (System.opened s) as) {w : System}
    (hw : run (System.step crates managed) (System.opened s) as = w) (a : Choice)
    {request : Request} (hthread : w.thread a.1 = .editEnter request) {edit : Edit}
    (hreserves : ((System.step crates managed w a).thread a.1).pending = some edit)
    (bs : List Choice) (hbs : Along (System.step crates managed)
      (fun w b ↦ FreshId w b ∧ (w.thread a.1).edits = some edit)
      (System.step crates managed w a) bs) {w' : System}
    (hw' : run (System.step crates managed) (System.step crates managed w a) bs = w') :
    findRule w.shared.state.rules edit.id = some edit.expected ∧
    ((w'.thread a.1).edits = some edit → ∀ b, b.1 ≠ a.1 → Untouched crates managed edit.id w' b) ∧
    (∃ cs, ChangedByOthers crates managed a.1 (System.step crates managed w a) bs cs ∧
      edit.Replaces (produced w.shared.state.persisted cs) w'.shared.state) ∧
    ((w'.thread a.1).edits ≠ some edit → Edited a.1 edit w') ∧
    ∀ id ∈ w'.shared.state.editing, ∃ t, (w'.thread t).reserved = some id := by
  have hsound : Sound w := hw ▸ (Sound.opened (idle_of_open hopen)).run hcrates has
  have hfresh : FreshId w a := by
    rw [FreshId, Fresh, hthread]
    intro hdraws
    cases hdraws
  rw [World.step_thread_self] at hreserves
  -- the section is the one that reserves the rule
  rcases exec_pending hreserves with ⟨hpending, -⟩ | ⟨_, attempt, -, hrule, -, -, hstate, hnext⟩
  · rw [hthread] at hpending
    cases hpending
  · have hnone : ((System.step crates managed w a).shared.state.view edit.id).entry = none := by
      rw [World.step_shared, hstate, view_reserved]
      rfl
    -- no other thread has a launch of the rule that could still be wanted
    have hediting : Editing a.1 edit (System.step crates managed w a) := by
      refine ⟨hsound.next hcrates hfresh, ?_, fun u hu launch hlaunch hid ↦ ⟨?_, fun hcurrent ↦ ?_⟩⟩
      · rw [World.step_thread_self, hnext]
        rfl
      · rw [World.step_thread_of_ne _ w hu] at hlaunch
        exact drawn_subset_exec _ ((hsound.markers.thread u).drawn launch hlaunch)
      · rw [Launch.current, hid] at hcurrent
        cases hnone.symm.trans hcurrent
    have hconfig : edit.Replaces w.shared.state.persisted
        (System.step crates managed w a).shared.state := by
      rw [World.step_shared, hstate]
      exact ⟨hrule, (Edit.Replaces.refl hrule).persisted⟩
    obtain ⟨hend, hchanged⟩ := hediting.run hcrates hconfig hbs
    rw [hw'] at hend hchanged
    refine ⟨hrule, fun hedits b hb ↦ ?_, hchanged, fun hedits ↦ ?_, ?_⟩
    · rcases hend with hediting | hedited
      · exact hediting.untouched hcrates hb
      · obtain ⟨request, reply, hreturned⟩ := hedited.returned
        rw [hreturned] at hedits
        cases hedits
    · rcases hend with hediting | hedited
      · exact absurd hediting.edits hedits
      · exact hedited
    · have hall := invariant_run (System.step crates managed) (I := Reservations)
        (fun w b h ↦ h.step hcrates b) hediting.sound.reservations bs
      rw [hw'] at hall
      exact hall.owned

/-! ### An example -/

/-- The edit that turns the example rule into its twin. -/
def exampleEdit : Edit := ⟨exampleRule, exampleTwin, rfl⟩

/-- One client has started the example rule. Another one is about to edit it. -/
def exampleServing : List Choice :=
  exampleStarted ++ ([(0, {}), (0, {}), (1, { call := some (.request ⟨.forwardEditActive,
    .object [("expected", encodeRule exampleCrates (WireRule.ofRule exampleRule)),
      ("replacement", encodeRule exampleCrates (WireRule.ofRule exampleTwin))]⟩) })] : List Choice)

/-- The attempt is cleaned up. A third client tries to stop the rule and is turned away. The edit
saves its replacement, restarts the rule and returns. -/
def exampleEdited : List Choice :=
  [(1, {}), (2, { call := some (.request ⟨.forwardStop, selectName "database"⟩) }), (2, {}),
    (1, {}), (1, {}), (1, { attemptId := 2 }), (1, {}), (1, {}), (1, {}), (1, {}), (1, {})]

theorem edit_isolated_exampleEdited :
    Edited 1 exampleEdit (run (System.step exampleCrates true)
      (System.step exampleCrates true (run (System.step exampleCrates true) exampleOpened
        exampleServing) (1, {})) exampleEdited) :=
  (edit_isolated exampleCrates_faithful exampleOpened_open (by decide +kernel)
    (show run (System.step exampleCrates true) exampleOpened exampleServing = _ from rfl) (1, {})
    rfl (show _ = some exampleEdit by decide +kernel) exampleEdited (by decide +kernel)
    rfl).2.2.2.1 (by decide +kernel)

end TunnelDeck
