import TunnelDeck.Config.Saving
import TunnelDeck.Daemon.Bookkeeping
import TunnelDeck.Daemon.Refusals

/-!
# Diagnostics of rules that are gone

A stop and an edit forget the diagnostics of their rule, and everything else that writes diagnostics
does so for a rule that is listed. A removal only looks at the entries and the reservations: a rule
whose entry is gone while its diagnostics are not, as after a restart that failed for an edit, after
a start that found the port taken or while a reconnect is due, is removed and leaves them behind. A
rule that is added under the same id finds them.

## Main results

* `rule_of_dispatch_none`: only a removal that goes through takes a rule off the list.
* `tidy_iff`: no diagnostics are left behind exactly in the runs in which no rule is removed that
  has diagnostics.
-/

namespace TunnelDeck

open Json (Value)
open Concurrency

variable {crates : Crates}

/-! ## What takes a rule off the list -/

section Dispatch

variable {s : State} {id : Uuid}

theorem rules_commitChange (crates : Crates) (faults : SaveFaults) (rules : List Rule)
    (settings : Settings) (event : Event) (result : Value) (s : State) :
    (commitChange crates faults rules settings event result s).2.2.rules =
      if committed (saveConfig crates faults s.directory rules settings).1 then rules
      else s.rules := by
  rcases hsave : saveConfig crates faults s.directory rules settings with ⟨outcome, directory⟩
  simp only [commitChange, hsave]
  rcases outcome with e | _
  · cases e <;> rfl
  · rfl

theorem findRule_commitChange (faults : SaveFaults) {rules : List Rule} (settings : Settings)
    (event : Event) (result : Value) (hbefore : (findRule s.rules id).isSome = true)
    (hrules : (findRule rules id).isSome = true) :
    (findRule (commitChange crates faults rules settings event result s).2.2.rules id).isSome =
      true := by
  rw [rules_commitChange]
  split
  · exact hrules
  · exact hbefore

theorem findRule_commitRules (faults : SaveFaults) {rules : List Rule} (payload : Value)
    (hbefore : (findRule s.rules id).isSome = true) (hrules : (findRule rules id).isSome = true) :
    (findRule (commitRules crates faults rules payload s).2.2.rules id).isSome = true := by
  rw [commitRules]
  split
  · exact hbefore
  · exact findRule_commitChange faults _ _ _ hbefore hrules

theorem findRule_append_isSome {rules : List Rule} (new : List Rule)
    (h : (findRule rules id).isSome = true) : (findRule (rules ++ new) id).isSome = true := by
  rw [findRule_append, Option.isSome_or, h]
  rfl

theorem findRule_forwardAdd (faults : SaveFaults) (payload : Value)
    (h : (findRule s.rules id).isSome = true) :
    (findRule (forwardAdd crates faults payload s).2.2.rules id).isSome = true := by
  unfold forwardAdd
  split
  · exact h
  · split
    · exact h
    · split
      · exact h
      · split
        · split
          · exact h
          · refine findRule_commitRules faults _ h ?_
            rw [findRule_isSome_iff, map_id_replaceRule rfl, ← findRule_isSome_iff]
            exact h
        · exact findRule_commitRules faults _ h (findRule_append_isSome _ h)

theorem findRule_forwardImport (faults : SaveFaults) (payload : Value)
    (h : (findRule s.rules id).isSome = true) :
    (findRule (forwardImport crates faults payload s).2.2.rules id).isSome = true := by
  unfold forwardImport
  split
  · exact h
  · split
    · exact h
    · split
      · exact h
      · simp only
        split
        · exact h
        · exact findRule_commitRules faults _ h (findRule_append_isSome _ h)

theorem findRule_settingsUpdate (faults : SaveFaults) (payload : Value)
    (h : (findRule s.rules id).isSome = true) :
    (findRule (settingsUpdate crates faults payload s).2.2.rules id).isSome = true := by
  unfold settingsUpdate
  split
  · exact h
  · exact findRule_commitChange faults _ _ _ h h

structure Removes (crates : Crates) (env : Env) (s : State) (p : Pc) (id : Uuid) : Prop where
  request : ∃ request, p = .dispatch request ∧ request.operation = .forwardRemove ∧
    ruleId crates request.payload s = .ok id
  listed : (findRule s.rules id).isSome = true
  unreserved : id ∉ s.editing
  idle : s.running.lookup id = none
  /-- The document without the rule is put in place. -/
  saved : committed (saveConfig crates env.save s.directory
    (s.rules.filter fun rule ↦ rule.id ≠ id) s.settings).1 = true

theorem removes_of_forwardRemove {env : Env} {request : Request}
    (hoperation : request.operation = .forwardRemove)
    (hbefore : (findRule s.rules id).isSome = true)
    (hafter : findRule (forwardRemove crates env.save request.payload s).2.2.rules id = none) :
    Removes crates env s (.dispatch request) id := by
  have hkept : findRule s.rules id ≠ none := Option.ne_none_iff_isSome.mpr hbefore
  unfold forwardRemove at hafter
  split at hafter
  · exact absurd hafter hkept
  · rename_i selected hselected
    split at hafter
    · exact absurd hafter hkept
    · rename_i hediting
      split at hafter
      · exact absurd hafter hkept
      · rename_i hentry
        simp only at hafter
        split at hafter
        · exact absurd hafter hkept
        · rw [rules_commitChange] at hafter
          split at hafter
          · rename_i hsaved
            by_cases hid : id = selected
            · subst hid
              exact ⟨⟨request, rfl, hoperation, hselected⟩, hbefore, hediting,
                by simpa using hentry, hsaved⟩
            · rw [findRule_filter_of_ne hid] at hafter
              exact absurd hafter hkept
          · exact absurd hafter hkept

/-- The other way round, a removal that goes through takes the rule off the list. -/
theorem Removes.rule {env : Env} {p : Pc} (h : Removes crates env s p id) (managed : Bool)
    (d : Daemon) (hd : d.state = s) :
    ((exec crates managed env d p).1.state.view id).rule = none := by
  subst hd
  obtain ⟨request, rfl, hoperation, hselected⟩ := h.request
  have hlength : (d.state.rules.filter fun rule ↦ rule.id ≠ id).length ≠
      d.state.rules.length := by
    intro hlength
    obtain ⟨rule, hrule⟩ := Option.isSome_iff_exists.mp h.listed
    have hall := List.filter_eq_self.mp (List.filter_sublist.eq_of_length hlength) rule
      (mem_of_findRule hrule)
    rw [decide_eq_true_iff] at hall
    exact hall (id_of_findRule hrule)
  have hremove : (dispatch crates env.save env.now request d.state).2.2.rules =
      d.state.rules.filter fun rule ↦ rule.id ≠ id := by
    rw [dispatch, hoperation]
    simp only [forwardRemove, hselected, if_neg h.unreserved, h.idle, Option.isSome_none,
      Bool.false_eq_true, if_false, if_neg hlength]
    rw [rules_commitChange, if_pos h.saved]
  show findRule (dispatch crates env.save env.now request d.state).2.2.rules id = none
  rw [hremove, findRule_eq_none_iff, List.mem_map]
  rintro ⟨rule, hrule, hid⟩
  exact absurd hid (by simpa using (List.mem_filter.mp hrule).2)

/-- **Only a removal takes a rule off the list.** -/
theorem rule_of_dispatch_none {env : Env} {request : Request}
    (hbefore : (findRule s.rules id).isSome = true)
    (hafter : findRule (dispatch crates env.save env.now request s).2.2.rules id = none) :
    Removes crates env s (.dispatch request) id := by
  have hkept : ∀ reply events s', dispatch crates env.save env.now request s = (reply, events, s') →
      (findRule s'.rules id).isSome = true → Removes crates env s (.dispatch request) id := by
    intro reply events s' heq h
    rw [heq] at hafter
    rw [hafter] at h
    exact absurd h Bool.false_ne_true
  cases hoperation : request.operation with
  | forwardRemove =>
    refine removes_of_forwardRemove hoperation hbefore ?_
    rw [dispatch, hoperation] at hafter
    exact hafter
  | forwardAdd =>
    refine hkept _ _ _ (by rw [dispatch, hoperation]) ?_
    exact findRule_forwardAdd env.save request.payload hbefore
  | forwardImport =>
    refine hkept _ _ _ (by rw [dispatch, hoperation]) ?_
    exact findRule_forwardImport env.save request.payload hbefore
  | settingsUpdate =>
    refine hkept _ _ _ (by rw [dispatch, hoperation]) ?_
    exact findRule_settingsUpdate env.save request.payload hbefore
  | _ => exact hkept _ _ s (by rw [dispatch, hoperation]) hbefore

end Dispatch

/-! ## What a section writes -/

def State.Described (s : State) : Prop := ∀ id ∈ s.diagnostics, id ∈ s.rules.map Rule.id

/-- The diagnostics of the rule are there only if the rule is. -/
def RuleView.Described (v : RuleView) : Prop := v.info ≠ none → v.rule.isSome = true

theorem State.described_iff {s : State} : s.Described ↔ ∀ id, (s.view id).Described := by
  have hinfo : ∀ id, (s.view id).info ≠ none ↔ id ∈ s.diagnostics := by
    intro id
    rw [Option.ne_none_iff_isSome]
    exact AList.lookup_isSome
  constructor
  · intro h id hid
    exact findRule_isSome_iff.mpr (h id ((hinfo id).mp hid))
  · intro h id hid
    exact findRule_isSome_iff.mp (h id ((hinfo id).mpr hid))

section Steps

variable {managed : Bool} {env : Env} {d : Daemon}

theorem RuleView.scan_info {v : RuleView} (exited : ℕ → Bool) (now : ℕ)
    (h : (v.scan exited now).info ≠ none) : v.info ≠ none ∨ v.entry ≠ none := by
  by_cases hentry : v.entry = none
  · rw [scan_of_none hentry] at h
    exact Or.inl h
  · exact Or.inr hentry

/-- **A section keeps diagnostics to listed rules**, unless it takes the rule off the list or has
found what an earlier one left. -/
theorem RuleStep.described {id : Uuid} {p p' : Pc} {v : RuleView}
    (h : RuleStep crates env d id p p' v) (hmarked : Marked d) (hp : Reserves d p)
    (hd : (d.state.view id).Described)
    (hremoved : ∀ request, p = .dispatch request → (d.state.view id).rule.isSome = true →
      v.rule = none → (d.state.view id).info = none) : v.Described := by
  have hcurrent : ∀ launch : Launch, launch.id = id → launch.current d.state →
      (d.state.view id).rule.isSome = true := by
    rintro launch rfl hcurrent
    exact hmarked.rule launch.id fun hnone ↦ nomatch hnone.symm.trans hcurrent
  cases h with
  | keep | release | refuse | unreserve => exact hd
  | @configure request reply rule hfree =>
    intro hinfo
    show rule.isSome = true
    by_contra hnone
    rw [Option.not_isSome_iff_eq_none] at hnone
    exact hinfo (hremoved request rfl (hd hinfo) hnone)
  | launch hadmitted hrule => exact hd
  | fail hid hlaunch =>
    intro _
    rw [RuleView.launchFailed_rule]
    exact hcurrent _ hid hlaunch
  | finish hid hlaunch => exact fun _ ↦ hcurrent _ hid hlaunch
  | stop | reserve => exact fun hinfo ↦ absurd rfl hinfo
  | stopFailed hid => exact fun _ ↦ hp.rule id (congrArg some hid)
  | commit => exact fun _ ↦ rfl
  | scan =>
    intro hinfo
    rw [RuleView.scan_rule]
    rcases RuleView.scan_info _ _ hinfo with hbefore | hentry
    · exact hd hbefore
    · exact hmarked.rule id hentry

theorem RuleStep.info_of_added {id : Uuid} {p p' : Pc} {v : RuleView}
    (h : RuleStep crates env d id p p' v) (hp : Reserves d p) (hmarked : Marked d)
    (hbefore : (d.state.view id).rule = none) (hafter : v.rule ≠ none) :
    v.info = (d.state.view id).info := by
  have hnone : ¬ (d.state.view id).rule.isSome = true := by
    rw [hbefore]
    exact Bool.false_ne_true
  cases h with
  | keep | configure | release | refuse | launch | unreserve => rfl
  | fail hid hcurrent | finish hid hcurrent =>
    subst hid
    exact absurd (hmarked.rule _ fun hentry ↦ nomatch hentry.symm.trans hcurrent) hnone
  | stop hid hediting hrule => exact absurd hrule hnone
  | reserve hid hrule => exact absurd (by rw [hrule]; rfl) hnone
  | stopFailed hid => exact absurd (hp.rule id (congrArg some hid)) hnone
  | commit hid houtcome hrule => exact absurd hrule hnone
  | scan => exact absurd (by rw [RuleView.scan_rule, hbefore]) hafter

theorem Removes.info (hcrates : crates.Faithful) {p : Pc} {id : Uuid}
    (h : Removes crates env d.state p id) :
    ((exec crates managed env d p).1.state.view id).info = (d.state.view id).info := by
  obtain ⟨request, rfl, -⟩ := h.request
  have hstep := exec_ruleStep hcrates managed env d id (.dispatch request)
  generalize ((exec crates managed env d (.dispatch request)).1.state.view id) = v,
    (exec crates managed env d (.dispatch request)).2 = p' at hstep
  cases hstep with
  | keep | configure => rfl

end Steps

/-! ## Runs -/

/-- The diagnostics are those of listed rules in every state of the run, and a rule that is added
has none. -/
structure Tidy (crates : Crates) (managed : Bool) (w : System) (as : List Choice) : Prop where
  described : ∀ bs, bs <+: as → (run (System.step crates managed) w bs).shared.state.Described
  added : ∀ bs a, bs ++ [a] <+: as → ∀ id,
    id ∉ (run (System.step crates managed) w bs).shared.state.rules.map Rule.id →
    id ∈ (run (System.step crates managed) w (bs ++ [a])).shared.state.rules.map Rule.id →
      (run (System.step crates managed) w (bs ++ [a])).shared.state.diagnostics.lookup id = none

/-- The step removes no rule that has diagnostics. -/
def Spares (crates : Crates) (w : System) (a : Choice) : Prop :=
  ∀ id, Removes crates a.2 w.shared.state (w.thread a.1) id → id ∉ w.shared.state.diagnostics

/-- What holds between the sections of a run that removes no rule with diagnostics. -/
structure Describes (w : System) : Prop where
  reservations : Reservations w
  marked : Marked w.shared
  described : ∀ id, (w.shared.state.view id).Described

section Runs

variable {managed : Bool}

theorem Describes.opened {s : State} (hs : s.Idle) : Describes (System.opened s) := by
  refine ⟨(Sound.opened hs).reservations, (Sound.opened hs).markers.shared, fun id hinfo ↦ ?_⟩
  refine absurd ?_ hinfo
  show s.diagnostics.lookup id = none
  rw [hs.diagnostics]
  rfl

theorem Describes.step (hcrates : crates.Faithful) {w : System} (h : Describes w) {a : Choice}
    (ha : Spares crates w a) : Describes (System.step crates managed w a) := by
  have hp := h.reservations.consistent.thread a.1
  refine ⟨h.reservations.step hcrates a, h.marked.own hcrates hp, fun id ↦ ?_⟩
  refine (exec_ruleStep hcrates managed a.2 w.shared id (w.thread a.1)).described h.marked hp
    (h.described id) fun request hrequest hbefore hafter ↦ ?_
  rw [hrequest] at hafter
  have hremoves := rule_of_dispatch_none hbefore hafter
  rw [← hrequest] at hremoves
  exact AList.lookup_eq_none.mpr (ha id hremoves)

/-- **What a removal leaves behind.** In a run of the daemon from the state it was opened in, the
diagnostics are those of listed rules in every state, so that an added rule has none, exactly if no
rule is removed while it has diagnostics. -/
theorem tidy_iff (hcrates : crates.Faithful) {faults : OpenFaults} {directory : Directory}
    {s : State} (hopen : openState crates faults directory = .ok s) (as : List Choice) :
    Tidy crates managed (System.opened s) as ↔
      Along (System.step crates managed) (Spares crates) (System.opened s) as := by
  constructor
  · intro h
    rw [along_iff_initial]
    intro bs a hprefix id hremoves hleft
    have hafter := State.described_iff.mp (h.described _ hprefix) id
    rw [run_append] at hafter
    generalize run (System.step crates managed) (System.opened s) bs = w at hafter hremoves hleft
    have hsome : (w.shared.state.view id).info ≠ none :=
      fun hnone ↦ AList.lookup_eq_none.mp hnone hleft
    -- the removal takes the rule and leaves the diagnostics
    rw [← hremoves.info hcrates] at hsome
    have hlisted : ((exec crates managed a.2 w.shared
      (w.thread a.1)).1.state.view id).rule.isSome = true := hafter hsome
    rw [hremoves.rule managed _ rfl] at hlisted
    exact absurd hlisted Bool.false_ne_true
  · intro h
    have hall : ∀ bs, bs <+: as → Describes (run (System.step crates managed)
        (System.opened s) bs) := by
      rintro bs ⟨cs, rfl⟩
      rw [along_append] at h
      exact invariant_along (System.step crates managed)
        (fun w a hw ha ↦ hw.step hcrates ha) (.opened (idle_of_open hopen)) h.1
    refine ⟨fun bs hbs ↦ State.described_iff.mpr (hall bs hbs).described,
      fun bs a hprefix id hbefore hafter ↦ ?_⟩
    have hw := hall bs ((List.prefix_append bs [a]).trans hprefix)
    rw [run_append] at hafter ⊢
    generalize run (System.step crates managed) (System.opened s) bs = w at hw hbefore hafter ⊢
    have hstep := exec_ruleStep hcrates managed a.2 w.shared id (w.thread a.1)
    have hnone : (w.shared.state.view id).rule = none := findRule_eq_none_iff.mpr hbefore
    have hadded := hstep.info_of_added (hw.reservations.consistent.thread a.1) hw.marked hnone
      (Option.ne_none_iff_isSome.mpr (findRule_isSome_iff.mpr hafter))
    refine hadded.trans ?_
    by_contra hinfo
    have hlisted := hw.described id hinfo
    rw [hnone] at hlisted
    exact absurd hlisted Bool.false_ne_true

/-! ### Examples -/

/-- The crates on the document with the example rule and on the one without rules. -/
def exampleRemoving : Crates := .ofTable
  [(⟨2, [WireRule.ofRule exampleRule], .default⟩, exampleText (exampleRuleText "database" "5433")),
    (⟨2, [], .default⟩, exampleEmptyText)]

theorem exampleRemoving_faithful : exampleRemoving.Faithful :=
  Crates.ofTable_faithful (by decide +kernel)

theorem exampleRemoving_open :
    openState exampleRemoving exampleFaults
        (exampleDirectory (exampleText (exampleRuleText "database" "5433"))) =
      .ok exampleOpened.shared.state :=
  openState_exampleDirectory (by decide +kernel) (by decide +kernel)

/-- A client starts the example rule, and the server refuses the key. A second start finds the
local port taken. -/
def exampleRefused : List Choice :=
  [(0, { call := some (.request ⟨.forwardStart, selectName "database"⟩) }), (0, { attemptId := 1 }),
    (0, {}), (0, { ready := some (.startup "Permission denied (publickey).") }), (0, {}), (0, {}),
    (0, { call := some (.request ⟨.forwardStart, selectName "database"⟩) }), (0, exampleTaken),
    (0, {})]

/-- The client then removes the rule and adds it again. -/
def exampleReadded : List Choice :=
  exampleRefused ++ ([(0, { call := some (.request ⟨.forwardRemove, selectName "database"⟩) }),
    (0, {}), (0, {}), (0, { call := some (.request ⟨.forwardAdd,
      encodeRule exampleRemoving (WireRule.ofRule exampleRule)⟩) }), (0, {})] : List Choice)

/-- The rule that is added again shows the error of the one that was removed. -/
theorem exampleReadded_left :
    openState exampleRemoving exampleFaults
        (exampleDirectory (exampleText (exampleRuleText "database" "5433"))) =
      .ok exampleOpened.shared.state ∧
    (exampleOpened.shared.state.rules.map Rule.id).Nodup ∧
    (¬ ∀ as, Tidy exampleRemoving true exampleOpened as) ∧
    exampleRule.id ∈ (run (System.step exampleRemoving true) exampleOpened
      exampleReadded).shared.state.rules.map Rule.id ∧
    ((run (System.step exampleRemoving true) exampleOpened
      exampleReadded).shared.state.diagnostics.lookup exampleRule.id).bind RuntimeInfo.lastError =
        some ⟨.authentication, "SSH authentication failed"⟩ := by
  refine ⟨exampleRemoving_open, by decide, fun h ↦ ?_, by decide +kernel, by decide +kernel⟩
  have hlisted := (h (exampleReadded.take 11)).described _ List.prefix_rfl exampleRule.id
    (AList.lookup_isSome.mp (by decide +kernel))
  exact absurd hlisted (by decide +kernel)

/-- A stop before the removal forgets the diagnostics. -/
def exampleForgotten : List Choice :=
  exampleRefused ++ ([(0, { call := some (.request ⟨.forwardStop, selectName "database"⟩) }),
    (0, {}), (0, {}), (0, { call := some (.request ⟨.forwardRemove, selectName "database"⟩) }),
    (0, {})] : List Choice)

def Pc.dispatches : Pc → Bool
  | .dispatch _ => true
  | _ => false

theorem spares_of_forgotten {crates : Crates} {w : System} {a : Choice}
    (h : (w.thread a.1).dispatches = true → w.shared.state.diagnostics.keys = []) :
    Spares crates w a := by
  intro id hremoves hmem
  obtain ⟨request, hrequest, -⟩ := hremoves.request
  rw [AList.mem_keys, h (by rw [hrequest]; rfl)] at hmem
  exact absurd hmem List.not_mem_nil

theorem tidy_iff_exampleForgotten : Tidy exampleRemoving true exampleOpened exampleForgotten :=
  (tidy_iff exampleRemoving_faithful exampleRemoving_open exampleForgotten).mpr
    ((show Along (System.step exampleRemoving true)
        (fun w a ↦ (w.thread a.1).dispatches = true → w.shared.state.diagnostics.keys = [])
        exampleOpened exampleForgotten by decide +kernel).imp fun _ _ ↦ spares_of_forgotten)

end Runs

end TunnelDeck
