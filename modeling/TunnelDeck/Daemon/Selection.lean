import TunnelDeck.Daemon.Configuration

/-!
# Selecting a rule by its name

A client may name a rule; the daemon looks the name up and from then on works with the id of the
rule it found. The names of a valid set are distinct, so the lookup finds the rule that was meant.
Whether the id then leads back to that rule and to no other one depends on the ids being distinct,
and this is not validated: an addition and an import keep the ids of the set distinct, the load of
a document takes them as they are.
-/

namespace TunnelDeck

open Concurrency

variable {crates : Crates} {managed : Bool}

/-! ## Selectors -/

theorem ruleId_selectId (hcrates : crates.Faithful) (id : Uuid) (s : State) :
    ruleId crates (selectId crates id) s = .ok id := by
  simp [ruleId, selectId, decodeSelector, Json.structFields_singleton, Json.field_singleton,
    decodeUuid_encodeUuid hcrates]

theorem ruleId_selectName (name : String) (s : State) :
    ruleId crates (selectName name) s =
      match s.rules.find? fun rule ↦ rule.name.asStr = name with
      | some rule => .ok rule.id
      | none => .error ruleNotFound := by
  have hne : "rule_name" ≠ "rule_id" := by decide
  have hid : decodeSelector "rule_id" (decodeUuid crates) (selectName name) = none := by
    rw [decodeSelector, selectName, Json.structFields_singleton_of_ne _ hne]
    rfl
  have hname : decodeSelector "rule_name" Json.decodeString (selectName name) = some name := by
    rw [decodeSelector, selectName, Json.structFields_singleton]
    exact (Json.field_singleton "rule_name" (.string name) Json.decodeString).trans rfl
  cases hfind : s.rules.find? fun rule ↦ rule.name.asStr = name with
  | none => simp [ruleId, hid, hname, hfind]
  | some rule => simp [ruleId, hid, hname, hfind]

theorem ruleId_of_name (crates : Crates) {s : State} (hvalid : validateRuleSet s.rules = .ok ())
    {rule : Rule} (hrule : rule ∈ s.rules) :
    ruleId crates (selectName rule.name.asStr) s = .ok rule.id := by
  have hsome : (s.rules.find? fun r ↦ r.name.asStr = rule.name.asStr).isSome = true := by
    rw [List.find?_isSome]
    exact ⟨rule, hrule, by simp⟩
  obtain ⟨found, hfound⟩ := Option.isSome_iff_exists.mp hsome
  have hname : found.name = rule.name := by
    have htext : found.name.asStr = rule.name.asStr := by simpa using List.find?_some hfound
    cases hf : found.name
    cases hr : rule.name
    simpa [hf, hr] using htext
  have hsame : found = rule :=
    List.inj_on_of_nodup_map (nodup_names_of_valid hvalid) (List.mem_of_find?_eq_some hfound) hrule
      hname
  rw [ruleId_selectName, hfound, hsame]

/-! ## Requests that name a rule -/

/-- The first sections of the requests that start, stop or remove the rule with a name. -/
inductive NamedRequest (name : String) : Pc → Prop
  | start : NamedRequest name (.start (.client ⟨.forwardStart, selectName name⟩) .enter)
  | stop : NamedRequest name (.stop ⟨.forwardStop, selectName name⟩ .enter)
  | remove : NamedRequest name (.dispatch ⟨.forwardRemove, selectName name⟩)

/-- A section acts on one rule only: no other rule of the set is changed, started, stopped or
removed, and what is launched or stopped is this rule. -/
structure ActsOnly (crates : Crates) (managed : Bool) (env : Env) (d : Daemon) (rule : Rule)
    (p : Pc) : Prop where
  others : ∀ other ∈ d.state.rules, other ≠ rule →
    (exec crates managed env d p).1.state.view other.id = d.state.view other.id ∧
      other ∈ (exec crates managed env d p).1.state.rules
  launches : ∀ launch, (exec crates managed env d p).2.launching = some launch →
    launch.id = rule.id ∧ launch.rule = rule
  stops : ∀ request id attempt, (exec crates managed env d p).2 =
    .stop request (.cleanup id attempt) →
      id = rule.id ∧ d.state.running.lookup rule.id = some (.active attempt)

/-- What the requests that name a rule do to it when no edit has reserved it: a start launches it,
or finds it started; a stop takes its entry, with the attempt that is to be cleaned up; and a
removal takes it out of the set, unless it runs or the save fails. -/
structure ActsOn (crates : Crates) (managed : Bool) (env : Env) (d : Daemon) (rule : Rule) :
    Prop where
  selects : ruleId crates (selectName rule.name.asStr) d.state = .ok rule.id
  launches : ∀ request, request.payload = selectName rule.name.asStr →
    rule.id ∉ d.state.editing →
    d.state.running.lookup rule.id = none ∨ d.state.running.lookup rule.id = some .failed →
    checkLocalPort env.bind rule = .ok () →
      (exec crates managed env d (.start (.client request) .enter)).2 =
          .start (.client request) (.launch ⟨rule.id, rule, env.attemptId⟩) ∧
        (exec crates managed env d (.start (.client request) .enter)).1.state.running.lookup
          rule.id = some (.starting env.attemptId)
  started : ∀ request entry, request.payload = selectName rule.name.asStr →
    rule.id ∉ d.state.editing → d.state.running.lookup rule.id = some entry → entry ≠ .failed →
      (exec crates managed env d (.start (.client request) .enter)).2 =
        .returned request (startReply crates rule.id true false)
  stops : ∀ request, request.payload = selectName rule.name.asStr → rule.id ∉ d.state.editing →
    (exec crates managed env d (.stop request .enter)).2 =
        stopNext crates request rule.id (d.state.running.lookup rule.id) ∧
      (exec crates managed env d (.stop request .enter)).1.state.running.lookup rule.id = none ∧
      rule.id ∈ (exec crates managed env d (.stop request .enter)).1.state.manuallyStopped
  removes : ∀ request, request.operation = .forwardRemove →
    request.payload = selectName rule.name.asStr → rule.id ∉ d.state.editing →
    d.state.running.lookup rule.id = none →
      rule ∉ (exec crates managed env d (.dispatch request)).1.state.rules ∨
        ∃ failure, saveOutcome crates (saveConfig crates env.save d.state.directory
            (d.state.rules.filter fun other ↦ other.id ≠ rule.id) d.state.settings).1 =
              .error failure ∧
          (exec crates managed env d (.dispatch request)).2 = .returned request (.error failure)

/-- The requirement on a state: distinct ids, and requests by name that act on what they name and on
nothing else. -/
structure Addressable (crates : Crates) (managed : Bool) (d : Daemon) : Prop where
  ids : (d.state.rules.map Rule.id).Nodup
  acts : ∀ rule ∈ d.state.rules, ∀ env, ActsOn crates managed env d rule
  named : ∀ rule ∈ d.state.rules, ∀ p, NamedRequest rule.name.asStr p → ∀ env,
    ActsOnly crates managed env d rule p

theorem launch_of_enter (hcrates : crates.Faithful) {env : Env} {d : Daemon} {caller : Caller}
    {launch : Launch}
    (h : (exec crates managed env d (.start caller .enter)).2.launching = some launch) :
    Admitted crates d launch.id caller ∧ findRule d.state.rules launch.id = some launch.rule := by
  have hstep := exec_ruleStep hcrates managed env d launch.id (.start caller .enter)
  generalize (exec crates managed env d (.start caller .enter)).2 = p' at h hstep
  generalize (exec crates managed env d (.start caller .enter)).1.state.view launch.id = v at hstep
  cases hstep with
  | keep hlaunch => cases hlaunch launch h rfl
  | release => simp at h
  | refuse => simp at h
  | @launch _ rule hadmitted hrule =>
    have hlaunch : ⟨launch.id, rule, env.attemptId⟩ = launch := Option.some.inj h
    refine ⟨hadmitted, ?_⟩
    rw [← hlaunch]
    exact hrule

theorem id_ne_of_nodup {rules : List Rule} (hids : (rules.map Rule.id).Nodup) {rule other : Rule}
    (hrule : rule ∈ rules) (hother : other ∈ rules) (hne : other ≠ rule) : other.id ≠ rule.id :=
  fun h ↦ hne (List.inj_on_of_nodup_map hids hother hrule h)

theorem rules_start (hcrates : crates.Faithful) {env : Env} {d : Daemon} (caller : Caller)
    (pc : StartPc) :
    (exec crates managed env d (.start caller pc)).1.state.rules = d.state.rules := by
  rcases exec_config hcrates managed env d (.start caller pc) with h | h | h
  · exact congrArg (fun c ↦ c.2.rules) h
  · obtain ⟨_, _, _, h, -⟩ := h
    cases h
  · obtain ⟨_, _, _, h, -⟩ := h
    cases h

theorem forwardRemove_state (faults : SaveFaults) {payload : Json.Value} {s : State} {id : Uuid}
    (hid : ruleId crates payload s = .ok id) :
    ∃ directory rules,
      (forwardRemove crates faults payload s).2.2 = { s with directory, rules } ∧
        (rules = s.rules ∨ rules = s.rules.filter fun rule ↦ rule.id ≠ id) := by
  simp only [forwardRemove, hid]
  split
  · exact ⟨_, _, rfl, Or.inl rfl⟩
  · split
    · exact ⟨_, _, rfl, Or.inl rfl⟩
    · split
      · exact ⟨_, _, rfl, Or.inl rfl⟩
      · simp only [commitChange]
        split
        · exact ⟨_, _, rfl, Or.inl rfl⟩
        · exact ⟨_, _, rfl, Or.inr rfl⟩

section Distinct

variable {env : Env} {d : Daemon} {rule : Rule} {payload : Json.Value}

theorem start_actsOnly (hcrates : crates.Faithful) (hids : (d.state.rules.map Rule.id).Nodup)
    (hrule : rule ∈ d.state.rules) (hselects : ruleId crates payload d.state = .ok rule.id) :
    ActsOnly crates managed env d rule (.start (.client ⟨.forwardStart, payload⟩) .enter) := by
  refine ⟨fun other hother hne ↦ ⟨?_, by rwa [rules_start hcrates]⟩, fun launch hlaunch ↦ ?_, ?_⟩
  · have hid := id_ne_of_nodup hids hrule hother hne
    have hnot : ¬ Admitted crates d other.id (.client ⟨.forwardStart, payload⟩) :=
      fun h ↦ hid (h.eq hselects).symm
    have hstep := exec_ruleStep hcrates managed env d other.id
      (.start (.client ⟨.forwardStart, payload⟩) .enter)
    generalize (exec crates managed env d _).2 = p' at hstep
    generalize (exec crates managed env d _).1.state.view other.id = v at hstep ⊢
    cases hstep with
    | keep => rfl
    | release h => exact absurd h hnot
    | refuse h => exact absurd h hnot
    | launch h => exact absurd h hnot
  · obtain ⟨hadmitted, hfind⟩ := launch_of_enter hcrates hlaunch
    have hid : launch.id = rule.id := (hadmitted.eq hselects).symm
    refine ⟨hid, ?_⟩
    rw [hid, findRule_of_mem hids hrule] at hfind
    exact (Option.some.inj hfind).symm
  · intro request id attempt hstop
    simp only [exec, execStart] at hstop
    split at hstop <;> simp [Caller.resume] at hstop

theorem stop_actsOnly (hids : (d.state.rules.map Rule.id).Nodup)
    (hrule : rule ∈ d.state.rules) (hselects : ruleId crates payload d.state = .ok rule.id) :
    ActsOnly crates managed env d rule (.stop ⟨.forwardStop, payload⟩ .enter) := by
  rcases hstop : stopEnter crates payload d.state with ⟨result, s⟩
  rcases stopEnter_spec hstop with ⟨failure, rfl, rfl⟩ | ⟨id, hid, hediting, hfind, rfl, rfl⟩
  · refine ⟨fun other hother hne ↦ ?_, ?_, ?_⟩
    · simp only [exec, execStop, hstop]
      exact ⟨rfl, hother⟩
    · simp [exec, execStop, hstop]
    · simp [exec, execStop, hstop]
  · obtain rfl : rule.id = id := Except.ok.inj (hselects.symm.trans hid)
    refine ⟨fun other hother hne ↦ ?_, ?_, fun request id attempt hnext ↦ ?_⟩
    · simp only [exec, execStop, hstop]
      exact ⟨view_stopped_of_ne _ (id_ne_of_nodup hids hrule hother hne), hother⟩
    · simp [exec, execStop, hstop]
    · simp only [exec, execStop, hstop] at hnext
      rcases hentry : d.state.running.lookup rule.id with _ | (_ | found | _ | _) <;>
        rw [hentry] at hnext <;> cases hnext
      exact ⟨rfl, rfl⟩

theorem remove_actsOnly (hids : (d.state.rules.map Rule.id).Nodup)
    (hrule : rule ∈ d.state.rules) (hselects : ruleId crates payload d.state = .ok rule.id) :
    ActsOnly crates managed env d rule (.dispatch ⟨.forwardRemove, payload⟩) := by
  obtain ⟨directory, rules, hstate, hrules⟩ := forwardRemove_state env.save hselects
  refine ⟨fun other hother hne ↦ ?_, by simp [exec], by simp [exec]⟩
  have hid := id_ne_of_nodup hids hrule hother hne
  have hexec : (exec crates managed env d (.dispatch ⟨.forwardRemove, payload⟩)).1.state =
      { d.state with directory, rules } := hstate
  rw [hexec]
  rcases hrules with rfl | rfl
  · exact ⟨rfl, hother⟩
  · refine ⟨?_, List.mem_filter.mpr ⟨hother, by simpa using hid⟩⟩
    exact congrArg (fun rule ↦ { d.state.view other.id with rule }) (findRule_filter_of_ne hid _)

theorem startEnter_idle (env : Env) (hids : (d.state.rules.map Rule.id).Nodup)
    (hrule : rule ∈ d.state.rules)
    (hselects : ruleId crates payload d.state = .ok rule.id) (hediting : rule.id ∉ d.state.editing)
    (hentry : d.state.running.lookup rule.id = none ∨
      d.state.running.lookup rule.id = some .failed)
    (hport : checkLocalPort env.bind rule = .ok ()) :
    startEnter crates false false payload env.attemptId env.bind d.state =
      (.launch ⟨rule.id, rule, env.attemptId⟩,
        ((d.state.release true rule.id).clearFailed rule.id).setEntry rule.id
          (.starting env.attemptId)) := by
  have hrunning : ((d.state.release true rule.id).clearFailed rule.id).running.lookup rule.id =
      none := by
    rw [State.lookup_clearFailed, State.running_release]
    rcases hentry with hentry | hentry <;> simp [hentry]
  simp [startEnter, hselects, hediting, findRule_of_mem hids hrule, hrunning, hport]

theorem startEnter_started (env : Env) (hids : (d.state.rules.map Rule.id).Nodup)
    (hrule : rule ∈ d.state.rules) (hselects : ruleId crates payload d.state = .ok rule.id)
    (hediting : rule.id ∉ d.state.editing) {entry : Attempt}
    (hentry : d.state.running.lookup rule.id = some entry) (hfailed : entry ≠ .failed) :
    startEnter crates false false payload env.attemptId env.bind d.state =
      (.unchanged rule.id true, d.state.release true rule.id) := by
  have hclear : (d.state.release true rule.id).clearFailed rule.id =
      d.state.release true rule.id := by
    refine State.clearFailed_of_ne _ ?_
    rw [State.running_release, hentry]
    exact mt Option.some.inj hfailed
  simp [startEnter, hselects, hediting, findRule_of_mem hids hrule, hclear, hentry]

theorem stopEnter_selected (hrule : rule ∈ d.state.rules)
    (hselects : ruleId crates payload d.state = .ok rule.id)
    (hediting : rule.id ∉ d.state.editing) :
    stopEnter crates payload d.state =
      (.ok (rule.id, d.state.running.lookup rule.id),
        ((d.state.markStopped rule.id).removeInfo rule.id).removeEntry rule.id) := by
  have hexists : d.state.rules.any (fun other ↦ other.id = rule.id) = true := by
    simpa using ⟨rule, hrule, rfl⟩
  simp [stopEnter, hselects, hediting, hexists]

theorem forwardRemove_selected (save : SaveFaults) (hrule : rule ∈ d.state.rules)
    (hselects : ruleId crates payload d.state = .ok rule.id)
    (hediting : rule.id ∉ d.state.editing)
    (hentry : d.state.running.lookup rule.id = none) :
    rule ∉ (forwardRemove crates save payload d.state).2.2.rules ∨
      ∃ failure, saveOutcome crates (saveConfig crates save d.state.directory
          (d.state.rules.filter fun other ↦ other.id ≠ rule.id) d.state.settings).1 =
            .error failure ∧
        (forwardRemove crates save payload d.state).1 = .error failure := by
  have hlength : ¬ (d.state.rules.filter fun other ↦ other.id ≠ rule.id).length =
      d.state.rules.length := fun hsame ↦ by
    have hkept := List.filter_eq_self.mp (List.filter_sublist.eq_of_length hsame) rule hrule
    simp at hkept
  simp only [forwardRemove, hselects, if_neg hediting, hentry, Option.isSome_none,
    Bool.false_eq_true, if_false, if_neg hlength, commitChange]
  rcases hsave : saveOutcome crates (saveConfig crates save d.state.directory
    (d.state.rules.filter fun other ↦ other.id ≠ rule.id) d.state.settings).1 with failure | after
  · exact Or.inr ⟨failure, rfl, rfl⟩
  · exact Or.inl fun hkept ↦ by simpa using (List.mem_filter.mp hkept).2

/-- The requests whose payload selects a rule do to it what they are for. -/
theorem actsOn_of_name (hids : (d.state.rules.map Rule.id).Nodup)
    (hrule : rule ∈ d.state.rules)
    (hselects : ruleId crates (selectName rule.name.asStr) d.state = .ok rule.id) :
    ActsOn crates managed env d rule := by
  refine ⟨hselects, fun request hpayload hediting hentry hport ↦ ?_,
    fun request entry hpayload hediting hentry hfailed ↦ ?_, fun request hpayload hediting ↦ ?_,
    fun request hoperation hpayload hediting hentry ↦ ?_⟩
  · have hstart := startEnter_idle env hids hrule (hpayload ▸ hselects) hediting hentry hport
    simp only [exec, execStart, Caller.automatic, Caller.editOwned, Caller.payload, hstart]
    exact ⟨trivial, AList.lookup_insert _⟩
  · have hstart := startEnter_started env hids hrule (hpayload ▸ hselects) hediting hentry hfailed
    simp only [exec, execStart, Caller.automatic, Caller.editOwned, Caller.payload, hstart]
    rfl
  · have hstop := stopEnter_selected hrule (hpayload ▸ hselects) hediting
    simp only [exec, execStop, hstop]
    exact ⟨trivial, AList.lookup_erase _ _, Finset.mem_insert_self _ _⟩
  · have hremove : dispatch crates env.save env.now request d.state =
        forwardRemove crates env.save request.payload d.state := by
      simp only [dispatch, hoperation]
    simp only [exec, hremove]
    rcases forwardRemove_selected env.save hrule (hpayload ▸ hselects) hediting hentry with
      hgone | ⟨failure, hsave, hreply⟩
    · exact Or.inl hgone
    · exact Or.inr ⟨failure, hsave, congrArg _ hreply⟩

end Distinct

/-- In a valid set with distinct ids, requests by name act on the rule they name. -/
theorem addressable_of_nodup (hcrates : crates.Faithful) {d : Daemon}
    (hids : (d.state.rules.map Rule.id).Nodup) (hvalid : validateRuleSet d.state.rules = .ok ()) :
    Addressable crates managed d := by
  refine ⟨hids, fun rule hrule env ↦ actsOn_of_name hids hrule (ruleId_of_name crates hvalid hrule),
    fun rule hrule p hp env ↦ ?_⟩
  have hselects := ruleId_of_name crates hvalid hrule
  cases hp with
  | start => exact start_actsOnly hcrates hids hrule hselects
  | stop => exact stop_actsOnly hids hrule hselects
  | remove => exact remove_actsOnly hids hrule hselects

/-! ## Runs -/

theorem nodup_ids_exec (hcrates : crates.Faithful) {env : Env} {d : Daemon} (p : Pc)
    (h : (d.state.rules.map Rule.id).Nodup) :
    ((exec crates managed env d p).1.state.rules.map Rule.id).Nodup := by
  rcases exec_config hcrates managed env d p with hconfig |
    ⟨request, reply, events, -, hdispatched⟩ | ⟨request, edit, outcome, -, hsaved⟩
  · rwa [show (exec crates managed env d p).1.state.rules = d.state.rules from
      congrArg (fun c ↦ c.2.rules) hconfig]
  · generalize (exec crates managed env d p).1.state = s' at hdispatched ⊢
    cases hdispatched with
    | kept => exact h
    | unsaved error hdirectory => exact h
    | committed _ event hchange hvalid hstored hreply => exact hchange.nodup h
  · generalize (exec crates managed env d p).1.state = s' at hsaved ⊢
    cases hsaved with
    | missing => exact h
    | unsaved herror hrule hdirectory => exact h
    | committed houtcome hrule hvalid hstored =>
      show ((replaceRule edit.id edit.replacement d.state.rules).map Rule.id).Nodup
      rwa [map_id_replaceRule (show edit.replacement.id = edit.id from edit.sameId)]

/-- **Ids stay distinct exactly when they were loaded so.** The rules of a daemon have distinct ids
in every state of every run, and a start, a stop or a removal by exact name acts on that rule and on
no other one, if and only if the rules of the document it was opened with have distinct ids. -/
theorem addressable_iff_nodup_loaded (hcrates : crates.Faithful) {faults : OpenFaults}
    {directory : Directory} {s : State} (hopen : openState crates faults directory = .ok s) :
    (∀ as : List Choice, Addressable crates managed
        (run (System.step crates managed) (System.opened s) as).shared) ↔
      (s.rules.map Rule.id).Nodup := by
  refine ⟨fun h ↦ (h []).ids, fun hids as ↦ ?_⟩
  have hnodup : ((run (System.step crates managed) (System.opened s)
      as).shared.state.rules.map Rule.id).Nodup :=
    invariant_run (System.step crates managed)
      (I := fun w ↦ (w.shared.state.rules.map Rule.id).Nodup)
      (fun _ _ h ↦ nodup_ids_exec hcrates _ h) hids as
  have hpersisted := invariant_run (System.step crates managed)
    (I := fun w ↦ Persisted crates w.shared.state) (fun _ _ h ↦ h.next hcrates _)
    (Persisted.of_open hcrates hopen : Persisted crates (System.opened s).shared.state) as
  exact addressable_of_nodup hcrates hnodup hpersisted.valid

/-- The example daemon has loaded two rules, and they stay addressable. -/
theorem addressable_iff_nodup_loaded_examplePair :
    (examplePair.shared.state.rules.map Rule.id).Nodup ∧
      ∀ as : List Choice, Addressable exampleCrates true
        (run (System.step exampleCrates true) examplePair as).shared :=
  ⟨by decide, (addressable_iff_nodup_loaded exampleCrates_faithful examplePair_open).mpr
    (by decide)⟩

/-- The text of a document with two rules under one id. -/
def exampleTwins : String :=
  exampleText (exampleRuleText "database" "5433" ++ exampleRuleText "replica" "5434")

/-- The daemon opens with two rules under one id. Its ids are not distinct, and a start that names
the second rule launches the first. -/
theorem exampleTwins_not_addressable :
    openState exampleCrates exampleFaults (exampleDirectory exampleTwins) =
        .ok (exampleState (exampleDirectory exampleTwins) [exampleRule, exampleTwin]) ∧
      (exec exampleCrates true {} (System.opened (exampleState (exampleDirectory exampleTwins)
          [exampleRule, exampleTwin])).shared
        (.start (.client ⟨.forwardStart, selectName "replica"⟩) .enter)).2.launching =
          some ⟨exampleRule.id, exampleRule, 0⟩ ∧
      ¬ ∀ as : List Choice, Addressable exampleCrates true (run (System.step exampleCrates true)
        (System.opened (exampleState (exampleDirectory exampleTwins)
          [exampleRule, exampleTwin])) as).shared :=
  ⟨openState_exampleDirectory (by decide +kernel) (by decide +kernel), by decide +kernel,
    fun h ↦ absurd (h []).ids (by decide)⟩

end TunnelDeck
