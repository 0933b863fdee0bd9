import TunnelDeck.Daemon.Ownership

/-!
# What runs is what is configured

A launch works with a copy of its rule. While it is under way and its marker is the entry, and as
long as its attempt is the entry, nothing changes the rule under its id: a replacement, an import, a
removal and an edit each find the entry in their way. So the rule that the lookup by id gives is the
one that runs.

A client sees the whole list of rules. It contains no other rule under the id if the document the
daemon was opened with had distinct ids, and only then in general.

## Main results

* `runs_as_found`: the launch behind an entry was given the rule that is found under its id.
* `runs_as_listed_iff_nodup_loaded`: it was given every rule that is listed under its id exactly if
  the loaded ids are distinct.
-/

namespace TunnelDeck

open Json (Value)
open Concurrency

variable {crates : Crates} {managed : Bool} {env : Env} {d : Daemon}

/-- Every active attempt was launched with the rule under its id. -/
def Daemon.Agrees (d : Daemon) : Prop :=
  ∀ id a process, d.stores id a → d.processes[a.process]? = some process →
    (d.state.view id).rule = some process.launch.rule

theorem Daemon.Agrees.own (hcrates : crates.Faithful) {p : Pc} (h : d.Agrees) (hp : Reserves d p)
    (hlaunches : Launches d p) (hstored : Stored d) (hheld : Held d p) :
    (exec crates managed env d p).1.Agrees := by
  intro id a process hafter hget
  have hentry : ((exec crates managed env d p).1.state.view id).entry ≠ none :=
    fun hnone ↦ nomatch hnone.symm.trans hafter
  have hstep := exec_ruleStep hcrates managed env d id p
  obtain ⟨hprocess, hbefore | ⟨caller, launch, rfl, rfl, hcurrent⟩⟩ :=
    (exec_processStep hcrates managed env hstored.once a.process hp).stored_before hstored hheld
      hafter rfl
  · rw [hprocess] at hget
    exact hstep.rule_kept hp hentry (h id a process hbefore hget)
  · -- the launch that has just finished was given the rule under its marker
    rw [hprocess] at hget
    obtain ⟨process', hget', -, -, hlaunch⟩ := hheld.process a.process .running rfl
    obtain rfl := Option.some.inj (hget.symm.trans hget')
    rw [hlaunch launch rfl]
    exact hstep.rule_kept hp hentry (hlaunches.own launch rfl launch.id hcurrent).2

/-- The launches behind the entries were given the rules that are found under their ids. -/
structure System.RunsAsFound (w : System) : Prop where
  active : ∀ id a process, w.shared.stores id a → w.shared.processes[a.process]? = some process →
    findRule w.shared.state.rules id = some process.launch.rule
  starting : ∀ t launch id, (w.thread t).launching = some launch →
    (w.shared.state.view id).entry = some (.starting launch.attemptId) →
      id = launch.id ∧ findRule w.shared.state.rules id = some launch.rule

/-- **What runs is what is found.** -/
theorem runs_as_found (hcrates : crates.Faithful) {s : State} (hs : s.Idle) {as : List Choice}
    (has : Along (System.step crates managed) FreshId (System.opened s) as) :
    (run (System.step crates managed) (System.opened s) as).RunsAsFound := by
  have hinit : (System.opened s).shared.Agrees := by
    intro id a process hstored
    have hnone : (s.view id).entry = none := by simp [State.view, hs.running]
    cases hnone.symm.trans hstored
  have hfinal := invariant_along (System.step crates managed)
    (I := fun w ↦ Sound w ∧ Owned w ∧ w.shared.Agrees)
    (fun w a hI ha ↦ ⟨hI.1.next hcrates ha, hI.2.1.next hcrates a,
      hI.2.2.own hcrates (hI.1.reservations.consistent.thread a.1) (hI.1.markers.thread a.1)
        hI.2.1.consistent.shared (hI.2.1.consistent.thread a.1)⟩)
    ⟨.opened hs, .opened hs, hinit⟩ has
  exact ⟨hfinal.2.2, fun t launch id hlaunch hentry ↦
    (hfinal.1.markers.thread t).own launch hlaunch id hentry⟩

/-- The launches behind the entries were given every rule that is listed under their ids. -/
structure System.RunsAsListed (w : System) : Prop extends w.RunsAsFound where
  activeListed : ∀ id a process, w.shared.stores id a →
    w.shared.processes[a.process]? = some process →
      ∀ rule ∈ w.shared.state.rules, rule.id = id → process.launch.rule = rule
  startingListed : ∀ t launch id, (w.thread t).launching = some launch →
    (w.shared.state.view id).entry = some (.starting launch.attemptId) →
      ∀ rule ∈ w.shared.state.rules, rule.id = id → launch.rule = rule

theorem System.RunsAsFound.listed {w : System} (h : w.RunsAsFound)
    (hids : (w.shared.state.rules.map Rule.id).Nodup) : w.RunsAsListed := by
  refine ⟨h, fun id a process hstored hget rule hrule hid ↦ ?_,
    fun t launch id hlaunch hentry rule hrule hid ↦ ?_⟩
  · have hfound := h.active id a process hstored hget
    rw [← hid, findRule_of_mem hids hrule] at hfound
    exact (Option.some.inj hfound).symm
  · obtain ⟨-, hfound⟩ := h.starting t launch id hlaunch hentry
    rw [← hid, findRule_of_mem hids hrule] at hfound
    exact (Option.some.inj hfound).symm

/-- A client starts the rule by its id, right after the daemon was opened. -/
def firstStart (crates : Crates) (id : Uuid) : List Choice :=
  [(0, { call := some (.request ⟨.forwardStart, selectId crates id⟩) }), (0, { attemptId := 0 })]

theorem fresh_firstStart (s : State) (id : Uuid) :
    Along (System.step crates managed) FreshId (System.opened s) (firstStart crates id) := by
  refine ⟨fun h ↦ ?_, fun h ↦ ?_, trivial⟩
  · cases h
  · exact List.not_mem_nil

theorem launch_firstStart (hcrates : crates.Faithful) (managed : Bool) {s : State} (hs : s.Idle)
    {id : Uuid} {rule : Rule} (hrule : findRule s.rules id = some rule) {w : System}
    (hw : run (System.step crates managed) (System.opened s) (firstStart crates id) = w) :
    (w.thread 0).launching = some ⟨id, rule, 0⟩ ∧
      (w.shared.state.view id).entry = some (.starting 0) ∧ w.shared.state.rules = s.rules := by
  have hstart : startEnter crates false false (selectId crates id) 0 none s =
      (.launch ⟨id, rule, 0⟩, ((s.release true id).clearFailed id).setEntry id (.starting 0)) := by
    have hport : checkLocalPort none rule = .ok () := by
      rw [checkLocalPort]
      split <;> rfl
    simp [startEnter, ruleId_selectId hcrates, hs.editing, hs.running, hrule, hport, State.release,
      State.clearFailed, State.unmarkStopped]
  have hexec : exec crates managed { attemptId := 0 } (System.opened s).shared
      (.start (.client ⟨.forwardStart, selectId crates id⟩) .enter) =
      ({ (System.opened s).shared.setState
          (((s.release true id).clearFailed id).setEntry id (.starting 0)) with drawn := [0] },
        .start (.client ⟨.forwardStart, selectId crates id⟩) (.launch ⟨id, rule, 0⟩)) := by
    simp only [exec, execStart, Caller.automatic, Caller.editOwned, Caller.payload, System.opened,
      hstart]
  have hshared : w.shared = (exec crates managed { attemptId := 0 } (System.opened s).shared
      (.start (.client ⟨.forwardStart, selectId crates id⟩) .enter)).1 := hw ▸ rfl
  have hthread : w.thread 0 = (exec crates managed { attemptId := 0 } (System.opened s).shared
      (.start (.client ⟨.forwardStart, selectId crates id⟩) .enter)).2 := by
    rw [← hw]
    exact World.step_thread_self ..
  rw [hexec] at hshared hthread
  rw [hshared, hthread]
  have hconfig : (((s.release true id).clearFailed id).setEntry id (.starting 0)).config =
      s.config := by simp
  exact ⟨rfl, by simp [Daemon.setState], congrArg (fun config ↦ config.2.1) hconfig⟩

/-- **Every tunnel runs what is listed for it, in every run, exactly if the loaded ids are
distinct.** -/
theorem runs_as_listed_iff_nodup_loaded (hcrates : crates.Faithful) {faults : OpenFaults}
    {directory : Directory} {s : State} (hopen : openState crates faults directory = .ok s) :
    (∀ as, Along (System.step crates managed) FreshId (System.opened s) as →
        (run (System.step crates managed) (System.opened s) as).RunsAsListed) ↔
      (s.rules.map Rule.id).Nodup := by
  have hidle := idle_of_open hopen
  constructor
  · intro h
    have hnames := nodup_names_of_valid (Persisted.of_open hcrates hopen).valid
    rw [List.nodup_map_iff_inj_on hnames.of_map]
    intro r hr r' hr' hid
    -- the first start of their id would launch both
    obtain ⟨rule, hrule⟩ := Option.isSome_iff_exists.mp
      (findRule_isSome_iff.mpr (List.mem_map_of_mem hr))
    obtain ⟨hlaunch, hentry, hrules⟩ := launch_firstStart hcrates managed hidle hrule rfl
    have hlisted := (h _ (fresh_firstStart s r.id)).startingListed 0 _ r.id hlaunch hentry
    rw [hrules] at hlisted
    exact (hlisted r hr rfl).symm.trans (hlisted r' hr' hid.symm)
  · intro hids as has
    have hnodup : ((run (System.step crates managed) (System.opened s)
        as).shared.state.rules.map Rule.id).Nodup :=
      invariant_run (System.step crates managed)
        (I := fun w ↦ (w.shared.state.rules.map Rule.id).Nodup)
        (fun _ _ h ↦ nodup_ids_exec hcrates _ h) hids as
    exact (runs_as_found hcrates hidle has).listed hnodup

/-- A document with two rules loads, and their tunnels run what is listed. -/
theorem runs_as_listed_iff_nodup_loaded_examplePair :
    (examplePair.shared.state.rules.map Rule.id).Nodup ∧
      ∀ as, Along (System.step exampleCrates true) FreshId examplePair as →
        (run (System.step exampleCrates true) examplePair as).RunsAsListed :=
  ⟨by decide, (runs_as_listed_iff_nodup_loaded exampleCrates_faithful examplePair_open).mpr
    (by decide)⟩

/-- The daemon opens with two rules under one id. A start of the id launches one of them, and the
list shows the other under the same id. -/
theorem exampleTwins_not_as_listed :
    openState exampleCrates exampleFaults (exampleDirectory exampleTwins) =
        .ok (exampleState (exampleDirectory exampleTwins) [exampleRule, exampleTwin]) ∧
      ¬ ∀ as, Along (System.step exampleCrates true) FreshId (System.opened
          (exampleState (exampleDirectory exampleTwins) [exampleRule, exampleTwin])) as →
        (run (System.step exampleCrates true) (System.opened
          (exampleState (exampleDirectory exampleTwins)
            [exampleRule, exampleTwin])) as).RunsAsListed := by
  refine ⟨openState_exampleDirectory (by decide +kernel) (by decide +kernel), fun h ↦ ?_⟩
  obtain ⟨hlaunch, hentry, hrules⟩ := launch_firstStart exampleCrates_faithful true
    (s := exampleState (exampleDirectory exampleTwins) [exampleRule, exampleTwin])
    ⟨rfl, rfl, rfl, rfl⟩ (show findRule _ exampleRule.id = some exampleRule by decide) rfl
  have hlisted := (h _ (fresh_firstStart _ exampleRule.id)).startingListed 0 _ exampleRule.id
    hlaunch hentry exampleTwin (by rw [hrules]; exact List.mem_cons_of_mem _ List.mem_cons_self) rfl
  exact absurd hlisted (by decide)

end TunnelDeck
