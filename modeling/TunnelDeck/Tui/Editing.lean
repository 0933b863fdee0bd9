import TunnelDeck.Daemon.Markers
import TunnelDeck.Daemon.Selection
import TunnelDeck.Tui.RuleView

/-!
# Editing a rule as it was listed

A client that edits an active rule sends the rule it saw next to the replacement, and the daemon
compares it with the rule it finds under the id. The comparison is between domain rules, so it is
only as good as the conversions on the way: from the domain rule to the wire rule of the list, into
the view of the client, back to a wire rule and to a domain rule.

All of these conversions lose nothing. What can still make the comparison fail is the lookup by the
id, when the configuration document that the daemon was opened with has two rules under one id.

## Main results

* `editReserve_changed_iff`: when the comparison refuses an edit.
* `round_trips_and_compares`: the conversions lose nothing, and the comparison lets through every
  rule as it was listed exactly if the loaded ids are distinct.
-/

namespace TunnelDeck.Tui

open Concurrency
open Json (Value)

variable {crates : Crates} {managed : Bool}

/-! ## The comparison -/

/-- How the daemon refuses an edit of a rule that is not the one the client saw. -/
def ruleChanged : Failure := (.conflict, "rule changed since editing began")

theorem invalidRules_ne_ruleChanged (crates : Crates) (errors : List ValidationError) :
    ((.conflict, (StoreError.invalidRules errors).toString crates) : Failure) ≠ ruleChanged := by
  intro h
  have htext : "invalid rule set: " ++ ValidationError.debugList crates.printable errors =
      "rule changed since editing began" := congrArg Prod.snd h
  have hhead := congrArg (fun s ↦ s.toList.head?) htext
  simp only [String.toList_append] at hhead
  rw [List.head?_append_of_ne_nil _ (by decide)] at hhead
  exact absurd hhead (by decide)

/-- **When the comparison refuses an edit**: another rule is found under the id, or the rule is
being edited. -/
theorem editReserve_changed_iff (edit : Edit) (s : State) :
    (editReserve crates edit s).1 = .error ruleChanged ↔
      ∃ current, findRule s.rules edit.id = some current ∧
        (current ≠ edit.expected ∨ edit.id ∈ s.editing) := by
  unfold editReserve
  constructor
  · intro h
    split at h
    · cases h
    · rename_i current hcurrent
      refine ⟨current, hcurrent, ?_⟩
      by_contra hsame
      rw [if_neg hsame] at h
      split at h
      · exact absurd (congrArg Prod.snd (Except.error.inj h)) (by decide)
      · split at h
        · exact invalidRules_ne_ruleChanged crates _ (Except.error.inj h)
        · cases h
  · rintro ⟨current, hcurrent, hrefused⟩
    rw [hcurrent]
    simp only [if_pos hrefused]
    rfl

/-! ## What the client sends -/

theorem parseEdit_editPayload (hcrates : crates.Faithful) {expected wire : WireRule}
    {replacement : Value} {rule next : Rule} (hexpected : Rule.ofWire expected = .ok rule)
    (hreplacement : decodeRule crates replacement = some wire) (hnext : Rule.ofWire wire = .ok next)
    (hid : next.id = rule.id) :
    parseEdit crates (editPayload crates expected replacement) = .ok ⟨rule, next, hid⟩ := by
  have hdecode : decodeEdit crates (editPayload crates expected replacement) =
      some (expected, wire) := by
    simp [decodeEdit, editPayload, Json.structFields, Json.field, List.lookup_cons,
      decodeRule_encodeRule hcrates, hreplacement]
  simp [parseEdit, hdecode, hexpected, hnext, hid]

/-- The comparison lets through every client that listed the rules in one state and edits in
another a rule that is still as it was listed, from the view it has of it. Only an edit in progress
may stand in its way. -/
def ComparesAsListed (crates : Crates) (seen current : State) : Prop :=
  ∀ listed status views, forwardList crates seen = .ok listed →
    loadRules crates listed status = .ok views →
    ∀ view ∈ views, ∀ rule ∈ current.rules, Rule.ofWire view.toWire = .ok rule →
    ∀ replacement wire next, decodeRule crates replacement = some wire →
      Rule.ofWire wire = .ok next → next.id = rule.id →
      ∃ edit, parseEdit crates (editPayload crates view.toWire replacement) = .ok edit ∧
        edit.expected = rule ∧ edit.replacement = next ∧
        ((editReserve crates edit current).1 = .error ruleChanged → edit.id ∈ current.editing)

/-- Distinct ids are enough. -/
theorem comparesAsListed_of_nodup (hcrates : crates.Faithful) (seen : State) {current : State}
    (hids : (current.rules.map Rule.id).Nodup) : ComparesAsListed crates seen current := by
  intro listed status views _ _ view _ rule hrule hview replacement wire next hreplacement hnext hid
  refine ⟨_, parseEdit_editPayload hcrates hview hreplacement hnext hid, rfl, rfl, ?_⟩
  intro hchanged
  obtain ⟨found, hfound, hdiffers | hediting⟩ := (editReserve_changed_iff _ _).mp hchanged
  · have hsame := hfound.symm.trans (findRule_of_mem hids hrule)
    exact absurd (Option.some.inj hsame) hdiffers
  · exact hediting

/-- A rule that the lookup of its id does not find is refused although it is as it was listed. -/
theorem findRule_of_comparesAsListed (hcrates : crates.Faithful) {s : State}
    (hvalid : validateRuleSet s.rules = .ok ()) (hediting : s.editing = ∅)
    (h : ComparesAsListed crates s s) {rule : Rule} (hrule : rule ∈ s.rules) :
    findRule s.rules rule.id = some rule := by
  have hlist : ∃ listed, forwardList crates s = .ok listed := by
    rw [forwardList, ConfigV2.fromDomain, hvalid]
    exact ⟨_, rfl⟩
  obtain ⟨listed, hlisted⟩ := hlist
  obtain ⟨views, hviews⟩ := loadRules_status hcrates 0 hlisted
  -- the rule is edited as it was listed, with itself as the replacement
  have hmem : WireRule.ofRule rule ∈ views.map RuleView.toWire := by
    rw [loadRules_spec hcrates hlisted hviews]
    exact List.mem_map_of_mem hrule
  obtain ⟨view, hview, hwire⟩ := List.mem_map.mp hmem
  have hview' : Rule.ofWire view.toWire = .ok rule := by rw [hwire, Rule.ofWire_ofRule]
  obtain ⟨edit, -, rfl, -, hcompared⟩ := h listed _ views hlisted hviews view hview rule hrule
    hview' _ _ rule (decodeRule_encodeRule hcrates (WireRule.ofRule rule))
    (Rule.ofWire_ofRule rule) rfl
  obtain ⟨found, hfound⟩ := Option.isSome_iff_exists.mp
    (findRule_isSome_iff.mpr (List.mem_map_of_mem hrule))
  by_contra hother
  have hne : found ≠ edit.expected := by
    rintro rfl
    exact hother hfound
  have hreserved := hcompared ((editReserve_changed_iff edit s).mpr ⟨found, hfound, Or.inl hne⟩)
  rw [hediting] at hreserved
  exact absurd hreserved (Finset.notMem_empty _)

/-! ## Runs of the daemon -/

/-- **The round trips of a rule, and the comparison that rests on them.** A domain rule survives the
wire, with or without a view in between; an accepted wire rule survives the domain; a valid set with
its settings survives a document. The comparison of an edit lets through every rule as it was
listed, at all times of all runs, exactly if the ids of the loaded rules are distinct. -/
theorem round_trips_and_compares (hcrates : crates.Faithful) {faults : OpenFaults}
    {directory : Directory} {s : State} (hopen : openState crates faults directory = .ok s) :
    (∀ rule : Rule, Rule.ofWire (WireRule.ofRule rule) = .ok rule ∧
      Rule.ofWire (RuleView.fromWire (WireRule.ofRule rule)).toWire = .ok rule) ∧
    (∀ wire rule, Rule.ofWire wire = .ok rule → WireRule.ofRule rule = wire) ∧
    (∀ rules settings, validateRuleSet rules = .ok () →
      ∃ config, ConfigV2.fromDomain rules settings = .ok config ∧
        config.intoDomain = .ok (rules, settings)) ∧
    ((∀ before after, ComparesAsListed crates
        (run (System.step crates managed) (System.opened s) before).shared.state
        (run (System.step crates managed) (System.opened s) (before ++ after)).shared.state) ↔
      (s.rules.map Rule.id).Nodup) := by
  refine ⟨fun rule ↦ ?_, fun wire rule ↦ ofRule_of_ofWire, fun rules settings hvalid ↦ ?_, ?_, ?_⟩
  · exact ⟨Rule.ofWire_ofRule rule, by rw [RuleView.toWire_fromWire, Rule.ofWire_ofRule]⟩
  · have hconfig : ∃ config, ConfigV2.fromDomain rules settings = .ok config := by
      rw [ConfigV2.fromDomain, hvalid]
      exact ⟨_, rfl⟩
    obtain ⟨config, hconfig⟩ := hconfig
    exact ⟨config, hconfig, (fromDomain_eq_ok hconfig).2.2⟩
  · -- the names of a valid set are distinct, so rules that the id finds are distinct by it too
    intro h
    have hvalid := (Persisted.of_open hcrates hopen).valid
    have hfound := fun rule (hrule : rule ∈ s.rules) ↦ findRule_of_comparesAsListed hcrates hvalid
      (idle_of_open hopen).editing (h [] []) hrule
    rw [List.nodup_map_iff_inj_on (nodup_names_of_valid hvalid).of_map]
    intro rule hrule other hother hid
    have hsame := (hfound rule hrule).symm.trans (hid ▸ hfound other hother)
    exact Option.some.inj hsame
  · intro hids before after
    refine comparesAsListed_of_nodup hcrates _ ?_
    exact invariant_run (System.step crates managed)
      (I := fun w ↦ (w.shared.state.rules.map Rule.id).Nodup)
      (fun _ _ h ↦ nodup_ids_exec hcrates _ h) hids (before ++ after)

/-- A document with two rules loads, and every edit of one as it was listed is compared well. -/
theorem round_trips_and_compares_examplePair :
    (examplePair.shared.state.rules.map Rule.id).Nodup ∧
      ∀ before after, ComparesAsListed exampleCrates
        (run (System.step exampleCrates true) examplePair before).shared.state
        (run (System.step exampleCrates true) examplePair (before ++ after)).shared.state :=
  ⟨by decide, (round_trips_and_compares exampleCrates_faithful examplePair_open).2.2.2.mpr
    (by decide)⟩

/-- The daemon opens with two rules under one id. A client that edits the second one as it was
listed is told that the rule changed. -/
theorem exampleTwins_not_compared :
    openState exampleCrates exampleFaults (exampleDirectory exampleTwins) =
        .ok (exampleState (exampleDirectory exampleTwins) [exampleRule, exampleTwin]) ∧
      (editReserve exampleCrates ⟨exampleTwin, exampleTwin, rfl⟩
          (exampleState (exampleDirectory exampleTwins) [exampleRule, exampleTwin])).1 =
        .error ruleChanged ∧
      ¬ ∀ before after, ComparesAsListed exampleCrates
        (run (System.step exampleCrates true) (System.opened
          (exampleState (exampleDirectory exampleTwins) [exampleRule, exampleTwin]))
          before).shared.state
        (run (System.step exampleCrates true) (System.opened
          (exampleState (exampleDirectory exampleTwins) [exampleRule, exampleTwin]))
          (before ++ after)).shared.state := by
  refine ⟨openState_exampleDirectory (by decide +kernel) (by decide +kernel), ?_, fun h ↦ ?_⟩
  · exact (editReserve_changed_iff _ _).mpr ⟨exampleRule, by decide, Or.inl (by decide)⟩
  · have hfound := findRule_of_comparesAsListed exampleCrates_faithful
      (s := exampleState (exampleDirectory exampleTwins) [exampleRule, exampleTwin])
      (by decide +kernel) rfl (h [] [])
      (show exampleTwin ∈ _ from List.mem_cons_of_mem _ List.mem_cons_self)
    exact absurd hfound (by decide)

end TunnelDeck.Tui
