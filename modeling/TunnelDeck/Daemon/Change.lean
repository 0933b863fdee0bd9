import TunnelDeck.Daemon.View

/-!
# Changes of the configuration

The rules of the daemon change in five ways: a client replaces, adds, imports or removes rules, or
an edit commits its replacement. `ConfigChange` lists what the first four, and an update of the
settings, may turn the configuration into and what they have checked before; `dispatch_spec` says
that `dispatch` does nothing else, and `editSave_spec` does the same for the edit.

The rules are a list that lookups search by id, so each change is read through `findRule` too.
-/

namespace TunnelDeck

open Json (Value)

/-! ## Rule lists -/

theorem id_of_findRule {rules : List Rule} {id : Uuid} {rule : Rule}
    (h : findRule rules id = some rule) : rule.id = id := by
  simpa using List.find?_some h

theorem mem_of_findRule {rules : List Rule} {id : Uuid} {rule : Rule}
    (h : findRule rules id = some rule) : rule ∈ rules :=
  List.mem_of_find?_eq_some h

theorem findRule_eq_none_iff {rules : List Rule} {id : Uuid} :
    findRule rules id = none ↔ id ∉ rules.map Rule.id := by
  simp [findRule, List.find?_eq_none]

theorem findRule_isSome_iff {rules : List Rule} {id : Uuid} :
    (findRule rules id).isSome = true ↔ id ∈ rules.map Rule.id := by
  rw [← Option.ne_none_iff_isSome, ne_eq, findRule_eq_none_iff, not_not]

theorem findRule_of_mem {rules : List Rule} (hids : (rules.map Rule.id).Nodup) {rule : Rule}
    (h : rule ∈ rules) : findRule rules rule.id = some rule := by
  obtain ⟨found, hfound⟩ := Option.isSome_iff_exists.mp
    (findRule_isSome_iff.mpr (List.mem_map_of_mem h))
  have hsame : found = rule :=
    List.inj_on_of_nodup_map hids (mem_of_findRule hfound) h (id_of_findRule hfound)
  rw [hfound, hsame]

section Replace

variable {id j : Uuid} {rule : Rule}

theorem findRule_replaceRule_self (hid : rule.id = id) {rules : List Rule}
    (h : (findRule rules id).isSome = true) :
    findRule (replaceRule id rule rules) id = some rule := by
  induction rules with
  | nil => cases h
  | cons r rs ih =>
    rw [replaceRule]
    split
    · simp [findRule, hid]
    · rename_i hr
      have htail : (findRule rs id).isSome = true := by
        simpa [findRule, List.find?_cons, hr] using h
      simpa [findRule, List.find?_cons, hr] using ih htail

theorem findRule_replaceRule_of_ne (hid : rule.id = id) (hj : j ≠ id) (rules : List Rule) :
    findRule (replaceRule id rule rules) j = findRule rules j := by
  induction rules with
  | nil => rfl
  | cons r rs ih =>
    rw [replaceRule]
    split
    · rename_i hr
      simp [findRule, hid, hr, hj.symm]
    · by_cases hrj : r.id = j
      · simp [findRule, hrj]
      · simpa [findRule, List.find?_cons, hrj] using ih

theorem map_id_replaceRule (hid : rule.id = id) (rules : List Rule) :
    (replaceRule id rule rules).map Rule.id = rules.map Rule.id := by
  induction rules with
  | nil => rfl
  | cons r rs ih =>
    rw [replaceRule]
    split
    · rename_i hr
      simp [hid, hr]
    · simp [ih]

theorem replaceRule_replaceRule (hid : rule.id = id) (next : Rule) (rules : List Rule) :
    replaceRule id next (replaceRule id rule rules) = replaceRule id next rules := by
  induction rules with
  | nil => rfl
  | cons r rs ih =>
    by_cases hr : r.id = id
    · simp [replaceRule, hr, hid]
    · simp [replaceRule, hr, ih]

theorem replaceRule_comm {other : Rule} (hid : rule.id = id) (hother : other.id = j) (hj : j ≠ id)
    (rules : List Rule) : replaceRule j other (replaceRule id rule rules) =
      replaceRule id rule (replaceRule j other rules) := by
  induction rules with
  | nil => rfl
  | cons r rs ih =>
    by_cases hr : r.id = id
    · have hrj : r.id ≠ j := fun h ↦ hj (h.symm.trans hr)
      have hidj : rule.id ≠ j := fun h ↦ hj (h.symm.trans hid)
      simp [replaceRule, hr, hj.symm, hidj]
    · by_cases hrj : r.id = j
      · simp [replaceRule, hrj, hj, hother]
      · simp [replaceRule, hr, hrj, ih]

theorem replaceRule_append (rule : Rule) {rules : List Rule} (new : List Rule)
    (h : (findRule rules id).isSome = true) :
    replaceRule id rule (rules ++ new) = replaceRule id rule rules ++ new := by
  induction rules with
  | nil => cases h
  | cons r rs ih =>
    by_cases hr : r.id = id
    · simp [replaceRule, hr]
    · have htail : (findRule rs id).isSome = true := by
        simpa [findRule, List.find?_cons, hr] using h
      simp [replaceRule, hr, ih htail]

theorem replaceRule_filter (hid : rule.id = id) (hj : j ≠ id) (rules : List Rule) :
    (replaceRule id rule rules).filter (fun r ↦ r.id ≠ j) =
      replaceRule id rule (rules.filter fun r ↦ r.id ≠ j) := by
  induction rules with
  | nil => rfl
  | cons r rs ih =>
    by_cases hr : r.id = id
    · simp [replaceRule, hr, hid, hj.symm]
    · by_cases hrj : r.id = j
      · simpa [replaceRule, hrj, hj] using ih
      · simpa [replaceRule, hr, hrj] using ih

theorem replaceRule_self {rules : List Rule} (h : findRule rules id = some rule) :
    replaceRule id rule rules = rules := by
  induction rules with
  | nil => rfl
  | cons r rs ih =>
    by_cases hr : r.id = id
    · obtain rfl : r = rule := by simpa [findRule, hr] using h
      simp [replaceRule, hr]
    · have htail : findRule rs id = some rule := by simpa [findRule, List.find?_cons, hr] using h
      simp [replaceRule, hr, ih htail]

end Replace

theorem findRule_append (rules new : List Rule) (id : Uuid) :
    findRule (rules ++ new) id = (findRule rules id).or (findRule new id) :=
  List.find?_append

theorem findRule_filter_of_ne {id j : Uuid} (h : j ≠ id) (rules : List Rule) :
    findRule (rules.filter fun rule ↦ rule.id ≠ id) j = findRule rules j := by
  induction rules with
  | nil => rfl
  | cons r rs ih =>
    by_cases hr : r.id = id
    · simpa [findRule, List.find?_cons, hr, h.symm] using ih
    · by_cases hrj : r.id = j
      · simp [findRule, hrj, h]
      · simpa [findRule, List.find?_cons, hr, hrj] using ih

theorem firstSeen_eq_none {seen : Finset Uuid} {ids : List Uuid} (h : firstSeen seen ids = none) :
    ids.Nodup ∧ ∀ id ∈ ids, id ∉ seen := by
  induction ids generalizing seen with
  | nil => simp
  | cons id ids ih =>
    rw [firstSeen] at h
    split at h
    · cases h
    · rename_i hid
      obtain ⟨hnodup, hseen⟩ := ih h
      have hnew : id ∉ ids := fun hmem ↦ hseen id hmem (Finset.mem_insert_self ..)
      refine ⟨List.nodup_cons.mpr ⟨hnew, hnodup⟩, ?_⟩
      rintro j (_ | ⟨_, hj⟩)
      · exact hid
      · exact fun hmem ↦ hseen j hj (Finset.mem_insert_of_mem hmem)

/-! ## What a client can change -/

/-- The rules and the settings that a request wants to turn the configuration into, with what it
has checked. -/
inductive ConfigChange (s : State) : List Rule → Settings → Prop
  | replace {rule : Rule} (hrule : (findRule s.rules rule.id).isSome = true)
      (hediting : rule.id ∉ s.editing) (hentry : s.running.lookup rule.id = none) :
    ConfigChange s (replaceRule rule.id rule s.rules) s.settings
  | add {rule : Rule} (hrule : findRule s.rules rule.id = none) (hediting : rule.id ∉ s.editing) :
    ConfigChange s (s.rules ++ [rule]) s.settings
  | importRules {imported : List Rule} (hnodup : (imported.map Rule.id).Nodup)
      (hnew : ∀ id ∈ imported.map Rule.id, findRule s.rules id = none) :
    ConfigChange s (s.rules ++ imported) s.settings
  | remove {id : Uuid} (hrule : (findRule s.rules id).isSome = true)
      (hediting : id ∉ s.editing) (hentry : s.running.lookup id = none) :
    ConfigChange s (s.rules.filter fun rule ↦ rule.id ≠ id) s.settings
  | settings (settings : Settings) : ConfigChange s s.rules settings

/-- **A change of the configuration leaves every running and every edited rule alone.** -/
theorem ConfigChange.findRule_eq {s : State} {rules : List Rule} {settings : Settings}
    (h : ConfigChange s rules settings) (id : Uuid) :
    findRule rules id = findRule s.rules id ∨ findRule s.rules id = none ∨
      (s.running.lookup id = none ∧ id ∉ s.editing) := by
  cases h with
  | @replace rule hrule hediting hentry =>
    by_cases hid : id = rule.id
    · exact Or.inr (Or.inr ⟨hid ▸ hentry, hid ▸ hediting⟩)
    · exact Or.inl (findRule_replaceRule_of_ne rfl hid _)
  | add hrule hediting =>
    cases hfind : findRule s.rules id with
    | none => exact Or.inr (Or.inl rfl)
    | some rule => exact Or.inl (by rw [findRule_append, hfind]; rfl)
  | importRules hnodup hnew =>
    cases hfind : findRule s.rules id with
    | none => exact Or.inr (Or.inl rfl)
    | some rule => exact Or.inl (by rw [findRule_append, hfind]; rfl)
  | @remove removed hrule hediting hentry =>
    by_cases hid : id = removed
    · exact Or.inr (Or.inr ⟨hid ▸ hentry, hid ▸ hediting⟩)
    · exact Or.inl (findRule_filter_of_ne hid _)
  | settings settings => exact Or.inl rfl

theorem ConfigChange.nodup {s : State} {rules : List Rule} {settings : Settings}
    (h : ConfigChange s rules settings) (hids : (s.rules.map Rule.id).Nodup) :
    (rules.map Rule.id).Nodup := by
  cases h with
  | replace hrule hediting hentry => rwa [map_id_replaceRule rfl]
  | add hrule hediting =>
    rw [List.map_append, List.nodup_append]
    refine ⟨hids, List.nodup_singleton _, ?_⟩
    rintro id hid j hj rfl
    rw [List.map_singleton, List.mem_singleton] at hj
    exact findRule_eq_none_iff.mp hrule (hj ▸ hid)
  | importRules hnodup hnew =>
    rw [List.map_append, List.nodup_append]
    refine ⟨hids, hnodup, ?_⟩
    rintro id hid j hj rfl
    exact findRule_eq_none_iff.mp (hnew id hj) hid
  | remove hrule hediting hentry => exact hids.sublist (List.filter_sublist.map _)
  | settings settings => exact hids

/-! ## What `dispatch` does -/

variable {crates : Crates}

/-- How a request handled under the lock can end: it changed nothing, its save failed, or the
document was replaced and the change taken over. -/
inductive Dispatched (crates : Crates) (s : State) : Handled → Prop
  | kept (reply : Reply) : Dispatched crates s (reply, [], s)
  | unsaved (error : StoreError) {directory : Directory}
      (hdirectory : directory configName = s.directory configName) :
    Dispatched crates s (.error (internal crates error), [], { s with directory })
  | committed (reply : Reply) (event : Event) {directory : Directory} {rules : List Rule}
      {settings : Settings} (hchange : ConfigChange s rules settings)
      (hvalid : validateRuleSet rules = .ok ())
      (hstored : stored crates directory = .ok ⟨rules, settings⟩)
      (hreply : ∀ failure, reply = .error failure → failure.1 = .internal) :
    Dispatched crates s (reply, [event], { s with directory, rules, settings })

theorem commitChange_spec (hcrates : crates.Faithful) {faults : SaveFaults} {s : State}
    {rules : List Rule} {settings : Settings} (hchange : ConfigChange s rules settings)
    (event : Event) (result : Value) :
    Dispatched crates s (commitChange crates faults rules settings event result s) := by
  rcases hsave : saveConfig crates faults s.directory rules settings with ⟨outcome, directory⟩
  simp only [commitChange, hsave]
  rcases saveConfig_spec hcrates hsave with ⟨hcommitted, hvalid, hstored⟩ | ⟨hnot, hkept⟩
  · cases outcome with
    | ok u => exact .committed _ event hchange hvalid hstored (by simp)
    | error e =>
      cases e with
      | durabilityUncertain error =>
        refine .committed _ event hchange hvalid hstored ?_
        rintro failure ⟨⟩
        rfl
      | io _ | decode _ | encode _ | unsupportedSchema _ | invalidRule _ | invalidRules _ =>
        cases hcommitted
  · cases outcome with
    | ok u => cases hnot
    | error e =>
      cases e with
      | durabilityUncertain error => cases hnot
      | io _ | decode _ | encode _ | unsupportedSchema _ | invalidRule _ | invalidRules _ =>
        exact .unsaved _ hkept

theorem commitRules_spec (hcrates : crates.Faithful) {faults : SaveFaults} {s : State}
    {rules : List Rule} (hchange : ConfigChange s rules s.settings) (payload : Value) :
    Dispatched crates s (commitRules crates faults rules payload s) := by
  unfold commitRules
  split
  · exact .kept _
  · exact commitChange_spec hcrates hchange _ payload

theorem forwardAdd_spec (hcrates : crates.Faithful) (faults : SaveFaults) (payload : Value)
    (s : State) : Dispatched crates s (forwardAdd crates faults payload s) := by
  unfold forwardAdd
  split
  · exact .kept _
  · split
    · exact .kept _
    · split
      · exact .kept _
      · rename_i hediting
        split
        · rename_i hfind
          split
          · exact .kept _
          · rename_i hentry
            exact commitRules_spec hcrates (.replace (by rw [hfind]; rfl) hediting
              (by simpa using hentry)) _
        · rename_i hfind
          exact commitRules_spec hcrates (.add hfind hediting) _

theorem forwardImport_spec (hcrates : crates.Faithful) (faults : SaveFaults) (payload : Value)
    (s : State) : Dispatched crates s (forwardImport crates faults payload s) := by
  unfold forwardImport
  split
  · exact .kept _
  · split
    · exact .kept _
    · split
      · exact .kept _
      · simp only
        split
        · exact .kept _
        · rename_i hseen
          obtain ⟨hnodup, hnew⟩ := firstSeen_eq_none hseen
          refine commitRules_spec hcrates (.importRules hnodup fun id hid ↦ ?_) _
          rw [findRule_eq_none_iff]
          exact fun hmem ↦ hnew id hid (List.mem_toFinset.mpr hmem)

theorem forwardRemove_spec (hcrates : crates.Faithful) (faults : SaveFaults) (payload : Value)
    (s : State) : Dispatched crates s (forwardRemove crates faults payload s) := by
  unfold forwardRemove
  split
  · exact .kept _
  · rename_i id hid
    split
    · exact .kept _
    · rename_i hediting
      split
      · exact .kept _
      · rename_i hentry
        simp only
        split
        · exact .kept _
        · rename_i hlength
          refine commitChange_spec hcrates (.remove ?_ hediting (by simpa using hentry)) _ _
          rw [findRule_isSome_iff]
          by_contra hmem
          refine hlength (congrArg List.length (List.filter_eq_self.mpr fun rule hrule ↦ ?_))
          have hne : rule.id ≠ id := fun heq ↦ hmem (heq ▸ List.mem_map_of_mem hrule)
          simpa using hne

theorem settingsUpdate_spec (hcrates : crates.Faithful) (faults : SaveFaults) (payload : Value)
    (s : State) : Dispatched crates s (settingsUpdate crates faults payload s) := by
  unfold settingsUpdate
  split
  · exact .kept _
  · exact commitChange_spec hcrates (.settings _) _ _

/-- **What a request handled under the lock does.** -/
theorem dispatch_spec (hcrates : crates.Faithful) (faults : SaveFaults) (now : ℕ)
    (request : Request) (s : State) :
    Dispatched crates s (dispatch crates faults now request s) := by
  unfold dispatch
  split
  · exact .kept _
  · exact forwardAdd_spec hcrates faults _ s
  · exact forwardImport_spec hcrates faults _ s
  · exact forwardRemove_spec hcrates faults _ s
  · exact .kept _
  · exact settingsUpdate_spec hcrates faults _ s
  · exact .kept _
  · exact .kept _
  · exact .kept _

/-! ## What an edit commits -/

/-- How the save of an edit can end: the rule is gone, the save failed, or the replacement is in
the place of the rule, on disk and in memory. -/
inductive EditSaved (crates : Crates) (edit : Edit) (s : State) :
    Option (Except StoreError Unit) → State → Prop
  | missing (hrule : findRule s.rules edit.id = none) : EditSaved crates edit s none s
  | unsaved {error : StoreError} (herror : committed (.error error) = false)
      (hrule : (findRule s.rules edit.id).isSome = true) {directory : Directory}
      (hdirectory : directory configName = s.directory configName) :
    EditSaved crates edit s (some (.error error)) { s with directory }
  | committed {outcome : Except StoreError Unit} (houtcome : committed outcome = true)
      (hrule : (findRule s.rules edit.id).isSome = true) {directory : Directory}
      (hvalid : validateRuleSet (replaceRule edit.id edit.replacement s.rules) = .ok ())
      (hstored : stored crates directory =
        .ok ⟨replaceRule edit.id edit.replacement s.rules, s.settings⟩) :
    EditSaved crates edit s (some outcome)
      { s with directory, rules := replaceRule edit.id edit.replacement s.rules }

theorem editSave_spec (hcrates : crates.Faithful) (faults : SaveFaults) (edit : Edit) (s : State) :
    EditSaved crates edit s (editSave crates faults edit s).1
      (editSave crates faults edit s).2 := by
  have hany : (s.rules.any fun rule ↦ decide (rule.id = edit.id)) = true ↔
      (findRule s.rules edit.id).isSome = true := by
    rw [findRule, List.find?_isSome, List.any_eq_true]
  unfold editSave
  split
  · rename_i hrule
    simp only
    split
    · exact .unsaved rfl (hany.mp hrule) rfl
    · rcases hsave : saveConfig crates faults s.directory
        (replaceRule edit.id edit.replacement s.rules) s.settings with ⟨outcome, directory⟩
      simp only
      rcases saveConfig_spec hcrates hsave with ⟨hcommitted, hvalid, hstored⟩ | ⟨hnot, hkept⟩
      · rw [if_pos hcommitted]
        exact .committed hcommitted (hany.mp hrule) hvalid hstored
      · rw [if_neg (by simp [hnot])]
        cases outcome with
        | ok u => cases hnot
        | error e => exact .unsaved hnot (hany.mp hrule) hkept
  · rename_i hrule
    refine .missing ?_
    rw [← Option.isNone_iff_eq_none, ← Option.not_isSome]
    simpa using fun h ↦ hrule (hany.mpr h)

end TunnelDeck
