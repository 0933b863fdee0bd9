import TunnelDeck.Application.SelectedRules
import TunnelDeck.Daemon.Configuration

/-!
# A selection is accepted

The preview, the selection and the daemon each decide with functions of their own whether a rule
can be added. They agree: what the preview calls supported, `selected_rules` builds and the daemon
accepts, whatever was selected of it, as long as the rules are the ones the preview was made for.
-/

namespace TunnelDeck

/-! ## The selected candidates -/

theorem ImportPreview.mem_chosen {preview : ImportPreview} {selected : Finset ℕ}
    {entry : ImportCandidate × ℕ} :
    entry ∈ preview.chosen selected ↔
      preview.candidate? entry.2 = some entry.1 ∧ entry.2 ∈ selected := by
  obtain ⟨candidate, id⟩ := entry
  rw [chosen, List.mem_filter, List.mk_mem_zipIdx_iff_le_and_getElem?_sub, decide_eq_true_iff]
  cases id with
  | zero => simp [candidate?]
  | succ index => simp [candidate?]

theorem ImportPreview.length_chosen {preview : ImportPreview} {selected : Finset ℕ}
    (h : ∀ id ∈ selected, (preview.candidate? id).isSome = true) :
    (preview.chosen selected).length = selected.card := by
  have hnodup : ((preview.chosen selected).map Prod.snd).Nodup := by
    have hall : ((preview.candidates.zipIdx 1).map Prod.snd).Nodup := by
      rw [List.zipIdx_map_snd]
      exact List.nodup_range'
    exact hall.sublist (List.filter_sublist.map _)
  have hmem : ((preview.chosen selected).map Prod.snd).toFinset = selected := by
    ext id
    rw [List.mem_toFinset, List.mem_map]
    constructor
    · rintro ⟨entry, hentry, rfl⟩
      exact (mem_chosen.mp hentry).2
    · intro hid
      obtain ⟨candidate, hcandidate⟩ := Option.isSome_iff_exists.mp (h id hid)
      exact ⟨(candidate, id), mem_chosen.mpr ⟨hcandidate, hid⟩, rfl⟩
  have hcard := List.toFinset_card_of_nodup hnodup
  rw [hmem, List.length_map] at hcard
  exact hcard.symm

theorem exists_of_forall₂ {α β : Type} {R : α → β → Prop} {as : List α} {bs : List β} {b : β}
    (h : List.Forall₂ R as bs) (hb : b ∈ bs) : ∃ a ∈ as, R a b := by
  induction h with
  | nil => nomatch hb
  | cons hab _ ih =>
    rcases List.mem_cons.mp hb with rfl | hb
    · exact ⟨_, List.mem_cons_self, hab⟩
    · obtain ⟨a, ha, hab'⟩ := ih hb
      exact ⟨a, List.mem_cons_of_mem _ ha, hab'⟩

theorem pairwise_of_forall₂ {α β : Type} {R : α → β → Prop} {S : α → α → Prop}
    {T : β → β → Prop} (hST : ∀ a a' b b', R a b → R a' b' → S a a' → T b b') {as : List α}
    {bs : List β} (h : List.Forall₂ R as bs) (hS : as.Pairwise S) : bs.Pairwise T := by
  induction h with
  | nil => exact List.Pairwise.nil
  | cons hab htail ih =>
    obtain ⟨hhead, hrest⟩ := List.pairwise_cons.mp hS
    refine List.pairwise_cons.mpr ⟨fun b' hb' ↦ ?_, ih hrest⟩
    obtain ⟨a', ha', hab'⟩ := exists_of_forall₂ htail hb'
    exact hST _ _ _ _ hab hab' (hhead a' ha')

section

variable {existing : List Rule} {preview : ImportPreview} {selected : Finset ℕ}
  {autoStart reconnect : Bool} {ids : ℕ → Uuid} {rules : List Rule}

/-- What holds of the supported candidates that were selected: they are pairwise different and in
no conflict. -/
theorem ImportPreview.Sound.chosen_apart (h : preview.Sound existing) (selected : Finset ℕ) :
    (preview.chosen selected).Pairwise fun earlier entry ↦
      ∀ other ∈ earlier.1.offer, ∀ forwarding ∈ entry.1.offer,
        other ≠ forwarding ∧ forwardsConflict forwarding other = false := by
  have hall := h.apart
  rw [← List.zipIdx_map_fst 1 preview.candidates, List.pairwise_map] at hall
  exact hall.sublist List.filter_sublist

theorem CreatedFrom.offer {entry : ImportCandidate × ℕ} {rule : Rule} {sshHostAlias : String}
    (h : CreatedFrom sshHostAlias autoStart reconnect ids entry rule) :
    entry.1.offer = some rule.candidate := by
  rw [ImportCandidate.offer_of_supported h.supported, h.forwarding]

/-- **The rules of a selection join the existing ones.** Names differ since each one was looked
for, and listeners since the preview compared the candidates as the validation compares rules. -/
theorem validateRuleSet_append (hvalid : validateRuleSet existing = .ok ())
    (hsound : preview.Sound existing)
    (hcreated : List.Forall₂ (CreatedFrom preview.sshHostAlias autoStart reconnect ids)
      (preview.chosen selected) rules)
    (hnames : (rules.map fun rule ↦ rule.name.asStr).Nodup)
    (hnew : ∀ rule ∈ rules, rule.name.asStr ∉
      (existing.map fun rule ↦ rule.name.asStr).toFinset) :
    validateRuleSet (existing ++ rules) = .ok () := by
  rw [validateRuleSet_eq_ok_iff, List.pairwise_append]
  refine ⟨(validateRuleSet_eq_ok_iff existing).mp hvalid, ?_, fun other hother rule hrule ↦ ?_⟩
  · have hclear : rules.Pairwise fun other rule ↦ ¬ listenersClash rule other = true := by
      refine pairwise_of_forall₂ (fun a a' b b' hb hb' h hclash ↦ ?_) hcreated
        (hsound.chosen_apart selected)
      have hconflict := conflictsRule_of_listenersClash hclash preview.sshHostAlias
      rw [forwardingConflictsRule_eq _ hb.host, (h _ hb.offer _ hb'.offer).2] at hconflict
      nomatch hconflict
    have hdistinct := List.pairwise_map.mp hnames
    refine hdistinct.imp₂ (fun _ _ hname hlistener hclash ↦ ?_) hclear
    exact hclash.elim (fun heq ↦ hname (congrArg Checked.asStr heq)) hlistener
  · rintro (hname | hclash)
    · refine hnew rule hrule (List.mem_toFinset.mpr (List.mem_map.mpr ⟨other, hother, ?_⟩))
      rw [hname]
    · obtain ⟨entry, hentry, hfrom⟩ := exists_of_forall₂ hcreated hrule
      have hmem : entry.1 ∈ preview.candidates :=
        List.fst_mem_of_mem_zipIdx (List.mem_filter.mp hentry).1
      have hfree := blockedBy_eq_false_iff.mp (hsound.free entry.1 hmem _ hfrom.offer)
      exact List.find?_eq_none.mp hfree.2 other hother
        (conflictsRule_of_listenersClash hclash preview.sshHostAlias)

end

theorem selectedRules_eq (hne : selected.Nonempty)
    (hselected : ∀ id ∈ selected, (preview.candidate? id).isSome = true) :
    selectedRules preview selected existing autoStart reconnect ids =
      selectFrom preview.sshHostAlias selected autoStart reconnect ids 0
        (existing.map fun rule ↦ rule.name.asStr).toFinset preview.candidates := by
  have hzero : ¬ (selected = ∅ ∨ 0 ∈ selected) := by
    rintro (hempty | hzero)
    · exact hne.ne_empty hempty
    · exact Bool.false_ne_true (hselected 0 hzero)
  have hle : ¬ ∃ id ∈ selected, preview.candidates.length < id := by
    rintro ⟨id, hid, hlt⟩
    have hsome := hselected id hid
    cases id with
    | zero => exact absurd hlt (Nat.not_lt_zero _)
    | succ index =>
      rw [ImportPreview.candidate?, List.getElem?_eq_none (by omega)] at hsome
      nomatch hsome
  rw [selectedRules, if_neg hzero, if_neg hle]

/-! ## The request -/

/-- The payload of `ForwardImport` for the rules of a selection. -/
def importPayload (crates : Crates) (rules : List Rule) : Json.Value :=
  .object [("rules", .array ((rules.map WireRule.ofRule).map (encodeRule crates)))]

theorem decodeImport_importPayload {crates : Crates} (h : crates.Faithful) (rules : List Rule) :
    decodeImport crates (importPayload crates rules) = some (rules.map WireRule.ofRule) := by
  have hitems (wires : List WireRule) :
      (wires.map (encodeRule crates)).mapM (decodeRule crates) = some wires := by
    induction wires with
    | nil => rfl
    | cons wire wires ih =>
      rw [List.map_cons, List.mapM_cons, decodeRule_encodeRule h, ih]
      rfl
  have hlist : Json.decodeList (decodeRule crates)
      (.array ((rules.map WireRule.ofRule).map (encodeRule crates))) =
        some (rules.map WireRule.ofRule) := hitems _
  rw [decodeImport, importPayload, Json.structFields_singleton]
  exact (Json.field_singleton "rules" _ _).trans hlist

theorem forwardImport_of_valid {crates : Crates} (h : crates.Faithful) (faults : SaveFaults)
    {rules : List Rule} (hne : rules ≠ []) {s : State}
    (hvalid : validateRuleSet (s.rules ++ rules) = .ok ()) :
    forwardImport crates faults (importPayload crates rules) s =
      match firstSeen (s.rules.map Rule.id).toFinset (rules.map Rule.id) with
      | some id =>
        (.error (.conflict, "imported rule ID already exists: " ++ crates.formatUuid id), [], s)
      | none =>
        let payload := ruleIdsPayload crates (rules.map Rule.id)
        commitChange crates faults (s.rules ++ rules) s.settings
          ⟨"configuration_changed", payload⟩ payload s := by
  cases hseen : firstSeen (s.rules.map Rule.id).toFinset (rules.map Rule.id) with
  | some id =>
    simp only [forwardImport, decodeImport_importPayload h, List.map_eq_nil_iff, hne, if_false,
      mapM_ofWire_ofRule, hseen]
  | none =>
    simp only [forwardImport, decodeImport_importPayload h, List.map_eq_nil_iff, hne, if_false,
      mapM_ofWire_ofRule, hseen, commitRules, hvalid]

/-- **A selection is accepted.** From a preview that was given, any supported candidates can be
selected: there is one rule for each of them, in their order, with the host of the preview and the
forwarding of its candidate, and together with the existing rules they are a valid set. So a daemon
that still has these rules refuses them neither for a name nor for a listener: it saves them,
unless an id that was drawn is taken. The bounds are those of any slice. -/
theorem selection_accepted {crates : Crates} (hcrates : crates.Faithful) {sshHostAlias : String}
    {output : ByteArray} {existing : List Rule} {runningRuleIds : List Uuid}
    {preview : ImportPreview} {selected : Finset ℕ} (houtput : output.size < 2 ^ 63)
    (hexisting : existing.length < 2 ^ 63) (hvalid : validateRuleSet existing = .ok ())
    (hpreview : previewEffectiveForwards sshHostAlias output existing runningRuleIds = .ok preview)
    (hne : selected.Nonempty)
    (hselected : ∀ id ∈ selected, ∃ candidate,
      preview.candidate? id = some candidate ∧ candidate.classification = .supported)
    (autoStart reconnect : Bool) (ids : ℕ → Uuid) :
    ∃ rules, selectedRules preview selected existing autoStart reconnect ids = .ok rules ∧
      rules.length = selected.card ∧
      List.Forall₂ (CreatedFrom preview.sshHostAlias autoStart reconnect ids)
        (preview.chosen selected) rules ∧
      validateRuleSet (existing ++ rules) = .ok () ∧
      ∀ (faults : SaveFaults) (s : State), s.rules = existing →
        forwardImport crates faults (importPayload crates rules) s =
          match firstSeen (existing.map Rule.id).toFinset (rules.map Rule.id) with
          | some id => (.error (.conflict,
              "imported rule ID already exists: " ++ crates.formatUuid id), [], s)
          | none =>
            let payload := ruleIdsPayload crates (rules.map Rule.id)
            commitChange crates faults (existing ++ rules) s.settings
              ⟨"configuration_changed", payload⟩ payload s := by
  have hsound := ImportPreview.sound hpreview
  have hlength := ImportPreview.length_candidates_le hpreview
  have hsome : ∀ id ∈ selected, (preview.candidate? id).isSome = true := by
    intro id hid
    obtain ⟨candidate, hcandidate, -⟩ := hselected id hid
    rw [hcandidate, Option.isSome_some]
  -- every candidate that was chosen is supported
  have hsupported : ∀ entry ∈ preview.chosen selected, entry.1.classification = .supported := by
    intro entry hentry
    obtain ⟨hentry, hid⟩ := ImportPreview.mem_chosen.mp hentry
    obtain ⟨candidate, hcandidate, hsupported⟩ := hselected entry.2 hid
    rw [Option.some.inj (hentry.symm.trans hcandidate), hsupported]
  -- there are enough suffixes to make every name unique
  have hcard : (existing.map fun rule ↦ rule.name.asStr).toFinset.card ≤ existing.length := by
    have h := List.toFinset_card_le (existing.map fun rule ↦ rule.name.asStr)
    rwa [List.length_map] at h
  obtain ⟨rules, hrules, hnames, hnew⟩ := selectFrom_ok ⟨_, hsound.host⟩ selected autoStart
    reconnect ids hsound.valid
    (fun entry hentry hid ↦ hsupported entry (List.mem_filter.mpr ⟨hentry, by simpa using hid⟩))
    (by omega : 0 + 2 * preview.candidates.length +
      (existing.map fun rule ↦ rule.name.asStr).toFinset.card ≤ 10 ^ 100)
  have hcreated := selectFrom_created ⟨_, hsound.host⟩ hsound.valid hrules
  have hall := validateRuleSet_append hvalid hsound hcreated hnames hnew
  have hcount : rules.length = selected.card := by
    rw [← hcreated.length_eq]
    exact ImportPreview.length_chosen hsome
  refine ⟨rules, (selectedRules_eq hne hsome).trans hrules, hcount, hcreated, hall,
    fun faults s hs ↦ ?_⟩
  have hrules_ne : rules ≠ [] := by
    intro hnil
    rw [hnil, List.length_nil] at hcount
    exact hne.card_ne_zero hcount.symm
  subst hs
  exact forwardImport_of_valid hcrates faults hrules_ne hall

/-! ### An example -/

/-- An output with a local forward, a remote one and a dynamic one on the port of the first. -/
def exampleOutput : String :=
  "localforward 3000 [::1]:80\nremoteforward 9000 example.com:90\ndynamicforward [*]:3000\n"

/-- Its preview for the host of the example rule. -/
def exampleOffers : ImportPreview where
  sshHostAlias := "production"
  candidates :=
    [⟨.localDirective, some (.localForward "localhost" 3000 "::1" 80), .supported⟩,
      ⟨.remoteDirective, some (.remoteForward "localhost" 9000 "example.com" 90), .supported⟩,
      ⟨.dynamicDirective, some (.dynamicForward "*" 3000), .conflict none false⟩]

theorem exampleOffers_eq :
    previewEffectiveForwards "production" exampleOutput.toByteArray [exampleRule] [] =
      .ok exampleOffers := by
  rw [previewEffectiveForwards_eq_ok_iff]
  exact ⟨by decide, exampleOutput, dif_pos exampleOutput.isValidUTF8, by decide +kernel⟩

/-- The two supported candidates can be saved together. -/
theorem selection_accepted_exampleOffers :
    ∃ rules, selectedRules exampleOffers {1, 2} [exampleRule] false true (BitVec.ofNat 128) =
        .ok rules ∧ rules.length = 2 ∧ validateRuleSet ([exampleRule] ++ rules) = .ok () := by
  obtain ⟨rules, hrules, hlength, -, hvalid, -⟩ :=
    selection_accepted exampleCrates_faithful (by decide +kernel) (by decide) (by decide +kernel)
      exampleOffers_eq (by decide : ({1, 2} : Finset ℕ).Nonempty) (by decide +kernel) false true
      (BitVec.ofNat 128)
  exact ⟨rules, hrules, hlength, hvalid⟩

end TunnelDeck
