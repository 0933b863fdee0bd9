import TunnelDeck.Application.ImportedRules

/-!
# Importing again

After an import the same output is previewed against the existing rules followed by the new ones.
The two runs of the preview stay in step: the second one keeps the accepted forwardings of the
first without the ones that became rules. A candidate that became a rule is now a duplicate of it.
One that was supported and not selected is in conflict with no accepted forwarding, hence with no
new rule. And what an accepted forwarding was in conflict with is in conflict with the rule it
became, by `Screening.next_without`.
-/

namespace TunnelDeck

open Screening (Admits)

/-! ## Classifications -/

namespace ImportClassification

/-- The classification apart from the flag that says whether the rule runs. -/
def withoutRunning : ImportClassification → ImportClassification
  | .duplicateRule ruleId _ => .duplicateRule ruleId false
  | .conflict ruleId _ => .conflict ruleId false
  | .supported => .supported
  | .duplicateDirective firstIndex => .duplicateDirective firstIndex
  | .unsupported reason => .unsupported reason
  | .invalid reason => .invalid reason

/-- The candidate is in conflict with a rule or with an earlier candidate. -/
def IsConflict (classification : ImportClassification) : Prop :=
  ∃ ruleId running, classification = .conflict ruleId running

theorem IsConflict.ne_supported {classification : ImportClassification}
    (h : classification.IsConflict) : classification ≠ .supported := by
  obtain ⟨ruleId, running, rfl⟩ := h
  exact fun heq ↦ nomatch heq

theorem eq_supported_of_withoutRunning {classification : ImportClassification}
    (h : classification.withoutRunning = .supported) : classification = .supported := by
  cases classification with
  | supported => rfl
  | duplicateDirective | duplicateRule | conflict | unsupported | invalid => nomatch h

end ImportClassification

section

variable {sshHostAlias : String} {forwarding : ImportForwarding}
  {seen : AList fun _ : ImportForwarding ↦ ℕ} {accepted : List ImportForwarding}
  {existing : List Rule} {running : Finset Uuid}

theorem classify_of_seen {firstIndex : ℕ} (h : seen.lookup forwarding = some firstIndex) :
    classify sshHostAlias forwarding seen accepted existing running =
      .duplicateDirective firstIndex := by
  simp only [classify, h]

theorem classify_of_match {rule : Rule} (hseen : seen.lookup forwarding = none)
    (h : (existing.filter fun rule ↦ rule.sshHostAlias.asStr = sshHostAlias).find?
      (forwardingMatchesRule forwarding) = some rule) :
    classify sshHostAlias forwarding seen accepted existing running =
      .duplicateRule rule.id (rule.id ∈ running) := by
  simp only [classify, hseen, h]

theorem classify_of_new (hseen : seen.lookup forwarding = none)
    (h : (existing.filter fun rule ↦ rule.sshHostAlias.asStr = sshHostAlias).find?
      (forwardingMatchesRule forwarding) = none) :
    classify sshHostAlias forwarding seen accepted existing running = .supported ∨
      (classify sshHostAlias forwarding seen accepted existing running).IsConflict := by
  simp only [classify, hseen, h]
  split
  · exact Or.inr ⟨_, _, rfl⟩
  · split
    · exact Or.inr ⟨_, _, rfl⟩
    · exact Or.inl rfl

end

/-! ## The existing rules followed by the new ones -/

section

variable {sshHostAlias : String} {rules : List Rule}

/-- The new rules block the forwardings they were made of and what is in conflict with these. -/
theorem blockedBy_append (existing : List Rule)
    (hhost : ∀ rule ∈ rules, rule.sshHostAlias.asStr = sshHostAlias) :
    blockedBy sshHostAlias (existing ++ rules) =
      Screening.reserve forwardsConflict (blockedBy sshHostAlias existing)
        (rules.map Rule.candidate) := by
  funext forwarding
  have hrule (rule : Rule) (h : rule ∈ rules) :
      ((rule.sshHostAlias.asStr = sshHostAlias && forwardingMatchesRule forwarding rule) ||
          forwardingConflictsRule sshHostAlias forwarding rule) = true ↔
        forwarding = rule.candidate ∨ forwardsConflict forwarding rule.candidate = true := by
    rw [forwardingConflictsRule_eq forwarding (hhost rule h), Bool.or_eq_true, Bool.and_eq_true,
      forwardingMatchesRule_iff, decide_eq_true_iff, and_iff_right (hhost rule h)]
  rw [blockedBy, List.any_append, Screening.reserve, Bool.or_assoc]
  refine congrArg (blockedBy sshHostAlias existing forwarding || ·) (Bool.eq_iff_iff.mpr ?_)
  rw [List.any_eq_true, Bool.or_eq_true, decide_eq_true_iff, List.mem_map, List.any_map,
    List.any_eq_true]
  constructor
  · rintro ⟨rule, hmem, hblocks⟩
    rcases (hrule rule hmem).mp hblocks with heq | hconflict
    · exact Or.inl ⟨rule, hmem, heq.symm⟩
    · exact Or.inr ⟨rule, hmem, hconflict⟩
  · rintro (⟨rule, hmem, heq⟩ | ⟨rule, hmem, hconflict⟩)
    · exact ⟨rule, hmem, (hrule rule hmem).mpr (Or.inl heq.symm)⟩
    · exact ⟨rule, hmem, (hrule rule hmem).mpr (Or.inr hconflict)⟩

theorem find?_append_of_created {existing : List Rule} {rule : Rule}
    (hhost : ∀ rule ∈ rules, rule.sshHostAlias.asStr = sshHostAlias)
    (hnodup : (rules.map Rule.candidate).Nodup) (hrule : rule ∈ rules)
    (hnone : (existing.filter fun rule ↦ rule.sshHostAlias.asStr = sshHostAlias).find?
      (forwardingMatchesRule rule.candidate) = none) :
    ((existing ++ rules).filter fun rule ↦ rule.sshHostAlias.asStr = sshHostAlias).find?
      (forwardingMatchesRule rule.candidate) = some rule := by
  rw [List.filter_append, List.find?_append, hnone, Option.none_or]
  have hsome : ((rules.filter fun rule ↦ rule.sshHostAlias.asStr = sshHostAlias).find?
      (forwardingMatchesRule rule.candidate)).isSome = true := by
    rw [List.find?_isSome]
    exact ⟨rule, List.mem_filter.mpr ⟨hrule, decide_eq_true (hhost rule hrule)⟩,
      (forwardingMatchesRule_iff _ _).mpr rfl⟩
  obtain ⟨found, hfound⟩ := Option.isSome_iff_exists.mp hsome
  have hmem := (List.mem_filter.mp (List.mem_of_find?_eq_some hfound)).1
  have hmatch := (forwardingMatchesRule_iff _ _).mp (List.find?_some hfound)
  rw [hfound, List.inj_on_of_nodup_map hnodup hrule hmem hmatch]

variable (sshHostAlias) in
theorem find?_append_of_not_mem (existing : List Rule) {forwarding : ImportForwarding}
    (hnot : forwarding ∉ rules.map Rule.candidate) :
    ((existing ++ rules).filter fun rule ↦ rule.sshHostAlias.asStr = sshHostAlias).find?
        (forwardingMatchesRule forwarding) =
      (existing.filter fun rule ↦ rule.sshHostAlias.asStr = sshHostAlias).find?
        (forwardingMatchesRule forwarding) := by
  have hnone : (rules.filter fun rule ↦ rule.sshHostAlias.asStr = sshHostAlias).find?
      (forwardingMatchesRule forwarding) = none := by
    rw [List.find?_eq_none]
    intro rule hrule hmatch
    refine hnot (List.mem_map.mpr ⟨rule, (List.mem_filter.mp hrule).1, ?_⟩)
    exact ((forwardingMatchesRule_iff _ _).mp hmatch).symm
  rw [List.filter_append, List.find?_append, hnone, Option.or_none]

end

/-! ## Two previews in step -/

/-- What becomes of a candidate in the second preview, when the rules `rules` were added. -/
inductive Repeated (rules : List Rule) : ImportCandidate → ImportCandidate → Prop
  | saved (kind : DirectiveKind) (rule : Rule) (h : rule ∈ rules) (running : Bool) :
    Repeated rules ⟨kind, some rule.candidate, .supported⟩
      ⟨kind, some rule.candidate, .duplicateRule rule.id running⟩
  | offered (kind : DirectiveKind) (forwarding : ImportForwarding)
      (h : forwarding ∉ rules.map Rule.candidate) :
    Repeated rules ⟨kind, some forwarding, .supported⟩ ⟨kind, some forwarding, .supported⟩
  | conflict (kind : DirectiveKind) (forwarding : ImportForwarding)
      {c c' : ImportClassification} (h : c.IsConflict) (h' : c'.IsConflict) :
    Repeated rules ⟨kind, some forwarding, c⟩ ⟨kind, some forwarding, c'⟩
  | unchanged (kind : DirectiveKind) (forwarding : Option ImportForwarding)
      {c c' : ImportClassification} (hsupported : c ≠ .supported) (hconflict : ¬ c.IsConflict)
      (h : c'.withoutRunning = c.withoutRunning) :
    Repeated rules ⟨kind, forwarding, c⟩ ⟨kind, forwarding, c'⟩

/-- What is supported in the second preview was supported in the first and did not become a
rule. -/
theorem Repeated.of_supported {rules : List Rule} {candidate candidate' : ImportCandidate}
    (h : Repeated rules candidate candidate')
    (hsupported : candidate'.classification = .supported) :
    candidate.classification = .supported ∧
      ∃ f, candidate.forwarding = some f ∧ f ∉ rules.map Rule.candidate := by
  cases h with
  | saved => nomatch hsupported
  | offered kind forwarding hnot => exact ⟨rfl, forwarding, rfl, hnot⟩
  | conflict kind forwarding _ hconflict => exact absurd hsupported hconflict.ne_supported
  | unchanged kind forwarding hne _ hsame =>
    simp only at hsupported
    rw [hsupported] at hsame
    exact absurd (ImportClassification.eq_supported_of_withoutRunning hsame.symm) hne

/-- The scan of the second preview beside the scan of the first. -/
structure Replays (rules : List Rule) (scan scan' : PreviewScan) : Prop where
  seen : scan'.seen = scan.seen
  accepted : scan'.accepted = scan.accepted.filter fun f ↦ f ∉ rules.map Rule.candidate
  candidates : List.Forall₂ (Repeated rules) scan.candidates scan'.candidates

theorem Replays.empty (rules : List Rule) :
    Replays rules PreviewScan.empty PreviewScan.empty where
  seen := rfl
  accepted := rfl
  candidates := List.Forall₂.nil

section

variable {sshHostAlias : String} {existing rules : List Rule} {running running' : Finset Uuid}
  {scan scan' : PreviewScan}

theorem Replays.screen (h : Replays rules scan scan') :
    scan'.screen = scan.screen.without (rules.map Rule.candidate) := by
  rw [PreviewScan.screen, h.seen, h.accepted]
  rfl

/-- What the second preview makes of a forwarding. -/
theorem Replays.repeated (h : Replays rules scan scan')
    (hhost : ∀ rule ∈ rules, rule.sshHostAlias.asStr = sshHostAlias)
    (hnodup : (rules.map Rule.candidate).Nodup) {forwarding : ImportForwarding}
    (hadmits : Admits forwardsConflict (blockedBy sshHostAlias (existing ++ rules)) scan'.screen
        forwarding ↔
      Admits forwardsConflict (blockedBy sshHostAlias existing) scan.screen forwarding ∧
        forwarding ∉ rules.map Rule.candidate)
    (hnew : forwarding ∉ scan.screen.seen → forwarding ∈ rules.map Rule.candidate →
      Admits forwardsConflict (blockedBy sshHostAlias existing) scan.screen forwarding)
    (kind : DirectiveKind) :
    Repeated rules
      ⟨kind, some forwarding,
        classify sshHostAlias forwarding scan.seen scan.accepted existing running⟩
      ⟨kind, some forwarding,
        classify sshHostAlias forwarding scan'.seen scan'.accepted (existing ++ rules)
          running'⟩ := by
  rw [← PreviewScan.classify_eq_supported_iff running',
    ← PreviewScan.classify_eq_supported_iff running] at hadmits
  cases hlookup : scan.seen.lookup forwarding with
  | some firstIndex =>
    have hlookup' : scan'.seen.lookup forwarding = some firstIndex := h.seen ▸ hlookup
    rw [classify_of_seen hlookup, classify_of_seen hlookup']
    exact .unchanged kind _ (fun heq ↦ by cases heq) (by rintro ⟨_, _, heq⟩; cases heq) rfl
  | none =>
    have hlookup' : scan'.seen.lookup forwarding = none := h.seen ▸ hlookup
    cases hfind : (existing.filter fun rule ↦ rule.sshHostAlias.asStr = sshHostAlias).find?
        (forwardingMatchesRule forwarding) with
    | some rule =>
      have hfind' : ((existing ++ rules).filter fun rule ↦
          rule.sshHostAlias.asStr = sshHostAlias).find? (forwardingMatchesRule forwarding) =
            some rule := by
        rw [List.filter_append, List.find?_append, hfind, Option.some_or]
      rw [classify_of_match hlookup hfind, classify_of_match hlookup' hfind']
      exact .unchanged kind _ (fun heq ↦ by cases heq) (by rintro ⟨_, _, heq⟩; cases heq) rfl
    | none =>
      by_cases hmem : forwarding ∈ rules.map Rule.candidate
      · have hunseen : forwarding ∉ scan.screen.seen := by
          rw [PreviewScan.screen, List.mem_toFinset, ← AList.mem_keys, ← AList.lookup_eq_none]
          exact hlookup
        have hsupported :=
          (PreviewScan.classify_eq_supported_iff running _ _).mpr (hnew hunseen hmem)
        obtain ⟨rule, hrule, rfl⟩ := List.mem_map.mp hmem
        rw [hsupported,
          classify_of_match hlookup' (find?_append_of_created hhost hnodup hrule hfind)]
        exact .saved kind rule hrule _
      · have hfind' := (find?_append_of_not_mem sshHostAlias existing hmem).trans hfind
        rcases classify_of_new hlookup hfind with hsupported | hconflict
        · rw [hsupported, hadmits.mpr ⟨hsupported, hmem⟩]
          exact .offered kind forwarding hmem
        · rcases classify_of_new hlookup' hfind' with hsupported | hconflict'
          · obtain ⟨ruleId, flag, heq⟩ := hconflict
            cases heq.symm.trans (hadmits.mp hsupported).1
          · exact .conflict kind forwarding hconflict hconflict'

theorem Replays.push_error (h : Replays rules scan scan') (kind : DirectiveKind)
    (failure : ParseFailure) :
    Replays rules (scan.push sshHostAlias existing running kind (.error failure))
      (scan'.push sshHostAlias (existing ++ rules) running' kind (.error failure)) := by
  cases failure with
  | unsupported reason =>
    exact ⟨h.seen, h.accepted, List.rel_append h.candidates (List.Forall₂.cons (.unchanged kind none
      (fun heq ↦ nomatch heq) (fun ⟨_, _, heq⟩ ↦ nomatch heq) rfl) List.Forall₂.nil)⟩
  | invalid reason =>
    exact ⟨h.seen, h.accepted, List.rel_append h.candidates (List.Forall₂.cons (.unchanged kind none
      (fun heq ↦ nomatch heq) (fun ⟨_, _, heq⟩ ↦ nomatch heq) rfl) List.Forall₂.nil)⟩

/-- A forwarding keeps the scans in step, when the new rules were made of forwardings that the first
preview accepts in the end. -/
theorem Replays.push_ok (h : Replays rules scan scan')
    (hhost : ∀ rule ∈ rules, rule.sshHostAlias.asStr = sshHostAlias)
    (hnodup : (rules.map Rule.candidate).Nodup)
    (hsound : Screening.Sound forwardsConflict (blockedBy sshHostAlias existing) scan.screen)
    {forwarding : ImportForwarding} {later : List ImportForwarding}
    (hheld : ∀ f ∈ rules.map Rule.candidate,
      f ∈ (Screening.run forwardsConflict (blockedBy sshHostAlias existing) scan.screen
        (forwarding :: later)).accepted) (kind : DirectiveKind) :
    Replays rules (scan.push sshHostAlias existing running kind (.ok forwarding))
      (scan'.push sshHostAlias (existing ++ rules) running' kind (.ok forwarding)) := by
  have hfinal := hsound.run (forwarding :: later)
  have hblocked := blockedBy_append existing hhost
  constructor
  · simp only [PreviewScan.push, h.seen, h.candidates.length_eq]
  · have hscreen := Screening.next_without forwardsConflict_comm hfinal hheld
    rw [← h.screen, ← hblocked, ← PreviewScan.screen_push_ok running' scan' kind,
      ← PreviewScan.screen_push_ok running scan kind] at hscreen
    exact congrArg Screening.Screen.accepted hscreen
  · refine List.rel_append h.candidates (List.Forall₂.cons ?_ List.Forall₂.nil)
    refine h.repeated hhost hnodup ?_ (fun hunseen hmem ↦ ?_) kind
    · rw [h.screen, hblocked]
      exact Screening.admits_without_iff forwardsConflict_comm hfinal hheld
    · exact Screening.admits_of_mem_accepted hsound hunseen (hheld _ hmem)

/-- **Previewing again.** The lines of the output keep the two scans in step. -/
theorem Replays.lines (h : Replays rules scan scan')
    (hhost : ∀ rule ∈ rules, rule.sshHostAlias.asStr = sshHostAlias)
    (hnodup : (rules.map Rule.candidate).Nodup)
    (hsound : Screening.Sound forwardsConflict (blockedBy sshHostAlias existing) scan.screen)
    (localDefaultBind : String) {ls : List (List Char)}
    (hheld : ∀ f ∈ rules.map Rule.candidate,
      f ∈ (ls.foldl (PreviewScan.line sshHostAlias existing running localDefaultBind)
        scan).accepted) :
    Replays rules (ls.foldl (PreviewScan.line sshHostAlias existing running localDefaultBind) scan)
      (ls.foldl (PreviewScan.line sshHostAlias (existing ++ rules) running' localDefaultBind)
        scan') := by
  induction ls generalizing scan scan' with
  | nil => exact h
  | cons l ls ih =>
    rw [List.foldl_cons, List.foldl_cons]
    refine ih ?_ ?_ hheld
    · simp only [PreviewScan.accepted_lines] at hheld
      rw [PreviewScan.line, PreviewScan.line]
      cases hdirective : directive localDefaultBind l with
      | none => exact h
      | some read =>
        obtain ⟨kind, parsed⟩ := read
        cases parsed with
        | error failure => exact h.push_error kind failure
        | ok forwarding =>
          -- the forwardings that are read from here on are this one and those of the later lines
          have hline : lineForwarding localDefaultBind l = some forwarding := by
            rw [lineForwarding, hdirective]
          rw [List.filterMap_cons_some hline] at hheld
          exact h.push_ok hhost hnodup hsound hheld kind
    · rw [PreviewScan.screen_line]
      exact hsound.run _

end

/-! ## The rules of a selection -/

theorem getElem?_of_forall₂ {α β : Type} {R : α → β → Prop} {as : List α} {bs : List β} {i : ℕ}
    {a : α} (h : List.Forall₂ R as bs) (ha : as[i]? = some a) : ∃ b, bs[i]? = some b ∧ R a b := by
  induction h generalizing i with
  | nil => nomatch ha
  | cons hab _ ih =>
    cases i with
    | zero =>
      cases ha
      exact ⟨_, rfl, hab⟩
    | succ i => exact ih ha

theorem ImportPreview.Sound.offer_inj {existing : List Rule} {preview : ImportPreview}
    (h : preview.Sound existing) {id id' : ℕ} {candidate candidate' : ImportCandidate}
    (hid : preview.candidate? id = some candidate) (hid' : preview.candidate? id' = some candidate')
    {forwarding : ImportForwarding} (hoffer : candidate.offer = some forwarding)
    (hoffer' : candidate'.offer = some forwarding) : id = id' := by
  cases id with
  | zero => nomatch hid
  | succ i =>
    cases id' with
    | zero => nomatch hid'
    | succ j =>
      obtain ⟨hi, hc⟩ := List.getElem?_eq_some_iff.mp hid
      obtain ⟨hj, hc'⟩ := List.getElem?_eq_some_iff.mp hid'
      have hapart := List.pairwise_iff_getElem.mp h.apart
      rw [← hc] at hoffer
      rw [← hc'] at hoffer'
      rcases Nat.lt_trichotomy i j with hlt | rfl | hlt
      · exact absurd rfl (hapart i j hi hj hlt _ hoffer _ hoffer').1
      · rfl
      · exact absurd rfl (hapart j i hj hi hlt _ hoffer' _ hoffer).1

section

variable {existing : List Rule} {preview : ImportPreview} {selected : Finset ℕ}
  {autoStart reconnect : Bool} {ids : ℕ → Uuid} {rules : List Rule}

/-- A selection that succeeds was one of ids of candidates, and its rules were created from them. -/
theorem created_of_selectedRules (hsound : preview.Sound existing)
    (h : selectedRules preview selected existing autoStart reconnect ids = .ok rules) :
    List.Forall₂ (CreatedFrom preview.sshHostAlias autoStart reconnect ids)
      (preview.chosen selected) rules := by
  rw [selectedRules] at h
  split at h
  · cases h
  · split at h
    · cases h
    · exact selectFrom_created ⟨_, hsound.host⟩ hsound.valid h

theorem exists_created {id : ℕ} {candidate : ImportCandidate}
    (hcreated : List.Forall₂ (CreatedFrom preview.sshHostAlias autoStart reconnect ids)
      (preview.chosen selected) rules) (hid : preview.candidate? id = some candidate)
    (hselected : id ∈ selected) :
    ∃ rule ∈ rules,
      CreatedFrom preview.sshHostAlias autoStart reconnect ids (candidate, id) rule := by
  have hflip : List.Forall₂ (flip (CreatedFrom preview.sshHostAlias autoStart reconnect ids)) rules
      (preview.chosen selected) := hcreated.flip
  exact exists_of_forall₂ hflip (ImportPreview.mem_chosen.mpr ⟨hid, hselected⟩)

theorem mem_selected_of_created {id : ℕ} {candidate : ImportCandidate} {rule : Rule}
    (hsound : preview.Sound existing)
    (hcreated : List.Forall₂ (CreatedFrom preview.sshHostAlias autoStart reconnect ids)
      (preview.chosen selected) rules) (hid : preview.candidate? id = some candidate)
    (hrule : rule ∈ rules) (hoffer : candidate.offer = some rule.candidate) : id ∈ selected := by
  obtain ⟨entry, hentry, hfrom⟩ := exists_of_forall₂ hcreated hrule
  obtain ⟨hentry, hselected⟩ := ImportPreview.mem_chosen.mp hentry
  rw [hsound.offer_inj hid hentry hoffer hfrom.offer]
  exact hselected

theorem nodup_candidates (hsound : preview.Sound existing)
    (hcreated : List.Forall₂ (CreatedFrom preview.sshHostAlias autoStart reconnect ids)
      (preview.chosen selected) rules) : (rules.map Rule.candidate).Nodup := by
  rw [List.Nodup, List.pairwise_map]
  exact pairwise_of_forall₂ (fun _ _ _ _ h h' hapart ↦ (hapart _ h.offer _ h'.offer).1) hcreated
    (hsound.chosen_apart selected)

end

/-- The second preview is given, and its candidates are those of the first in step. -/
theorem previewEffectiveForwards_append {sshHostAlias : String} {output : ByteArray}
    {existing rules : List Rule} {runningRuleIds : List Uuid} {preview : ImportPreview}
    {selected : Finset ℕ} {autoStart reconnect : Bool} {ids : ℕ → Uuid}
    (hpreview : previewEffectiveForwards sshHostAlias output existing runningRuleIds = .ok preview)
    (hcreated : List.Forall₂ (CreatedFrom preview.sshHostAlias autoStart reconnect ids)
      (preview.chosen selected) rules) (runningRuleIds' : List Uuid) :
    ∃ preview', previewEffectiveForwards sshHostAlias output (existing ++ rules) runningRuleIds' =
        .ok preview' ∧
      List.Forall₂ (Repeated rules) preview.candidates preview'.candidates := by
  have hnodup := nodup_candidates (ImportPreview.sound hpreview) hcreated
  obtain ⟨hhost, text, htext, rfl⟩ := previewEffectiveForwards_eq_ok_iff.mp hpreview
  refine ⟨_, previewEffectiveForwards_eq_ok_iff.mpr ⟨hhost, text, htext, rfl⟩, ?_⟩
  have hscan := PreviewScan.sound_ofText sshHostAlias existing runningRuleIds.toFinset text
  have hrules : ∀ rule ∈ rules, rule.sshHostAlias.asStr = sshHostAlias := by
    intro rule hrule
    obtain ⟨entry, -, hfrom⟩ := exists_of_forall₂ hcreated hrule
    exact hfrom.host
  refine ((Replays.empty rules).lines hrules hnodup Screening.Sound.empty _ ?_).candidates
  -- what the rules were made of was accepted
  intro forwarding hforwarding
  obtain ⟨rule, hrule, rfl⟩ := List.mem_map.mp hforwarding
  obtain ⟨entry, hentry, hfrom⟩ := exists_of_forall₂ hcreated hrule
  have hmem := List.fst_mem_of_mem_zipIdx (List.mem_filter.mp hentry).1
  have hoffers := hscan.offers
  rw [PreviewScan.ofText] at hoffers
  rw [← hoffers]
  exact List.mem_filterMap.mpr ⟨entry.1, hmem, hfrom.offer⟩

/-- **Importing again.** After an import the same output has the same candidates with the same
forwardings. A selected candidate is a duplicate of the rule that was created from it, and a
supported one that was not selected is still supported. A conflict is still a conflict, and any
other classification is what it was, up to the flag that says whether the rule runs. So after all
supported candidates were imported none is supported. -/
theorem import_again {sshHostAlias : String} {output : ByteArray} {existing rules : List Rule}
    {runningRuleIds : List Uuid} {preview : ImportPreview} {selected : Finset ℕ}
    {autoStart reconnect : Bool} {ids : ℕ → Uuid}
    (hpreview : previewEffectiveForwards sshHostAlias output existing runningRuleIds = .ok preview)
    (hrules : selectedRules preview selected existing autoStart reconnect ids = .ok rules)
    (runningRuleIds' : List Uuid) :
    ∃ preview', previewEffectiveForwards sshHostAlias output (existing ++ rules) runningRuleIds' =
        .ok preview' ∧
      preview'.candidates.length = preview.candidates.length ∧
      (∀ id candidate, preview.candidate? id = some candidate →
        ∃ candidate', preview'.candidate? id = some candidate' ∧
          candidate'.kind = candidate.kind ∧ candidate'.forwarding = candidate.forwarding ∧
          (id ∈ selected → ∃ rule ∈ rules,
            CreatedFrom preview.sshHostAlias autoStart reconnect ids (candidate, id) rule ∧
              ∃ running, candidate'.classification = .duplicateRule rule.id running) ∧
          (id ∉ selected → candidate.classification = .supported →
            candidate'.classification = .supported) ∧
          (candidate.classification.IsConflict → candidate'.classification.IsConflict) ∧
          (candidate.classification ≠ .supported → ¬ candidate.classification.IsConflict →
            candidate'.classification.withoutRunning = candidate.classification.withoutRunning)) ∧
      ((∀ id candidate, preview.candidate? id = some candidate →
          candidate.classification = .supported → id ∈ selected) →
        ∀ candidate' ∈ preview'.candidates, candidate'.classification ≠ .supported) := by
  have hsound := ImportPreview.sound hpreview
  have hcreated := created_of_selectedRules hsound hrules
  obtain ⟨preview', hpreview', hrepeated⟩ :=
    previewEffectiveForwards_append hpreview hcreated runningRuleIds'
  -- the two previews list their candidates in the same order
  have heach : ∀ id candidate, preview.candidate? id = some candidate →
      ∃ candidate', preview'.candidate? id = some candidate' ∧
        Repeated rules candidate candidate' := by
    intro id candidate hid
    cases id with
    | zero => nomatch hid
    | succ index => exact getElem?_of_forall₂ hrepeated hid
  refine ⟨preview', hpreview', hrepeated.length_eq.symm, fun id candidate hid ↦ ?_,
    fun hall candidate' hmem hsupported ↦ ?_⟩
  · obtain ⟨candidate', hid', hagain⟩ := heach id candidate hid
    have hfrom := exists_created hcreated hid
    refine ⟨candidate', hid', ?_⟩
    cases hagain with
    | saved kind rule hrule running =>
      refine ⟨rfl, rfl, fun hmem ↦ ?_, fun hnot _ ↦ ?_, fun h ↦ absurd rfl h.ne_supported,
        fun hne ↦ absurd rfl hne⟩
      · obtain ⟨created, hcreated', hthis⟩ := hfrom hmem
        -- two created rules with one forwarding are the same rule
        have hsame : rule = created := List.inj_on_of_nodup_map (nodup_candidates hsound hcreated)
          hrule hcreated' (Option.some.inj hthis.forwarding)
        exact ⟨created, hcreated', hthis, running, hsame ▸ rfl⟩
      · exact absurd (mem_selected_of_created hsound hcreated hid hrule rfl) hnot
    | offered kind forwarding hnot =>
      refine ⟨rfl, rfl, fun hmem ↦ ?_, fun _ _ ↦ rfl, fun h ↦ absurd rfl h.ne_supported,
        fun hne ↦ absurd rfl hne⟩
      obtain ⟨rule, hrule, hthis⟩ := hfrom hmem
      exact absurd (List.mem_map.mpr ⟨rule, hrule, (Option.some.inj hthis.forwarding).symm⟩) hnot
    | conflict kind forwarding hconflict hconflict' =>
      refine ⟨rfl, rfl, fun hmem ↦ ?_, fun _ hsupported ↦ absurd hsupported hconflict.ne_supported,
        fun _ ↦ hconflict', fun _ hnot ↦ absurd hconflict hnot⟩
      obtain ⟨rule, -, hthis⟩ := hfrom hmem
      exact absurd hthis.supported hconflict.ne_supported
    | unchanged kind forwarding hne hnot hsame =>
      refine ⟨rfl, rfl, fun hmem ↦ ?_, fun _ hsupported ↦ absurd hsupported hne,
        fun hconflict ↦ absurd hconflict hnot, fun _ _ ↦ hsame⟩
      obtain ⟨rule, -, hthis⟩ := hfrom hmem
      exact absurd hthis.supported hne
  · obtain ⟨index, hindex⟩ := List.getElem?_of_mem hmem
    -- a candidate that is supported now was supported before, and then it was selected
    have hflip : List.Forall₂ (flip (Repeated rules)) preview'.candidates preview.candidates :=
      hrepeated.flip
    obtain ⟨candidate, hcandidate, hagain⟩ := getElem?_of_forall₂ hflip hindex
    have hid : preview.candidate? (index + 1) = some candidate := hcandidate
    obtain ⟨hbefore, f, hf, hnot⟩ := hagain.of_supported hsupported
    obtain ⟨rule, hrule, hfrom⟩ :=
      exists_created hcreated hid (hall _ candidate hid hbefore)
    refine hnot (List.mem_map.mpr ⟨rule, hrule, ?_⟩)
    exact Option.some.inj (hfrom.forwarding.symm.trans hf)

/-! ### An example -/

/-- The rule that the first forward of the example output becomes. -/
def exampleImported : Rule where
  id := 1
  name := ⟨"import-local-3000", by decide⟩
  sshHostAlias := ⟨"production", checkHostAlias_production⟩
  forwarding := .localForwarding {
    bindAddress := ⟨"localhost", by decide⟩
    bindPort := ⟨3000, by decide⟩
    destinationHost := ⟨"::1", by decide⟩
    destinationPort := ⟨80, by decide⟩ }
  autoStart := false
  reconnect := true

/-- The first forward was imported alone. The second is still supported, and the third, which was in
conflict with the first, is in conflict with its rule. -/
theorem import_again_exampleOffers :
    ∃ preview', previewEffectiveForwards "production" exampleOutput.toByteArray
        ([exampleRule] ++ [exampleImported]) [1] = .ok preview' ∧
      (∃ c, preview'.candidate? 2 = some c ∧ c.classification = .supported) ∧
      ∃ c, preview'.candidate? 3 = some c ∧ c.classification.IsConflict := by
  have hrules : selectedRules exampleOffers {1} [exampleRule] false true (BitVec.ofNat 128) =
      .ok [exampleImported] := by decide +kernel
  obtain ⟨preview', hpreview', -, heach, -⟩ := import_again exampleOffers_eq hrules [1]
  obtain ⟨second, hsecond, -, -, -, hsupported, -, -⟩ := heach 2 _ rfl
  obtain ⟨third, hthird, -, -, -, -, hconflict, -⟩ := heach 3 _ rfl
  exact ⟨preview', hpreview', ⟨second, hsecond, hsupported (by decide) rfl⟩,
    third, hthird, hconflict ⟨none, false, rfl⟩⟩

end TunnelDeck
