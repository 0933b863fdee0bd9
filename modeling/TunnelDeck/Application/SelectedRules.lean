import TunnelDeck.Application.Preview

/-!
# Rules from the selected candidates

`selected_rules` builds a rule for each candidate that was chosen. The loop that looks for a name
ends, since it tries distinct names, and a selection of supported candidates gives rules that
together with the existing ones are a valid set.
-/

namespace TunnelDeck

/-! ## Names -/

/-- The name that `import_rule_name` tries under a suffix. -/
def suffixedName (base : String) (suffix : ℕ) : String := base ++ "-" ++ toString suffix

theorem suffixedName_inj {base : String} {m n : ℕ} (h : suffixedName base m = suffixedName base n) :
    m = n := by
  have hlist := congrArg String.toList h
  simp only [suffixedName, String.toList_append, List.append_cancel_left_eq] at hlist
  have hdigits : Nat.toDigits 10 m = Nat.toDigits 10 n := by
    rw [← Nat.toList_repr, ← Nat.toList_repr]
    exact hlist
  rw [← Nat.ofDigitChars_ten_toDigits (n := m), hdigits, Nat.ofDigitChars_ten_toDigits]

theorem suffixedName_ne (base : String) (suffix : ℕ) : base ≠ suffixedName base suffix := by
  intro h
  have hlength := congrArg String.length h
  simp only [suffixedName, String.length_append] at hlength
  have hdash : "-".length = 1 := rfl
  omega

theorem freeName_eq (base : String) (names : Finset String) (turns suffix : ℕ) (name : String) :
    freeName base names turns suffix name = name ∨
      ∃ k < turns, freeName base names turns suffix name = suffixedName base (suffix + k) := by
  induction turns generalizing suffix name with
  | zero => exact Or.inl rfl
  | succ turns ih =>
    rw [freeName]
    split
    · rcases ih (suffix + 1) (base ++ "-" ++ toString suffix) with h | ⟨k, hk, h⟩
      · exact Or.inr ⟨0, Nat.succ_pos _, h⟩
      · exact Or.inr ⟨k + 1, Nat.succ_lt_succ hk, by rw [h, Nat.add_right_comm, Nat.add_assoc]⟩
    · exact Or.inl rfl

/-- When the loop ends with a name that is taken, all names it tried are taken. -/
theorem taken_of_freeName_mem {base : String} {names : Finset String} {turns suffix : ℕ}
    {name : String} (h : freeName base names turns suffix name ∈ names) :
    name ∈ names ∧ ∀ k < turns, suffixedName base (suffix + k) ∈ names := by
  induction turns generalizing suffix name with
  | zero => exact ⟨h, fun k hk ↦ absurd hk (Nat.not_lt_zero k)⟩
  | succ turns ih =>
    rw [freeName] at h
    split at h
    · rename_i hname
      obtain ⟨hfirst, hrest⟩ := ih h
      refine ⟨hname, fun k hk ↦ ?_⟩
      cases k with
      | zero => exact hfirst
      | succ k =>
        have hk' := hrest k (Nat.lt_of_succ_lt_succ hk)
        rwa [Nat.add_right_comm, Nat.add_assoc] at hk'
    · rename_i hname
      exact absurd h hname

/-- **The loop finds a name.** After as many turns as there are names it has tried one more name
than there are. -/
theorem importRuleName_not_mem (forwarding : ImportForwarding) (candidateId : ℕ)
    (names : Finset String) : importRuleName forwarding candidateId names ∉ names := by
  intro h
  obtain ⟨hbase, hsuffixed⟩ := taken_of_freeName_mem h
  let tried := (Finset.range names.card).image
    fun k ↦ suffixedName (importBaseName forwarding) (candidateId + k)
  have hsub : insert (importBaseName forwarding) tried ⊆ names := by
    refine Finset.insert_subset hbase fun name hname ↦ ?_
    obtain ⟨k, hk, rfl⟩ := Finset.mem_image.mp hname
    exact hsuffixed k (Finset.mem_range.mp hk)
  have hnew : importBaseName forwarding ∉ tried := by
    intro hmem
    obtain ⟨k, -, hk⟩ := Finset.mem_image.mp hmem
    exact suffixedName_ne _ _ hk.symm
  have htried : tried.card = names.card := by
    rw [Finset.card_image_of_injective _ fun k l hkl ↦ Nat.add_left_cancel (suffixedName_inj hkl),
      Finset.card_range]
  have hcard := Finset.card_le_card hsub
  rw [Finset.card_insert_of_notMem hnew, htried] at hcard
  omega

/-- A text of printable characters without white space. -/
def Plain (text : String) : Prop :=
  ∀ c ∈ text.toList, Text.isControl c = false ∧ Text.isWhitespace c = false

theorem plain_of_all {text : String}
    (h : text.toList.all (fun c ↦ !Text.isControl c && !Text.isWhitespace c) = true) :
    Plain text := by
  intro c hc
  have hboth := List.all_eq_true.mp h c hc
  rw [Bool.and_eq_true, Bool.not_eq_true', Bool.not_eq_true'] at hboth
  exact hboth

theorem Plain.append {s t : String} (hs : Plain s) (ht : Plain t) : Plain (s ++ t) := by
  intro c hc
  rw [String.toList_append] at hc
  exact (List.mem_append.mp hc).elim (hs c) (ht c)

theorem plain_toString (n : ℕ) : Plain (toString n) := by
  intro c hc
  have hdigit : c.isDigit = true := by
    refine Nat.isDigit_of_mem_toDigits (b := 10) (n := n) (by decide) (by decide) ?_
    rw [← Nat.toList_repr]
    exact hc
  have hrange : 48 ≤ c.toNat ∧ c.toNat ≤ 57 := by
    simpa [Char.isDigit, UInt32.le_iff_toNat_le] using hdigit
  constructor
  · simp only [Text.isControl, Bool.or_eq_false_iff, Bool.and_eq_false_iff, decide_eq_false_iff_not]
    omega
  · simp only [Text.isWhitespace, Bool.or_eq_false_iff, Bool.and_eq_false_iff,
      decide_eq_false_iff_not, beq_eq_false_iff_ne]
    omega

theorem length_toString_le {n k : ℕ} (hk : 0 < k) (h : n < 10 ^ k) : (toString n).length ≤ k :=
  (Nat.length_repr_le_iff hk).mpr h

/-- The first name is a fixed text that a port follows. -/
theorem importBaseName_eq (forwarding : ImportForwarding) :
    ∃ (fixed : String) (port : UInt16), importBaseName forwarding = fixed ++ toString port.toNat ∧
      Plain fixed ∧ 0 < fixed.length ∧ fixed.length ≤ 15 := by
  cases forwarding with
  | localForward address port =>
    exact ⟨"import-local-", port, rfl, plain_of_all (by decide), by decide, by decide⟩
  | remoteForward address port =>
    exact ⟨"import-remote-", port, rfl, plain_of_all (by decide), by decide, by decide⟩
  | dynamicForward address port =>
    exact ⟨"import-dynamic-", port, rfl, plain_of_all (by decide), by decide, by decide⟩

theorem importBaseName_plain (forwarding : ImportForwarding) :
    Plain (importBaseName forwarding) ∧ 0 < (importBaseName forwarding).length ∧
      (importBaseName forwarding).length ≤ 20 := by
  obtain ⟨fixed, port, heq, hplain, hpos, hle⟩ := importBaseName_eq forwarding
  have hport : (toString port.toNat).length ≤ 5 :=
    length_toString_le (by decide) (Nat.lt_trans port.toNat_lt (by decide))
  rw [heq, String.length_append]
  exact ⟨hplain.append (plain_toString _), by omega, by omega⟩

theorem checkRuleName_importRuleName (forwarding : ImportForwarding) {candidateId : ℕ}
    {names : Finset String} (h : candidateId + names.card ≤ 10 ^ 100) :
    checkRuleName (importRuleName forwarding candidateId names) = .ok () := by
  obtain ⟨hbase, hpos, hle⟩ := importBaseName_plain forwarding
  have hname : Plain (importRuleName forwarding candidateId names) ∧
      0 < (importRuleName forwarding candidateId names).length ∧
        (importRuleName forwarding candidateId names).length ≤ 128 := by
    rw [importRuleName]
    rcases freeName_eq (importBaseName forwarding) names names.card candidateId
      (importBaseName forwarding) with heq | ⟨k, hk, heq⟩
    · rw [heq]
      exact ⟨hbase, hpos, by omega⟩
    · have hsuffix := length_toString_le (n := candidateId + k) (k := 100) (by decide) (by omega)
      have hdash : "-".length = 1 := rfl
      rw [heq, suffixedName]
      refine ⟨(hbase.append (plain_of_all (by decide))).append (plain_toString _), ?_⟩
      rw [String.length_append, String.length_append]
      omega
  obtain ⟨hplain, hpos, hle⟩ := hname
  refine validateText_eq_ok .ruleName true (fun hnil ↦ ?_) hle hplain
  rw [← String.length_toList, hnil] at hpos
  exact absurd hpos (Nat.lt_irrefl 0)

/-! ## Rules -/

theorem toRule_ofForwarding (f : Forwarding) (id : Uuid) (name : String) (sshHostAlias : HostAlias)
    (autoStart reconnect : Bool) :
    (ImportForwarding.ofForwarding f).toRule id name sshHostAlias.asStr autoStart reconnect =
      (Checked.new checkRuleName name).map fun name ↦
        ⟨id, name, sshHostAlias, f, autoStart, reconnect⟩ := by
  cases hname : Checked.new checkRuleName name <;> cases f <;>
    simp [ImportForwarding.ofForwarding, ImportForwarding.toRule, Rule.newLocal, Rule.newRemote,
      Rule.newDynamic, Rule.withBindAddress, Rule.withPolicy, hname, bind, Except.bind, pure,
      Except.pure, Except.map]

/-- The selected candidates with their ids, in the order of the preview. -/
def ImportPreview.chosen (preview : ImportPreview) (selected : Finset ℕ) :
    List (ImportCandidate × ℕ) :=
  (preview.candidates.zipIdx 1).filter fun entry ↦ entry.2 ∈ selected

/-- The rule is the one that a supported candidate becomes: it has the id drawn for the candidate,
the host and the policy of the import, and exactly the forwarding of the candidate. -/
structure CreatedFrom (sshHostAlias : String) (autoStart reconnect : Bool) (ids : ℕ → Uuid)
    (entry : ImportCandidate × ℕ) (rule : Rule) : Prop where
  supported : entry.1.classification = .supported
  id : rule.id = ids entry.2
  host : rule.sshHostAlias.asStr = sshHostAlias
  kind : rule.candidate.kind = entry.1.kind
  forwarding : entry.1.forwarding = some rule.candidate
  autoStart : rule.autoStart = autoStart
  reconnect : rule.reconnect = reconnect

section

variable (host : HostAlias) (selected : Finset ℕ) (autoStart reconnect : Bool) (ids : ℕ → Uuid)

/-- What one turn of the loop does with a selected candidate that is supported. -/
theorem selectFrom_cons {candidate : ImportCandidate} (hvalid : candidate.Valid)
    (hsupported : candidate.classification = .supported) {index : ℕ}
    (hselected : index + 1 ∈ selected) (names : Finset String) (rest : List ImportCandidate) :
    ∃ f, candidate.forwarding = some (ImportForwarding.ofForwarding f) ∧
      (ImportForwarding.ofForwarding f).kind = candidate.kind ∧
      selectFrom host.asStr selected autoStart reconnect ids index names (candidate :: rest) =
        match Checked.new checkRuleName
          (importRuleName (ImportForwarding.ofForwarding f) (index + 1) names) with
        | .error e => .error e.toString
        | .ok name => (selectFrom host.asStr selected autoStart reconnect ids (index + 1)
            (insert name.asStr names) rest).map fun rules ↦
              ⟨ids (index + 1), name, host, f, autoStart, reconnect⟩ :: rules := by
  obtain ⟨f, hkind, hforwarding⟩ := hvalid hsupported
  refine ⟨f, hforwarding, hkind, ?_⟩
  rw [selectFrom]
  simp only [not_not.mpr hselected, hsupported, hforwarding, toRule_ofForwarding, ne_eq, not_true,
    if_false]
  cases hname : Checked.new checkRuleName
      (importRuleName (ImportForwarding.ofForwarding f) (index + 1) names) with
  | error e => rfl
  | ok name =>
    rw [← Checked.asStr_of_new hname]
    rfl

variable {host selected autoStart reconnect ids}

variable (host) in
theorem selectFrom_created {index : ℕ} {names : Finset String} {candidates : List ImportCandidate}
    {rules : List Rule} (hvalid : ∀ candidate ∈ candidates, candidate.Valid)
    (h : selectFrom host.asStr selected autoStart reconnect ids index names candidates =
      .ok rules) :
    List.Forall₂ (CreatedFrom host.asStr autoStart reconnect ids)
      ((candidates.zipIdx (index + 1)).filter fun entry ↦ entry.2 ∈ selected) rules := by
  induction candidates generalizing index names rules with
  | nil =>
    cases h
    exact List.Forall₂.nil
  | cons candidate rest ih =>
    have hrest : ∀ c ∈ rest, c.Valid := fun c hc ↦ hvalid c (List.mem_cons_of_mem _ hc)
    rw [List.zipIdx_cons]
    by_cases hselected : index + 1 ∈ selected
    · have hsupported : candidate.classification = .supported := by
        by_contra hne
        rw [selectFrom, if_neg (not_not.mpr hselected), if_pos hne] at h
        nomatch h
      obtain ⟨f, hforwarding, hkind, heq⟩ := selectFrom_cons host selected autoStart reconnect ids
        (hvalid _ List.mem_cons_self) hsupported hselected names rest
      rw [heq] at h
      rw [List.filter_cons_of_pos (by simpa using hselected)]
      split at h
      · nomatch h
      · rename_i name hname
        obtain ⟨others, hothers, hrules⟩ := ok_of_map h
        rw [← hrules]
        exact List.Forall₂.cons ⟨hsupported, rfl, rfl, hkind, hforwarding, rfl, rfl⟩
          (ih hrest hothers)
    · rw [selectFrom, if_pos hselected] at h
      rw [List.filter_cons_of_neg (by simpa using hselected)]
      exact ih hrest h

variable (host selected autoStart reconnect ids) in
/-- **The loop succeeds** when the selected candidates are supported. The names it gives are new
and distinct. -/
theorem selectFrom_ok {index : ℕ} {names : Finset String} {candidates : List ImportCandidate}
    (hvalid : ∀ candidate ∈ candidates, candidate.Valid)
    (hsupported : ∀ entry ∈ candidates.zipIdx (index + 1), entry.2 ∈ selected →
      entry.1.classification = .supported)
    (hsize : index + 2 * candidates.length + names.card ≤ 10 ^ 100) :
    ∃ rules, selectFrom host.asStr selected autoStart reconnect ids index names candidates =
        .ok rules ∧
      (rules.map fun rule ↦ rule.name.asStr).Nodup ∧ ∀ rule ∈ rules, rule.name.asStr ∉ names := by
  induction candidates generalizing index names with
  | nil => exact ⟨[], rfl, List.nodup_nil, fun _ h ↦ nomatch h⟩
  | cons candidate rest ih =>
    have hvalid' : ∀ c ∈ rest, c.Valid := fun c hc ↦ hvalid c (List.mem_cons_of_mem _ hc)
    have hsupported' : ∀ entry ∈ rest.zipIdx (index + 1 + 1), entry.2 ∈ selected →
        entry.1.classification = .supported :=
      fun entry hentry ↦ hsupported entry (List.mem_cons_of_mem _ hentry)
    rw [List.length_cons] at hsize
    by_cases hselected : index + 1 ∈ selected
    · obtain ⟨f, -, -, heq⟩ := selectFrom_cons host selected autoStart reconnect ids
        (hvalid _ List.mem_cons_self) (hsupported _ List.mem_cons_self hselected) hselected names
        rest
      have hnew := importRuleName_not_mem (ImportForwarding.ofForwarding f) (index + 1) names
      have hcheck : checkRuleName (importRuleName (ImportForwarding.ofForwarding f) (index + 1)
          names) = .ok () := checkRuleName_importRuleName _ (by omega)
      generalize importRuleName (ImportForwarding.ofForwarding f) (index + 1) names = name
        at hnew hcheck heq
      have hname : Checked.new checkRuleName name = .ok ⟨name, hcheck⟩ :=
        Checked.new_asStr (⟨name, hcheck⟩ : RuleName)
      have hsize' : index + 1 + 2 * rest.length + (insert name names).card ≤ 10 ^ 100 := by
        rw [Finset.card_insert_of_notMem hnew]
        omega
      obtain ⟨others, hothers, hnodup, hfresh⟩ := ih hvalid' hsupported' hsize'
      rw [heq, hname]
      simp only [hothers]
      refine ⟨_, rfl, ?_, ?_⟩
      · rw [List.map_cons, List.nodup_cons]
        refine ⟨fun hmem ↦ ?_, hnodup⟩
        obtain ⟨rule, hrule, hsame⟩ := List.mem_map.mp hmem
        exact hfresh rule hrule (hsame ▸ Finset.mem_insert_self _ _)
      · intro rule hrule
        rcases List.mem_cons.mp hrule with rfl | hrule
        · exact hnew
        · exact fun hmem ↦ hfresh rule hrule (Finset.mem_insert_of_mem hmem)
    · rw [selectFrom, if_pos hselected]
      exact ih hvalid' hsupported' (by omega)

end

end TunnelDeck
