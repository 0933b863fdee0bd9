import TunnelDeck.Config.Store

/-!
# Migration of a document of version 1

What `loadOrMigrateV1` may do to the directory, for every content of the document and every step
that fails. A document of version 1 is backed up, converted and replaced; what was stored is what
is loaded afterwards, and a second open writes nothing. A document of another version is never
written to. An open that fails leaves the document as it was, unless only the sync after the
replacement failed.

## Main results

* `backup_spec`, `replace_of_ne`: the frames of the two writes of a migration.
* `migration_outcome`: an open, for every directory and every choice of faults.
-/

namespace TunnelDeck

variable {crates : Crates}

/-! ## Names -/

theorem configName_ne_backupName (crates : Crates) (version : ℕ) (id : Uuid) :
    configName ≠ backupName crates version id := by
  intro h
  have hlength := congrArg (fun s ↦ s.toList.length) h
  simp [configName, backupName, String.toList_append] at hlength

theorem backupName_ne_temporaryName (crates : Crates) (version : ℕ) (id id' : Uuid) :
    backupName crates version id ≠ temporaryName crates id' := by
  intro h
  have hhead := congrArg (fun s ↦ s.toList.head?) h
  simp [backupName, temporaryName, String.toList_append] at hhead

/-! ## The frames of the writes -/

theorem replace_of_ne {faults : ReplaceFaults} {directory directory' : Directory} {text : String}
    {result : Except StoreError Unit} {name : String}
    (h : replace crates faults directory text = (result, directory')) (hconfig : name ≠ configName)
    (htemporary : name ≠ temporaryName crates faults.id) : directory' name = directory name := by
  unfold replace at h
  rcases hcreate : directory.create faults.create (temporaryName crates faults.id) with
    ⟨outcome, created⟩
  have hcreated := Directory.create_of_ne hcreate htemporary
  rcases outcome with e | u
  · simp only [hcreate] at h
    cases h
    exact hcreated
  · have hwritten : ∀ contents : Contents,
        created.write (temporaryName crates faults.id) contents name = directory name := by
      intro contents
      rw [Directory.write_of_ne _ _ htemporary, hcreated]
    have habandon : ∀ contents : Contents,
        (created.write (temporaryName crates faults.id) contents).discard faults.discard
          (temporaryName crates faults.id) name = directory name := by
      intro contents
      rw [Directory.discard_of_ne _ _ htemporary, hwritten]
    simp only [hcreate] at h
    split at h
    · cases h
      exact habandon _
    · split at h
      · cases h
        exact habandon _
      · split at h
        · cases h
          exact habandon _
        · split at h
          · cases h
            exact habandon _
          · rename_i renamed hrename
            have hrenamed := (Directory.rename_of_ne hrename hconfig htemporary).trans (hwritten _)
            split at h <;> cases h <;> exact hrenamed

/-- **What a backup does**: no other name is touched, and a backup that is kept holds the original
text. -/
theorem backup_spec {faults : OpenFaults} {directory directory' : Directory} {version : ℕ}
    {original : String} {result : Except StoreError Unit}
    (h : backup crates faults directory version original = (result, directory')) :
    (∀ name, name ≠ backupName crates version faults.id → directory' name = directory name) ∧
      (result = .ok () → directory' (backupName crates version faults.id) =
        some (.file (.text original))) ∧
      ∀ e, result = .error e → committed (.error e) = false := by
  unfold backup at h
  rcases hcreate : directory.create faults.create (backupName crates version faults.id) with
    ⟨outcome, created⟩
  have hcreated : ∀ name ≠ backupName crates version faults.id, created name = directory name :=
    fun _ hname ↦ Directory.create_of_ne hcreate hname
  rcases outcome with e | u
  · simp only [hcreate] at h
    cases h
    exact ⟨hcreated, fun h ↦ (nomatch h), by rintro e' ⟨⟩; rfl⟩
  · have hwritten : ∀ contents : Contents, ∀ name ≠ backupName crates version faults.id,
        created.write (backupName crates version faults.id) contents name = directory name := by
      intro contents name hname
      rw [Directory.write_of_ne _ _ hname, hcreated name hname]
    have habandon : ∀ contents : Contents, ∀ name ≠ backupName crates version faults.id,
        (created.write (backupName crates version faults.id) contents).discard faults.discard
          (backupName crates version faults.id) name = directory name := by
      intro contents name hname
      rw [Directory.discard_of_ne _ _ hname, hwritten contents name hname]
    simp only [hcreate] at h
    -- a write or a sync that fails discards what has been written so far
    split at h
    · cases h
      exact ⟨habandon _, fun h ↦ (nomatch h), by rintro e' ⟨⟩; rfl⟩
    · split at h
      · cases h
        exact ⟨habandon _, fun h ↦ (nomatch h), by rintro e' ⟨⟩; rfl⟩
      · cases h
        exact ⟨habandon _, fun h ↦ (nomatch h), by rintro e' ⟨⟩; rfl⟩
      · cases h
        exact ⟨hwritten _, fun _ ↦ Directory.write_self .., fun e h ↦ (nomatch h)⟩

/-! ## Reading the document -/

/-- A document that is there is either read or not, but it is never taken for absent. -/
theorem readOriginal_text {directory : Directory} {original : String}
    (h : directory configName = some (.file (.text original))) (faults : ReadFaults) :
    readOriginal faults directory = .ok (some original) ∨
      ∃ e, readOriginal faults directory = .error e := by
  rcases faults with ⟨_ | fault, text⟩
  · rcases text with _ | e
    · exact Or.inl (by simp [readOriginal, Directory.read, h])
    · exact Or.inr ⟨.io e.message, by simp [readOriginal, Directory.read, h]⟩
  · exact Or.inr ⟨.io fault.error.message, by simp [readOriginal, Directory.read, fault.present]⟩

theorem readOriginal_noFault {directory : Directory} {original : String}
    (h : directory configName = some (.file (.text original))) :
    readOriginal {} directory = .ok (some original) := by
  simp [readOriginal, Directory.read, h]

theorem loadOrMigrateV1_current {directory : Directory} {original : String}
    (h : directory configName = some (.file (.text original)))
    (hversion : crates.tomlHeader original = .ok schemaVersion) (faults : OpenFaults) :
    loadOrMigrateV1 crates faults directory =
      (loadConfig crates faults.read directory, directory) := by
  have hschema : schema crates original = .ok schemaVersion := by
    rw [schema, hversion]
    rfl
  rcases readOriginal_text h faults.read with hread | ⟨e, hread⟩
  · cases hdecode : decode crates original <;>
      simp [loadOrMigrateV1, loadConfig, hread, hschema, hdecode, Except.map, bind, Except.bind,
        pure, Except.pure]
  · simp [loadOrMigrateV1, loadConfig, hread, bind, Except.bind]

theorem loadOrMigrateV1_unsupported {directory : Directory} {original : String} {version : ℕ}
    (h : directory configName = some (.file (.text original)))
    (hversion : crates.tomlHeader original = .ok version) (hlegacy : version ≠ 1)
    (hcurrent : version ≠ schemaVersion) (faults : OpenFaults) :
    (∃ e, loadOrMigrateV1 crates faults directory = (.error e, directory)) ∧
      (faults.read = {} → loadOrMigrateV1 crates faults directory =
        (.error (.unsupportedSchema version), directory)) := by
  have hschema : schema crates original = .ok version := by
    rw [schema, hversion]
    rfl
  have hrefused : readOriginal faults.read directory = .ok (some original) →
      loadOrMigrateV1 crates faults directory =
        (.error (.unsupportedSchema version), directory) := by
    intro hread
    simp [loadOrMigrateV1, hread, hschema, hlegacy, hcurrent]
  constructor
  · rcases readOriginal_text h faults.read with hread | ⟨e, hread⟩
    · exact ⟨_, hrefused hread⟩
    · exact ⟨e, by simp [loadOrMigrateV1, hread]⟩
  · intro hnone
    exact hrefused (hnone ▸ readOriginal_noFault h)

theorem header_of_decode {text : String} {config : PersistedConfig}
    (h : decode crates text = .ok config) : crates.tomlHeader text = .ok schemaVersion := by
  rcases hheader : crates.tomlHeader text with e | version
  · simp [decode, schema, hheader, Except.mapError, bind, Except.bind] at h
  · by_cases hversion : version = schemaVersion
    · rw [hversion]
    · simp [decode, schema, hheader, hversion, Except.mapError, bind, Except.bind] at h

/-! ## Migrating the document -/

/-- The text of a valid document of version 1 with these rules. -/
def IsLegacy (crates : Crates) (original : String) (rules : List Rule) : Prop :=
  crates.tomlHeader original = .ok 1 ∧
    ∃ legacy, crates.tomlV1 original = .ok legacy ∧ legacy.intoDomain = .ok rules

theorem valid_of_intoDomain_v1 {legacy : ConfigV1} {rules : List Rule}
    (h : legacy.intoDomain = .ok rules) : validateRuleSet rules = .ok () := by
  unfold ConfigV1.intoDomain at h
  split at h
  · cases h
  · exact valid_of_domainRules h

theorem migrated_legacy {original text : String} {rules : List Rule} {config : PersistedConfig}
    (hlegacy : IsLegacy crates original rules)
    (h : migrated crates original = .ok (config, text)) : config = ⟨rules, .default⟩ := by
  obtain ⟨-, legacy, hv1, hrules⟩ := hlegacy
  have hvalid := valid_of_intoDomain_v1 hrules
  rcases hconfig : ConfigV2.fromDomain rules .default with e | v2
  · simp [ConfigV2.fromDomain, hvalid] at hconfig
  · have hdomain := (fromDomain_eq_ok hconfig).2.2
    have hv2 : migrateV1 crates original = .ok v2 := by
      simp [migrateV1, hv1, hrules, hconfig, Except.mapError, bind, Except.bind]
    rcases htext : crates.tomlToString v2 with e | written
    · simp [migrated, hv2, hdomain, hconfig, htext, Except.mapError, bind, Except.bind] at h
    · simp only [migrated, hv2, hdomain, hconfig, htext, Except.mapError, bind, Except.bind, pure,
        Except.pure, Except.ok.injEq, Prod.mk.injEq] at h
      exact h.1.symm

/-- What an open can do with a document of version 1 that it reads: it stops at the backup, at the
conversion, or with the outcome of the replacement. -/
theorem loadOrMigrateV1_legacy {directory directory' : Directory} {original : String}
    {faults : OpenFaults} {result : Except StoreError (Option PersistedConfig)}
    (hread : readOriginal faults.read directory = .ok (some original))
    (hversion : crates.tomlHeader original = .ok 1)
    (h : loadOrMigrateV1 crates faults directory = (result, directory')) :
    (∃ e, backup crates faults directory 1 original = (.error e, directory') ∧
        result = .error e) ∨
      ∃ synced, backup crates faults directory 1 original = (.ok (), synced) ∧
        ((∃ e, migrated crates original = .error e ∧ directory' = synced ∧ result = .error e) ∨
          ∃ config text outcome, migrated crates original = .ok (config, text) ∧
            replace crates faults.replace synced text = (outcome, directory') ∧
              result = outcome.map fun _ ↦ some config) := by
  have hschema : schema crates original = .ok 1 := by
    rw [schema, hversion]
    rfl
  rcases hbackup : backup crates faults directory 1 original with ⟨_ | _, synced⟩
  · simp only [loadOrMigrateV1, hread, hschema, hbackup] at h
    cases h
    exact Or.inl ⟨_, rfl, rfl⟩
  · refine Or.inr ⟨synced, rfl, ?_⟩
    rcases hmigrated : migrated crates original with _ | ⟨config, text⟩
    · simp only [loadOrMigrateV1, hread, hschema, hbackup, hmigrated] at h
      cases h
      exact Or.inl ⟨_, rfl, rfl, rfl⟩
    · rcases hreplace : replace crates faults.replace synced text with ⟨_ | _, replaced⟩ <;>
        simp only [loadOrMigrateV1, hread, hschema, hbackup, hmigrated, hreplace] at h <;>
        cases h <;>
        exact Or.inr ⟨config, text, _, rfl, hreplace, rfl⟩

/-- **Once the backup is synced it stays**, however the open ends, and it holds the original
text. -/
theorem backup_kept {directory synced directory' : Directory} {original : String}
    {faults : OpenFaults} {result : Except StoreError (Option PersistedConfig)}
    (hread : readOriginal faults.read directory = .ok (some original))
    (hversion : crates.tomlHeader original = .ok 1)
    (hbackup : backup crates faults directory 1 original = (.ok (), synced))
    (h : loadOrMigrateV1 crates faults directory = (result, directory')) :
    directory' (backupName crates 1 faults.id) = some (.file (.text original)) := by
  have hsynced := (backup_spec hbackup).2.1 rfl
  rcases loadOrMigrateV1_legacy hread hversion h with
    ⟨e, hbackup', -⟩ | ⟨synced', hbackup', ⟨e, -, rfl, -⟩ | ⟨config, text, outcome, -, hreplace, -⟩⟩
  · rw [hbackup] at hbackup'
    cases hbackup'
  · rw [hbackup] at hbackup'
    cases hbackup'
    exact hsynced
  · rw [hbackup] at hbackup'
    cases hbackup'
    rw [replace_of_ne hreplace (configName_ne_backupName crates 1 faults.id).symm
      (backupName_ne_temporaryName crates 1 faults.id faults.replace.id), hsynced]

/-- **A refused open leaves the document alone**: only the failure of the sync after the
replacement is reported over a new document. -/
theorem loadOrMigrateV1_refused {directory directory' : Directory} {faults : OpenFaults}
    {e : StoreError} (h : loadOrMigrateV1 crates faults directory = (.error e, directory'))
    (hrefused : committed (.error e) = false) : directory' configName = directory configName := by
  rcases hread : readOriginal faults.read directory with e' | _ | original
  · simp only [loadOrMigrateV1, hread] at h
    cases h
    rfl
  · simp only [loadOrMigrateV1, hread] at h
    cases h
  · by_cases hversion : crates.tomlHeader original = .ok 1
    · have hbackup : ∀ {outcome : Except StoreError Unit} {synced : Directory},
          backup crates faults directory 1 original = (outcome, synced) →
            synced configName = directory configName :=
        fun hbackup ↦ (backup_spec hbackup).1 _ (configName_ne_backupName crates 1 faults.id)
      rcases loadOrMigrateV1_legacy hread hversion h with ⟨e', hstopped, -⟩ |
        ⟨synced, hsynced, ⟨e', -, rfl, -⟩ | ⟨config, text, outcome, -, hreplace, houtcome⟩⟩
      · exact hbackup hstopped
      · exact hbackup hsynced
      · rcases outcome with e' | u
        · -- a replacement that is not committed has left the document alone
          cases houtcome
          rcases replace_spec hreplace with ⟨hcommitted, -⟩ | ⟨-, hkept⟩
          · rw [hrefused] at hcommitted
            cases hcommitted
          · exact hkept.trans (hbackup hsynced)
        · cases houtcome
    · -- nothing is written for a document of another version
      suffices hsame : directory' = directory by rw [hsame]
      rcases hschema : schema crates original with e' | version
      · simp only [loadOrMigrateV1, hread, hschema] at h
        exact (Prod.mk.inj h).2.symm
      · have hne : version ≠ 1 := by
          rintro rfl
          refine hversion ?_
          rcases hheader : crates.tomlHeader original with e' | version
          · rw [schema, hheader] at hschema
            cases hschema
          · rw [schema, hheader] at hschema
            cases hschema
            rfl
        simp only [loadOrMigrateV1, hread, hschema] at h
        split at h
        · exact (Prod.mk.inj h).2.symm
        · rw [if_pos (Or.inr hne)] at h
          exact (Prod.mk.inj h).2.symm

/-- A successful open of a document of version 1 read it, backed it up and replaced it. -/
theorem loadOrMigrateV1_migrated (hcrates : crates.Faithful) {directory directory' : Directory}
    {original : String} {rules : List Rule} {faults : OpenFaults}
    {config : Option PersistedConfig}
    (hentry : directory configName = some (.file (.text original)))
    (hlegacy : IsLegacy crates original rules)
    (h : loadOrMigrateV1 crates faults directory = (.ok config, directory')) :
    config = some ⟨rules, .default⟩ ∧
      directory' (backupName crates 1 faults.id) = some (.file (.text original)) ∧
      ∃ text, directory' configName = some (.file (.text text)) ∧
        crates.tomlHeader text = .ok schemaVersion ∧
          decode crates text = .ok ⟨rules, .default⟩ := by
  rcases readOriginal_text hentry faults.read with hread | ⟨e, hread⟩
  · rcases loadOrMigrateV1_legacy hread hlegacy.1 h with ⟨e, -, houtcome⟩ |
      ⟨synced, hbackup, ⟨e, -, -, houtcome⟩ |
        ⟨config', text, outcome, hmigrated, hreplace, houtcome⟩⟩
    · cases houtcome
    · cases houtcome
    · have hconfig := migrated_legacy hlegacy hmigrated
      have hdecode := migrated_spec hcrates hmigrated
      rw [hconfig] at hdecode houtcome
      rcases outcome with e | u
      · cases houtcome
      · refine ⟨by cases houtcome; rfl, backup_kept hread hlegacy.1 hbackup h, text, ?_, ?_,
          hdecode⟩
        · rcases replace_spec hreplace with ⟨-, hreplaced⟩ | ⟨hnot, -⟩
          · exact hreplaced
          · cases hnot
        · exact header_of_decode hdecode
  · simp only [loadOrMigrateV1, hread] at h
    cases h

/-- **What an open does**, whatever the document holds and whichever steps fail.
* A valid document of version 1: an open that succeeds returns its rules with the default settings,
  loading gives the same afterwards, the backup holds the original text, and another open writes
  nothing and returns the same.
* A document of version 2 is loaded, and nothing is written.
* A document of another version is refused, and nothing is written.
* An open that fails leaves the document as it was, unless the sync after the replacement failed.
* A backup that was synced stays, however the open ends. -/
theorem migration_outcome (hcrates : crates.Faithful) {faults : OpenFaults}
    {directory directory' : Directory} {result : Except StoreError (Option PersistedConfig)}
    (h : loadOrMigrateV1 crates faults directory = (result, directory')) :
    (∀ original rules config, directory configName = some (.file (.text original)) →
      IsLegacy crates original rules → result = .ok config →
        config = some ⟨rules, .default⟩ ∧
        loadConfig crates {} directory' = .ok (some ⟨rules, .default⟩) ∧
        directory' (backupName crates 1 faults.id) = some (.file (.text original)) ∧
        ∀ again, (loadOrMigrateV1 crates again directory').2 = directory' ∧
          (again.read = {} →
            (loadOrMigrateV1 crates again directory').1 = .ok (some ⟨rules, .default⟩))) ∧
    (∀ original, directory configName = some (.file (.text original)) →
      crates.tomlHeader original = .ok schemaVersion →
        result = loadConfig crates faults.read directory ∧ directory' = directory) ∧
    (∀ original version, directory configName = some (.file (.text original)) →
      crates.tomlHeader original = .ok version → version ≠ 1 → version ≠ schemaVersion →
        (∃ e, result = .error e) ∧ directory' = directory ∧
          (faults.read = {} → result = .error (.unsupportedSchema version))) ∧
    (∀ e, result = .error e → (∀ message, e ≠ .durabilityUncertain message) →
      directory' configName = directory configName) ∧
    ∀ original synced, readOriginal faults.read directory = .ok (some original) →
      crates.tomlHeader original = .ok 1 →
        backup crates faults directory 1 original = (.ok (), synced) →
          directory' (backupName crates 1 faults.id) = some (.file (.text original)) := by
  refine ⟨?_, ?_, ?_, ?_, fun original synced hread hversion hbackup ↦
    backup_kept hread hversion hbackup h⟩
  · rintro original rules config hentry hlegacy rfl
    obtain ⟨rfl, hbackup, text, hreplaced, hheader, hdecode⟩ :=
      loadOrMigrateV1_migrated hcrates hentry hlegacy h
    have hload : loadConfig crates {} directory' = .ok (some ⟨rules, .default⟩) := by
      simp [loadConfig, readOriginal_noFault hreplaced, hdecode, bind, Except.bind, pure,
        Except.pure]
    refine ⟨rfl, hload, hbackup, fun again ↦ ?_⟩
    -- the new document is of the current version, so another open only loads it
    rw [loadOrMigrateV1_current hreplaced hheader again]
    exact ⟨rfl, fun hnone ↦ by rw [hnone, hload]⟩
  · intro original hentry hversion
    rw [loadOrMigrateV1_current hentry hversion faults] at h
    cases h
    exact ⟨rfl, rfl⟩
  · intro original version hentry hversion hne hcurrent
    obtain ⟨⟨e, hrefused⟩, hnone⟩ := loadOrMigrateV1_unsupported hentry hversion hne hcurrent faults
    obtain ⟨rfl, rfl⟩ := Prod.mk.inj (h.symm.trans hrefused)
    exact ⟨⟨e, rfl⟩, rfl, fun hfault ↦ congrArg Prod.fst (h.symm.trans (hnone hfault))⟩
  · rintro e rfl hcertain
    refine loadOrMigrateV1_refused h ?_
    rcases e with _ | _ | _ | _ | _ | _ | message
    all_goals first
      | rfl
      | exact absurd rfl (hcertain message)

/-! ### Examples -/

/-- The crates with one document of version 1 besides. -/
def Crates.withLegacy (crates : Crates) (original : String) (legacy : ConfigV1) : Crates where
  parseUuid := crates.parseUuid
  formatUuid := crates.formatUuid
  tomlHeader text := if text = original then .ok legacy.schemaVersion else crates.tomlHeader text
  tomlV1 text := if text = original then .ok legacy else crates.tomlV1 text
  tomlV2 := crates.tomlV2
  tomlToString := crates.tomlToString
  jsonError := crates.jsonError
  printable := crates.printable

theorem Crates.withLegacy_faithful {original : String} (legacy : ConfigV1)
    (hcrates : crates.Faithful) (hfresh : ∀ config, crates.tomlToString config ≠ .ok original) :
    (crates.withLegacy original legacy).Faithful := by
  constructor
  · exact hcrates.parse_format
  · intro config text hversion htext
    have hne : text ≠ original := by
      rintro rfl
      exact hfresh config htext
    obtain ⟨hheader, hv2⟩ := hcrates.decode_encode config text hversion htext
    exact ⟨by rw [← hheader]; exact if_neg hne, hv2⟩

theorem Crates.isLegacy_withLegacy {original : String} {legacy : ConfigV1} {rules : List Rule}
    (hversion : legacy.schemaVersion = 1) (hrules : legacy.intoDomain = .ok rules) :
    IsLegacy (crates.withLegacy original legacy) original rules := by
  refine ⟨?_, legacy, ?_, hrules⟩
  · simp [withLegacy, hversion]
  · simp [withLegacy]

def exampleLegacyText : String :=
  "schema_version = 1\n\n[[rules]]\nid = \"571eeb62-e7ab-436b-a736-8d217bc545b1\"\n" ++
    "name = \"browser-proxy\"\nssh_host_alias = \"jump\"\nkind = \"dynamic\"\n" ++
    "bind_address = \"127.0.0.1\"\nbind_port = 1080\nauto_start = false\nreconnect = false\n"

def exampleProxy : Rule where
  id := 0x571eeb62e7ab436ba7368d217bc545b1#128
  name := ⟨"browser-proxy", by decide⟩
  sshHostAlias := ⟨"jump", by decide⟩
  forwarding := .dynamicForwarding {
    bindAddress := .loopback
    bindPort := ⟨1080, by decide⟩ }
  autoStart := false
  reconnect := false

def exampleMigratedText : String :=
  "schema_version = 2\n\n[[rules]]\nkind = \"dynamic\"\n" ++
    "id = \"571eeb62-e7ab-436b-a736-8d217bc545b1\"\nname = \"browser-proxy\"\n" ++
    "ssh_host_alias = \"jump\"\nbind_address = \"127.0.0.1\"\nbind_port = 1080\n" ++
    "auto_start = false\nreconnect = false\n\n[settings]\ntheme = \"system\"\n" ++
    "log_level = \"info\"\ndefault_reconnect = false\ndefault_auto_start = false\n"

def exampleTable : List (ConfigV2 × String) :=
  [(⟨2, [WireRule.ofRule exampleProxy], .default⟩, exampleMigratedText)]

def exampleLegacy : Crates :=
  (Crates.ofTable exampleTable).withLegacy exampleLegacyText ⟨1, [WireRule.ofRule exampleProxy]⟩

theorem exampleLegacy_faithful : exampleLegacy.Faithful := by
  refine Crates.withLegacy_faithful _ (Crates.ofTable_faithful (by decide +kernel)) ?_
  intro config h
  have hfind : (exampleTable.find? fun entry ↦ entry.2 = exampleLegacyText) = none := by
    decide +kernel
  rw [Crates.ofTable_decode (by decide +kernel) h] at hfind
  cases hfind

/-- Only the document of version 1 is there. -/
def exampleLegacyDirectory : Directory :=
  Function.update (fun _ ↦ none) configName (some (.file (.text exampleLegacyText)))

/-- An open of it in which no step fails. -/
def exampleOpening : Except StoreError (Option PersistedConfig) × Directory :=
  loadOrMigrateV1 exampleLegacy { id := 7, replace := { id := 9 } } exampleLegacyDirectory

/-- The document is migrated, and its backup is kept. -/
theorem migration_outcome_exampleLegacy :
    exampleOpening.1 = .ok (some ⟨[exampleProxy], .default⟩) ∧
      loadConfig exampleLegacy {} exampleOpening.2 = .ok (some ⟨[exampleProxy], .default⟩) ∧
      exampleOpening.2 "config.toml.v1.00000000-0000-0000-0000-000000000007.bak" =
        some (.file (.text exampleLegacyText)) := by
  have hentry : exampleLegacyDirectory configName = some (.file (.text exampleLegacyText)) :=
    Function.update_self ..
  have hlegacy : IsLegacy exampleLegacy exampleLegacyText [exampleProxy] :=
    Crates.isLegacy_withLegacy rfl (by decide +kernel)
  have hopened : exampleOpening.1 = .ok (some ⟨[exampleProxy], .default⟩) := by decide +kernel
  have hname : backupName exampleLegacy 1 7 =
      "config.toml.v1.00000000-0000-0000-0000-000000000007.bak" := by decide +kernel
  have hrun : loadOrMigrateV1 exampleLegacy { id := 7, replace := { id := 9 } }
      exampleLegacyDirectory = (exampleOpening.1, exampleOpening.2) := by rw [exampleOpening]
  obtain ⟨-, hload, hbackup, -⟩ :=
    (migration_outcome exampleLegacy_faithful hrun).1 exampleLegacyText _ _ hentry hlegacy hopened
  simp only [hname] at hbackup
  exact ⟨hopened, hload, hbackup⟩

end TunnelDeck
