import Mathlib.Logic.Function.Basic
import TunnelDeck.Config.Conversion

/-!
# The configuration store

The private directory that holds `config.toml`, and the store over it: `loadConfig` decodes the
file, `saveConfig` replaces it through a temporary file and a rename, `loadOrMigrateV1` brings a
document of version 1 to version 2 after backing it up.

Every step on the file system can fail. Which ones do is part of the input, `SaveFaults` and
`OpenFaults`, so a statement about all faults is a statement about every way a save can end. A
step that fails has no effect; only a failed write may leave any bytes in the temporary file, and
creating a file is several steps.

## Main results

* `saveConfig_spec`: a save either replaces `config.toml` by a document that decodes to what was
  saved, or leaves the directory entry as it was. Only the failure of the last step, the sync of
  the directory, is reported as an error in the first case.
* `loadOrMigrateV1_spec`: after a successful open, loading gives what the open returned.
-/

namespace TunnelDeck

/-! ## Input and output -/

inductive IoErrorKind where
  | notFound
  | alreadyExists
  | addrInUse
  | permissionDenied
  | invalidData
  | other
  deriving DecidableEq

/-- `io::Error`: its kind and its text. -/
structure IoError where
  kind : IoErrorKind
  message : String
  deriving DecidableEq

/-- A failure to read that is not the absence of the file, which the directory alone decides. -/
structure ReadFault where
  error : IoError
  present : error.kind ≠ .notFound

/-- What a regular file holds. -/
inductive Contents where
  | text (text : String)
  /-- Bytes that are no UTF-8. -/
  | bytes (bytes : List UInt8)
  deriving DecidableEq

/-- What a name of the directory stands for. -/
inductive Entry where
  /-- A private regular file of the user. -/
  | file (contents : Contents)
  /-- Anything else, which opening refuses. -/
  | foreign
  deriving DecidableEq

/-- `PrivateDirectory`. -/
abbrev Directory := String → Option Entry

/-- The faults of `create`: of opening the new file and of reading its metadata. A file that is not
private is removed again, and this removal can fail too. -/
structure CreateFaults where
  openFile : Option IoError := none
  metadata : Option IoError := none
  unsafeFile : Option (Option IoError) := none

namespace Directory

/-- The error that `read` gives to a foreign entry. -/
def unsafeEntry : IoError :=
  ⟨.permissionDenied, "unsafe file type, ownership, permissions, or hard links"⟩

/-- `PrivateDirectory::read`. -/
def read (directory : Directory) (fault : Option ReadFault) (name : String) :
    Except IoError Contents :=
  match fault with
  | some fault => .error fault.error
  | none =>
    match directory name with
    | none => .error ⟨.notFound, "No such file or directory (os error 2)"⟩
    | some .foreign => .error unsafeEntry
    | some (.file contents) => .ok contents

/-- Opening a file under a new name. -/
def createNew (directory : Directory) (fault : Option IoError) (name : String) :
    Except IoError Directory :=
  match fault with
  | some e => .error e
  | none =>
    match directory name with
    | some _ => .error ⟨.alreadyExists, "File exists (os error 17)"⟩
    | none => .ok (Function.update directory name (some (.file (.text ""))))

/-- The open file `name` now holds `contents`. -/
def write (directory : Directory) (name : String) (contents : Contents) : Directory :=
  Function.update directory name (some (.file contents))

/-- `PrivateDirectory::rename`, of a file that exists. -/
def rename (directory : Directory) (fault : Option IoError) (source target : String) :
    Except IoError Directory :=
  match fault with
  | some e => .error e
  | none =>
    .ok (Function.update (Function.update directory target (directory source)) source none)

/-- A removal whose failure is ignored: that of `create`, and dropping a `Temporary` that is not
kept. -/
def discard (directory : Directory) (fault : Option IoError) (name : String) : Directory :=
  match fault with
  | some _ => directory
  | none => Function.update directory name none

/-- `PrivateDirectory::create`. A new file that turns out not to be private is removed, but one
whose metadata cannot be read is left. -/
def create (directory : Directory) (faults : CreateFaults) (name : String) :
    Except IoError Unit × Directory :=
  match directory.createNew faults.openFile name with
  | .error e => (.error e, directory)
  | .ok created =>
    match faults.metadata with
    | some e => (.error e, created)
    | none =>
      match faults.unsafeFile with
      | some removal => (.error unsafeEntry, created.discard removal name)
      | none => (.ok (), created)

variable {directory directory' : Directory} {fault : Option IoError} {name other : String}

theorem createNew_of_ne (h : directory.createNew fault name = .ok directory')
    (hne : other ≠ name) : directory' other = directory other := by
  unfold createNew at h
  split at h
  · cases h
  · split at h
    · cases h
    · cases h
      exact Function.update_of_ne hne ..

theorem write_of_ne (directory : Directory) (contents : Contents) (hne : other ≠ name) :
    directory.write name contents other = directory other :=
  Function.update_of_ne hne ..

@[simp] theorem write_self (directory : Directory) (name : String) (contents : Contents) :
    directory.write name contents name = some (.file contents) :=
  Function.update_self ..

theorem discard_of_ne (directory : Directory) (fault : Option IoError) (hne : other ≠ name) :
    directory.discard fault name other = directory other := by
  unfold discard
  split
  · rfl
  · exact Function.update_of_ne hne ..

theorem create_of_ne {faults : CreateFaults} {result : Except IoError Unit}
    (h : directory.create faults name = (result, directory')) (hne : other ≠ name) :
    directory' other = directory other := by
  unfold create at h
  split at h
  · cases h
    rfl
  · rename_i created hcreated
    have hother := createNew_of_ne hcreated hne
    split at h
    · cases h
      exact hother
    · split at h
      · cases h
        exact (discard_of_ne _ _ hne).trans hother
      · cases h
        exact hother

theorem rename_target {source target : String}
    (h : directory.rename fault source target = .ok directory') (hne : target ≠ source) :
    directory' target = directory source := by
  unfold rename at h
  split at h
  · cases h
  · cases h
    rw [Function.update_of_ne hne, Function.update_self]

theorem rename_of_ne {source target : String}
    (h : directory.rename fault source target = .ok directory') (htarget : other ≠ target)
    (hsource : other ≠ source) : directory' other = directory other := by
  unfold rename at h
  split at h
  · cases h
  · cases h
    rw [Function.update_of_ne hsource, Function.update_of_ne htarget]

end Directory

/-! ## Loading -/

def configName : String := "config.toml"

structure PersistedConfig where
  rules : List Rule
  settings : Settings
  deriving DecidableEq

/-- What a daemon starts from when there is no document. -/
def PersistedConfig.empty : PersistedConfig := ⟨[], .default⟩

section Store

variable (crates : Crates)

/-- `schema`. -/
def schema (text : String) : Except StoreError ℕ :=
  (crates.tomlHeader text).mapError .decode

/-- `decode`. -/
def decode (text : String) : Except StoreError PersistedConfig := do
  let version ← schema crates text
  if version ≠ schemaVersion then .error (.unsupportedSchema version)
  else
    let (rules, settings) ← ((crates.tomlV2 text).mapError StoreError.decode).bind
      ConfigV2.intoDomain
    return ⟨rules, settings⟩

/-- The faults of reading the document: opening it and reading its text. -/
structure ReadFaults where
  openFile : Option ReadFault := none
  text : Option IoError := none

/-- `read_original`. -/
def readOriginal (faults : ReadFaults) (directory : Directory) :
    Except StoreError (Option String) :=
  match directory.read faults.openFile configName with
  | .error e => if e.kind = .notFound then .ok none else .error (.io e.message)
  | .ok contents =>
    match faults.text, contents with
    | some e, _ => .error (.io e.message)
    | none, .bytes _ => .error (.io "stream did not contain valid UTF-8")
    | none, .text text => .ok (some text)

/-- `load_config`. -/
def loadConfig (faults : ReadFaults) (directory : Directory) :
    Except StoreError (Option PersistedConfig) := do
  match ← readOriginal faults directory with
  | none => return none
  | some text => return some (← decode crates text)

/-- What the document holds, when no step on the file system fails. -/
def stored (directory : Directory) : Except StoreError PersistedConfig :=
  (loadConfig crates {} directory).map fun config ↦ config.getD .empty

/-! ## Replacing the document -/

/-- The faults of `replace`, and the UUID in the name of its temporary file. A failed write says
what it left in the file. -/
structure ReplaceFaults where
  id : Uuid
  create : CreateFaults := {}
  write : Option (IoError × Contents) := none
  sync : Option IoError := none
  target : Option ReadFault := none
  rename : Option IoError := none
  discard : Option IoError := none
  syncDirectory : Option IoError := none

/-- The faults of `save_config`. -/
structure SaveFaults where
  read : ReadFaults := {}
  replace : ReplaceFaults

def temporaryName (id : Uuid) : String := ".config." ++ (crates.formatUuid id ++ ".tmp")

/-- What may be replaced: a readable document or none. -/
def checkTarget (fault : Option ReadFault) (directory : Directory) : Except IoError Unit :=
  match directory.read fault configName with
  | .ok _ => .ok ()
  | .error e => if e.kind = .notFound then .ok () else .error e

/-- `replace`. -/
def replace (faults : ReplaceFaults) (directory : Directory) (text : String) :
    Except StoreError Unit × Directory :=
  let name := temporaryName crates faults.id
  let abandon (e : IoError) (directory : Directory) :=
    (.error (StoreError.io e.message), directory.discard faults.discard name)
  match directory.create faults.create name with
  | (.error e, left) => (.error (.io e.message), left)
  | (.ok (), created) =>
    match faults.write with
    | some (e, left) => abandon e (created.write name left)
    | none =>
      let written := created.write name (.text text)
      match faults.sync with
      | some e => abandon e written
      | none =>
        -- the destination is checked once more, immediately before the replacement
        match checkTarget faults.target written with
        | .error e => abandon e written
        | .ok () =>
          match written.rename faults.rename name configName with
          | .error e => abandon e written
          | .ok renamed =>
            match faults.syncDirectory with
            | some e => (.error (.durabilityUncertain e.message), renamed)
            | none => (.ok (), renamed)

/-- `save_config`. -/
def saveConfig (faults : SaveFaults) (directory : Directory) (rules : List Rule)
    (settings : Settings) : Except StoreError Unit × Directory :=
  match ConfigV2.fromDomain rules settings with
  | .error e => (.error e, directory)
  | .ok config =>
    match crates.tomlToString config with
    | .error e => (.error (.encode e), directory)
    | .ok text =>
      match loadConfig crates faults.read directory with
      | .error e => (.error e, directory)
      | .ok _ => replace crates faults.replace directory text

/-! ## Migration -/

/-- The faults of `load_or_migrate_v1`, and the UUID in the name of the backup. -/
structure OpenFaults where
  read : ReadFaults := {}
  id : Uuid
  create : CreateFaults := {}
  write : Option (IoError × Contents) := none
  sync : Option IoError := none
  syncDirectory : Option IoError := none
  discard : Option IoError := none
  replace : ReplaceFaults

def backupName (version : ℕ) (id : Uuid) : String :=
  "config.toml.v" ++ (ToString.toString version ++ "." ++ crates.formatUuid id ++ ".bak")

/-- The backup of a document: it is kept only once it and the directory are synced. -/
def backup (faults : OpenFaults) (directory : Directory) (version : ℕ) (original : String) :
    Except StoreError Unit × Directory :=
  let name := backupName crates version faults.id
  let abandon (e : IoError) (directory : Directory) :=
    (.error (StoreError.io e.message), directory.discard faults.discard name)
  match directory.create faults.create name with
  | (.error e, left) => (.error (.io e.message), left)
  | (.ok (), created) =>
    match faults.write with
    | some (e, left) => abandon e (created.write name left)
    | none =>
      let written := created.write name (.text original)
      match faults.sync, faults.syncDirectory with
      | some e, _ => abandon e written
      | none, some e => abandon e written
      | none, none => (.ok (), written)

/-- `V1Migration::migrate`. -/
def migrateV1 (original : String) : Except StoreError ConfigV2 := do
  let legacy ← (crates.tomlV1 original).mapError StoreError.decode
  let rules ← legacy.intoDomain
  ConfigV2.fromDomain rules .default

/-- What a migrated document is replaced by. -/
def migrated (original : String) : Except StoreError (PersistedConfig × String) := do
  let (rules, settings) ← (← migrateV1 crates original).intoDomain
  let text ← (crates.tomlToString (← ConfigV2.fromDomain rules settings)).mapError
    StoreError.encode
  return (⟨rules, settings⟩, text)

/-- `load_or_migrate_v1`. -/
def loadOrMigrateV1 (faults : OpenFaults) (directory : Directory) :
    Except StoreError (Option PersistedConfig) × Directory :=
  match readOriginal faults.read directory with
  | .error e => (.error e, directory)
  | .ok none => (.ok none, directory)
  | .ok (some original) =>
    match schema crates original with
    | .error e => (.error e, directory)
    | .ok version =>
      if version = schemaVersion then ((decode crates original).map some, directory)
      else if version ≥ schemaVersion ∨ version ≠ 1 then
        (.error (.unsupportedSchema version), directory)
      else
        match backup crates faults directory version original with
        | (.error e, directory) => (.error e, directory)
        | (.ok (), directory) =>
          match migrated crates original with
          | .error e => (.error e, directory)
          | .ok (config, text) =>
            match replace crates faults.replace directory text with
            | (.error e, directory) => (.error e, directory)
            | (.ok (), directory) => (.ok (some config), directory)

end Store

/-! ## What a save does -/

/-- The document was replaced: the save succeeded, or only the sync of the directory failed. -/
def committed : Except StoreError Unit → Bool
  | .ok () => true
  | .error (.durabilityUncertain _) => true
  | .error _ => false

variable {crates : Crates}

theorem configName_ne_temporaryName (crates : Crates) (id : Uuid) :
    configName ≠ temporaryName crates id := by
  intro h
  have hhead := congrArg (fun s ↦ s.toList.head?) h
  simp [configName, temporaryName, String.toList_append] at hhead

/-- Only the entry of the document decides what is stored. -/
theorem stored_congr {directory directory' : Directory}
    (h : directory' configName = directory configName) :
    stored crates directory' = stored crates directory := by
  simp [stored, loadConfig, readOriginal, Directory.read, h]

theorem stored_of_text {directory : Directory} {text : String} {config : PersistedConfig}
    (hentry : directory configName = some (.file (.text text)))
    (htext : decode crates text = .ok config) : stored crates directory = .ok config := by
  simp [stored, loadConfig, readOriginal, Directory.read, hentry, htext, bind, Except.bind, pure,
    Except.pure, Except.map]

/-- What `saveConfig` writes decodes to what it was given. -/
theorem decode_encode (hcrates : crates.Faithful) {rules : List Rule} {settings : Settings}
    {config : ConfigV2} {text : String} (hconfig : ConfigV2.fromDomain rules settings = .ok config)
    (htext : crates.tomlToString config = .ok text) :
    decode crates text = .ok ⟨rules, settings⟩ := by
  obtain ⟨-, hversion, hdomain⟩ := fromDomain_eq_ok hconfig
  obtain ⟨hheader, hv2⟩ := hcrates.decode_encode config text hversion htext
  simp [decode, schema, hheader, hv2, hversion, hdomain, Except.mapError, bind, Except.bind, pure,
    Except.pure]

/-- **What a replacement does**: the new text is in place, or the old entry is. -/
theorem replace_spec {faults : ReplaceFaults} {directory directory' : Directory} {text : String}
    {result : Except StoreError Unit}
    (h : replace crates faults directory text = (result, directory')) :
    (committed result = true ∧ directory' configName = some (.file (.text text))) ∨
      (committed result = false ∧ directory' configName = directory configName) := by
  have hname := configName_ne_temporaryName crates faults.id
  unfold replace at h
  rcases hcreate : directory.create faults.create (temporaryName crates faults.id) with
    ⟨outcome, created⟩
  have hcreated := Directory.create_of_ne hcreate hname
  cases outcome with
  | error e =>
    simp only [hcreate] at h
    cases h
    exact Or.inr ⟨rfl, hcreated⟩
  | ok u =>
    -- every way to abandon the temporary file leaves the document alone
    have habandon : ∀ contents : Contents,
        (created.write (temporaryName crates faults.id) contents).discard faults.discard
          (temporaryName crates faults.id) configName = directory configName := by
      intro contents
      rw [Directory.discard_of_ne _ _ hname, Directory.write_of_ne _ _ hname, hcreated]
    simp only [hcreate] at h
    split at h
    · cases h
      exact Or.inr ⟨rfl, habandon _⟩
    · split at h
      · cases h
        exact Or.inr ⟨rfl, habandon _⟩
      · split at h
        · cases h
          exact Or.inr ⟨rfl, habandon _⟩
        · split at h
          · cases h
            exact Or.inr ⟨rfl, habandon _⟩
          · rename_i renamed hrename
            have htarget := Directory.rename_target hrename hname
            rw [Directory.write_self] at htarget
            split at h <;> cases h <;> exact Or.inl ⟨rfl, htarget⟩

/-! ### Refusals before the replacement -/

/-- A computation whose errors all mean that the document was not replaced. -/
def Refuses {α : Type} (x : Except StoreError α) : Prop :=
  ∀ e, x = .error e → committed (.error e) = false

theorem Refuses.ok {α : Type} (a : α) : Refuses (.ok a) := fun _ h ↦ nomatch h

theorem Refuses.bind {α β : Type} {x : Except StoreError α} {f : α → Except StoreError β}
    (hx : Refuses x) (hf : ∀ a, Refuses (f a)) : Refuses (x >>= f) := by
  intro e h
  cases x with
  | error e' =>
    cases h
    exact hx e rfl
  | ok a => exact hf a e h

theorem Refuses.mapError {α : Type} {x : Except String α} {f : String → StoreError}
    (hf : ∀ error, committed (.error (f error)) = false) : Refuses (x.mapError f) := by
  intro e h
  cases x with
  | error e' =>
    cases h
    exact hf e'
  | ok a => cases h

theorem refuses_domainRules (wires : List WireRule) : Refuses (domainRules wires) := by
  intro e h
  unfold domainRules at h
  split at h
  · cases h
    rfl
  · split at h <;> cases h
    rfl

theorem refuses_intoDomain (config : ConfigV2) : Refuses config.intoDomain := by
  unfold ConfigV2.intoDomain
  split
  · rintro e ⟨⟩
    rfl
  · exact (refuses_domainRules config.rules).bind fun rules ↦ .ok (rules, config.settings)

theorem refuses_decode (text : String) : Refuses (decode crates text) := by
  refine Refuses.bind (.mapError fun _ ↦ rfl) fun version ↦ ?_
  split
  · rintro e ⟨⟩
    rfl
  · exact ((Refuses.mapError fun _ ↦ rfl).bind refuses_intoDomain).bind fun _ ↦ .ok _

theorem refuses_readOriginal (faults : ReadFaults) (directory : Directory) :
    Refuses (readOriginal faults directory) := by
  intro e h
  unfold readOriginal at h
  split at h
  · split at h <;> cases h
    rfl
  · split at h <;> cases h <;> rfl

theorem refuses_loadConfig (faults : ReadFaults) (directory : Directory) :
    Refuses (loadConfig crates faults directory) := by
  refine (refuses_readOriginal faults directory).bind fun original ↦ ?_
  cases original with
  | none => exact .ok none
  | some text => exact (refuses_decode text).bind fun _ ↦ .ok _

theorem refuses_fromDomain (rules : List Rule) (settings : Settings) :
    Refuses (ConfigV2.fromDomain rules settings) := by
  intro e h
  unfold ConfigV2.fromDomain at h
  split at h <;> cases h
  rfl

/-- **What a save does.** Either the document was replaced, and then it decodes to the valid rules
and the settings that were saved, or its entry is the one from before. -/
theorem saveConfig_spec (hcrates : crates.Faithful) {faults : SaveFaults}
    {directory directory' : Directory} {rules : List Rule} {settings : Settings}
    {result : Except StoreError Unit}
    (h : saveConfig crates faults directory rules settings = (result, directory')) :
    (committed result = true ∧ validateRuleSet rules = .ok () ∧
        stored crates directory' = .ok ⟨rules, settings⟩) ∨
      (committed result = false ∧ directory' configName = directory configName) := by
  unfold saveConfig at h
  split at h
  · rename_i e hconfig
    cases h
    exact Or.inr ⟨refuses_fromDomain rules settings e hconfig, rfl⟩
  · rename_i config hconfig
    split at h
    · cases h
      exact Or.inr ⟨rfl, rfl⟩
    · rename_i text htext
      split at h
      · rename_i e hload
        cases h
        exact Or.inr ⟨refuses_loadConfig _ _ e hload, rfl⟩
      · rcases replace_spec h with ⟨hcommitted, hentry⟩ | hkept
        · exact Or.inl ⟨hcommitted, (fromDomain_eq_ok hconfig).1,
            stored_of_text hentry (decode_encode hcrates hconfig htext)⟩
        · exact Or.inr hkept

/-! ## What an open does -/

theorem readOriginal_of_faults {faults : ReadFaults} {directory : Directory}
    {original : Option String} (h : readOriginal faults directory = .ok original) :
    readOriginal {} directory = .ok original := by
  unfold readOriginal at h ⊢
  cases hfault : faults.openFile with
  | some fault =>
    rw [hfault] at h
    simp [Directory.read, fault.present] at h
  | none =>
    rw [hfault] at h
    split at h
    · rename_i e hread
      rw [hread]
      exact h
    · rename_i contents hread
      rw [hread]
      split at h
      · cases h
      · cases h
      · exact h

theorem stored_of_readOriginal {faults : ReadFaults} {directory : Directory}
    {original : Option String} (h : readOriginal faults directory = .ok original) :
    stored crates directory =
      match original with
      | none => .ok .empty
      | some text => decode crates text := by
  cases original with
  | none => simp [stored, loadConfig, readOriginal_of_faults h, bind, Except.bind, pure,
      Except.pure, Except.map]
  | some text =>
    cases hdecode : decode crates text <;>
      simp [stored, loadConfig, readOriginal_of_faults h, hdecode, bind, Except.bind, pure,
        Except.pure, Except.map]

theorem valid_of_intoDomain {config : ConfigV2} {rules : List Rule} {settings : Settings}
    (h : config.intoDomain = .ok (rules, settings)) : validateRuleSet rules = .ok () := by
  unfold ConfigV2.intoDomain at h
  split at h
  · cases h
  · cases hrules : domainRules config.rules with
    | error e => rw [hrules] at h; cases h
    | ok rules' =>
      rw [hrules] at h
      cases h
      exact valid_of_domainRules hrules

theorem valid_of_decode {text : String} {config : PersistedConfig}
    (h : decode crates text = .ok config) : validateRuleSet config.rules = .ok () := by
  cases hversion : schema crates text with
  | error e => simp [decode, hversion, bind, Except.bind] at h
  | ok version =>
    simp only [decode, hversion, bind, Except.bind] at h
    split at h
    · cases h
    · split at h
      · cases h
      · rename_i domain hdomain
        cases h
        cases hv2 : (crates.tomlV2 text).mapError StoreError.decode with
        | error e => simp [hv2] at hdomain
        | ok v2 => exact valid_of_intoDomain (by simpa [hv2] using hdomain)

theorem migrated_spec (hcrates : crates.Faithful) {original text : String}
    {config : PersistedConfig} (h : migrated crates original = .ok (config, text)) :
    decode crates text = .ok config := by
  cases hv2 : migrateV1 crates original with
  | error e => simp [migrated, hv2, bind, Except.bind] at h
  | ok v2 =>
    cases hdomain : v2.intoDomain with
    | error e => simp [migrated, hv2, hdomain, bind, Except.bind] at h
    | ok domain =>
      cases hconfig : ConfigV2.fromDomain domain.1 domain.2 with
      | error e => simp [migrated, hv2, hdomain, hconfig, bind, Except.bind] at h
      | ok encoded =>
        cases htext : crates.tomlToString encoded with
        | error e =>
          simp [migrated, hv2, hdomain, hconfig, htext, bind, Except.bind, Except.mapError] at h
        | ok written =>
          simp [migrated, hv2, hdomain, hconfig, htext, bind, Except.bind, Except.mapError, pure,
            Except.pure] at h
          obtain ⟨rfl, rfl⟩ := h
          exact decode_encode hcrates hconfig htext

/-- **What a successful open does**: the rules it returns are valid, and what is stored afterwards
is what it returned. -/
theorem loadOrMigrateV1_spec (hcrates : crates.Faithful) {faults : OpenFaults}
    {directory directory' : Directory} {result : Option PersistedConfig}
    (h : loadOrMigrateV1 crates faults directory = (.ok result, directory')) :
    validateRuleSet (result.getD .empty).rules = .ok () ∧
      stored crates directory' = .ok (result.getD .empty) := by
  unfold loadOrMigrateV1 at h
  split at h
  · cases h
  · rename_i hread
    cases h
    exact ⟨validateRuleSet_nil, stored_of_readOriginal hread⟩
  · rename_i original hread
    split at h
    · cases h
    · rename_i version hversion
      split at h
      · -- a document of the current version is decoded as it is
        cases hdecode : decode crates original with
        | error e => rw [hdecode] at h; cases h
        | ok config =>
          rw [hdecode] at h
          cases h
          exact ⟨valid_of_decode hdecode, (stored_of_readOriginal hread).trans hdecode⟩
      · split at h
        · cases h
        · split at h
          · cases h
          · split at h
            · cases h
            · rename_i config text hmigrated
              split at h
              · cases h
              · rename_i hreplace
                cases h
                have hdecode := migrated_spec hcrates hmigrated
                rcases replace_spec hreplace with ⟨-, hentry⟩ | ⟨hnot, -⟩
                · exact ⟨valid_of_decode hdecode, stored_of_text hentry hdecode⟩
                · cases hnot

end TunnelDeck
