import TunnelDeck.Daemon.Lifecycle

/-!
# Configuration in memory and on disk

The rules and the settings in memory are written by two sections only: a request handled under the
lock and the save of an edit. Both go through a save and take the new configuration over exactly
when the document was replaced. Hence the two agree in every state between sections, whatever the
interleaving and however each save ends.
-/

namespace TunnelDeck

open Concurrency

/-! ## Sections that do not write the configuration -/

namespace State

/-- What is in memory of the configuration, with the directory that stores it. -/
def config (s : State) : Directory × PersistedConfig := (s.directory, ⟨s.rules, s.settings⟩)

variable (s : State) (id : Uuid)

@[simp] theorem config_setEntry (entry : Attempt) : (s.setEntry id entry).config = s.config := rfl
@[simp] theorem config_removeEntry : (s.removeEntry id).config = s.config := rfl
@[simp] theorem config_updateInfo (f : RuntimeInfo → RuntimeInfo) :
    (s.updateInfo id f).config = s.config := rfl
@[simp] theorem config_removeInfo : (s.removeInfo id).config = s.config := rfl
@[simp] theorem config_markStopped : (s.markStopped id).config = s.config := rfl
@[simp] theorem config_unmarkStopped : (s.unmarkStopped id).config = s.config := rfl
@[simp] theorem config_reserve : (s.reserve id).config = s.config := rfl
@[simp] theorem config_unreserve : (s.unreserve id).config = s.config := rfl

@[simp] theorem config_release (manual : Bool) : (s.release manual id).config = s.config := by
  cases manual <;> rfl

@[simp] theorem config_clearFailed : (s.clearFailed id).config = s.config := by
  unfold clearFailed
  split <;> rfl

end State

theorem config_foldl {f : State → Uuid → State} (h : ∀ s id, (f s id).config = s.config)
    (ids : List Uuid) (s : State) : (ids.foldl f s).config = s.config := by
  induction ids generalizing s with
  | nil => rfl
  | cons id ids ih => rw [List.foldl_cons, ih, h]

@[simp] theorem config_resetRetries (now : ℕ) (s : State) (id : Uuid) :
    (resetRetries now s id).config = s.config := by
  unfold resetRetries
  split
  · rfl
  · split <;> rfl

@[simp] theorem config_recordExit (now : ℕ) (fresh : Uuid) (s : State) (id : Uuid) :
    (recordExit now fresh s id).config = s.config := by
  simp only [recordExit]
  split <;> simp

theorem config_maintainScan (order : List Uuid) (exited : ℕ → Bool) (now : ℕ) (fresh : Uuid)
    (s : State) : (maintainScan order exited now fresh s).2.config = s.config := by
  simp only [maintainScan]
  rw [config_foldl fun s id ↦ by simp [takeRetry], config_foldl (config_recordExit now fresh),
    config_foldl (config_resetRetries now)]

theorem config_startFailed (editOwned : Bool) (launch : Launch) (error : ProcessError) (now : ℕ)
    (s : State) : (startFailed editOwned launch error now s).2.config = s.config := by
  simp only [startFailed]
  split
  · split
    · simp
    · split <;> simp
  · rfl

theorem config_startFinish (editOwned : Bool) (launch : Launch) (attempt : Option ManagedAttempt)
    (now : ℕ) (s : State) : (startFinish editOwned launch attempt now s).2.config = s.config := by
  unfold startFinish
  split
  · cases editOwned <;> simp
  · rfl

variable {crates : Crates} {managed : Bool}

theorem config_startEnter (crates : Crates) (automatic editOwned : Bool) (payload : Json.Value)
    (attemptId : Uuid) (bind : Option IoError) (s : State) :
    (startEnter crates automatic editOwned payload attemptId bind s).2.config = s.config := by
  have h := startEnter_entered crates automatic editOwned payload attemptId bind s
  generalize (startEnter crates automatic editOwned payload attemptId bind s).1 = entry,
    (startEnter crates automatic editOwned payload attemptId bind s).2 = s' at h ⊢
  cases h with
  | unresolved => rfl
  | beingEdited => rfl
  | stopped => rfl
  | missing _ _ _ _ hs' | running _ _ _ _ _ _ hs' | refused _ _ _ _ _ _ hs'
  | launch _ _ _ _ _ _ hs' => simp [hs']

/-- **The two writers.** A section leaves the configuration alone, or it is a request handled under
the lock, or it is the save of an edit. -/
theorem exec_config (hcrates : crates.Faithful) (managed : Bool) (env : Env) (d : Daemon) (p : Pc) :
    (exec crates managed env d p).1.state.config = d.state.config ∨
      (∃ request reply events, p = .dispatch request ∧ Dispatched crates d.state
        (reply, events, (exec crates managed env d p).1.state)) ∨
      ∃ request edit outcome, p = .edit request edit .save ∧
        EditSaved crates edit d.state outcome (exec crates managed env d p).1.state := by
  cases p with
  | idle =>
    refine Or.inl ?_
    simp only [exec]
    split <;> rfl
  | returned request reply => exact Or.inl rfl
  | dispatch request =>
    exact Or.inr (Or.inl ⟨request, _, _, rfl,
      dispatch_spec hcrates env.save env.now request d.state⟩)
  | start caller pc =>
    refine Or.inl ?_
    cases pc with
    | enter =>
      have h := config_startEnter crates caller.automatic caller.editOwned
        (caller.payload crates) env.attemptId env.bind d.state
      simp only [exec, execStart]
      split <;> exact h
    | launch launch =>
      simp only [exec, execStart]
      split
      · split <;> rfl
      · rfl
    | spawned launch process =>
      simp only [exec, execStart]
      split <;> rfl
    | launched launch attempt =>
      have h := config_startFinish caller.editOwned launch attempt env.now d.state
      simp only [exec, execStart]
      split
      · exact h
      · split <;> exact h
    | failed launch error =>
      have h := config_startFailed caller.editOwned launch error env.now d.state
      simp only [exec, execStart]
      split <;> exact h
    | discard launch attempt => rfl
    | publish event id reply => rfl
  | stop request pc =>
    refine Or.inl ?_
    cases pc with
    | enter =>
      rcases hstop : stopEnter crates request.payload d.state with ⟨result, s⟩
      rcases stopEnter_spec hstop with ⟨failure, rfl, rfl⟩ | ⟨id, hid, hediting, hrule, rfl, rfl⟩
      · simp only [exec, execStop, hstop]
        rfl
      · simp only [exec, execStop, hstop]
        rfl
    | cleanup id attempt => rfl
    | publish id => rfl
  | editEnter request =>
    refine Or.inl ?_
    simp only [exec, execEditEnter]
    split
    · rfl
    · rename_i edit hedit
      rcases hreserve : editReserve crates edit d.state with ⟨result, s⟩
      rcases editReserve_spec hreserve with
        ⟨failure, rfl, rfl⟩ | ⟨attempt, hrule, hediting, hentry, rfl, rfl⟩ <;> rfl
  | edit request edit pc =>
    cases pc with
    | save =>
      -- the only section besides a dispatch that writes
      have hsaved := editSave_spec hcrates env.save edit d.state
      rcases hsave : editSave crates env.save edit d.state with ⟨outcome, s⟩
      rw [hsave] at hsaved
      refine Or.inr (Or.inr ⟨request, edit, outcome, rfl, ?_⟩)
      simp only [exec, execEdit, hsave]
      cases outcome with
      | none => exact hsaved
      | some outcome =>
        simp only
        split <;> exact hsaved
    | cleanup attempt => exact Or.inl rfl
    | stopFailed error => exact Or.inl rfl
    | publishFailed error => exact Or.inl rfl
    | publishStopped => exact Or.inl rfl
    | finish reply => exact Or.inl rfl
  | maintain poller pc =>
    refine Or.inl ?_
    cases pc with
    | scan =>
      simp only [exec, execMaintain, state_foldl_cleanup]
      exact config_maintainScan ..
    | publish events retry => cases events <;> rfl
  | supervise => exact Or.inl rfl

/-! ## Memory agrees with the document -/

/-- The document decodes to what is in memory, and that is valid. -/
structure Persisted (crates : Crates) (s : State) : Prop where
  stored : stored crates s.directory = .ok ⟨s.rules, s.settings⟩
  valid : validateRuleSet s.rules = .ok ()

theorem Persisted.of_config {s s' : State} (h : Persisted crates s) (hs : s'.config = s.config) :
    Persisted crates s' := by
  obtain ⟨hdirectory, hpersisted⟩ := Prod.mk.inj hs
  obtain ⟨hrules, hsettings⟩ := PersistedConfig.mk.inj hpersisted
  exact ⟨by rw [hdirectory, hrules, hsettings, h.stored], by rw [hrules, h.valid]⟩

/-- A failed save may have touched the directory, but not the document. -/
theorem Persisted.of_directory {s : State} (h : Persisted crates s) {directory : Directory}
    (hdirectory : directory configName = s.directory configName) :
    Persisted crates { s with directory } :=
  ⟨(stored_congr hdirectory).trans h.stored, h.valid⟩

theorem Persisted.next (hcrates : crates.Faithful) {env : Env} {d : Daemon} (p : Pc)
    (h : Persisted crates d.state) : Persisted crates (exec crates managed env d p).1.state := by
  rcases exec_config hcrates managed env d p with
    hconfig | ⟨request, reply, events, -, hdispatched⟩ | ⟨request, edit, outcome, -, hsaved⟩
  · exact h.of_config hconfig
  · generalize (exec crates managed env d p).1.state = s' at hdispatched
    cases hdispatched with
    | kept => exact h
    | unsaved error hdirectory => exact h.of_directory hdirectory
    | committed _ event hchange hvalid hstored hreply => exact ⟨hstored, hvalid⟩
  · generalize (exec crates managed env d p).1.state = s' at hsaved
    cases hsaved with
    | missing => exact h
    | unsaved herror hrule hdirectory => exact h.of_directory hdirectory
    | committed houtcome hrule hvalid hstored => exact ⟨hstored, hvalid⟩

theorem Persisted.of_open (hcrates : crates.Faithful) {faults : OpenFaults} {directory : Directory}
    {s : State} (h : openState crates faults directory = .ok s) : Persisted crates s := by
  unfold openState at h
  split at h
  · cases h
  · rename_i hload
    cases h
    obtain ⟨hvalid, hstored⟩ := loadOrMigrateV1_spec hcrates hload
    exact ⟨hstored, hvalid⟩

/-- **Memory and disk agree in every state between sections.** Whatever the threads do, in whatever
order, and however each save ends, the document decodes to the rules and settings in memory, and
the rules are valid. -/
theorem config_persisted (hcrates : crates.Faithful) {faults : OpenFaults} {directory : Directory}
    {s : State} (hopen : openState crates faults directory = .ok s) (as : List Choice) :
    Persisted crates (run (System.step crates managed) (System.opened s) as).shared.state :=
  invariant_run (System.step crates managed) (I := fun w ↦ Persisted crates w.shared.state)
    (fun _ _ h ↦ h.next hcrates _) (.of_open hcrates hopen) as

/-! ### An example -/

theorem checkHostAlias_production : checkHostAlias "production" = .ok () := by decide

theorem checkDestinationHost_loopback : checkDestinationHost "127.0.0.1" = .ok () := by decide

def exampleRule : Rule where
  id := 0x018f6ba03be87c429f1f61b99fc2e076
  name := ⟨"database", by decide⟩
  sshHostAlias := ⟨"production", checkHostAlias_production⟩
  forwarding := .localForwarding {
    bindAddress := .loopback
    bindPort := ⟨5433, by decide⟩
    destinationHost := ⟨"127.0.0.1", checkDestinationHost_loopback⟩
    destinationPort := ⟨5432, by decide⟩ }
  autoStart := true
  reconnect := true

/-- The example rule under the same id, with another name and another port. -/
def exampleTwin : Rule := { exampleRule with
  name := ⟨"replica", by decide⟩
  forwarding := .localForwarding {
    bindAddress := .loopback
    bindPort := ⟨5434, by decide⟩
    destinationHost := ⟨"127.0.0.1", checkDestinationHost_loopback⟩
    destinationPort := ⟨5432, by decide⟩ } }

/-- The twin under an id of its own. -/
def exampleOther : Rule := { exampleTwin with id := 0x018f6ba03be87c429f1f61b99fc2e077 }

/-- A local rule in a document, by its id, name and port. -/
def exampleLocalTable (id name port : String) : String :=
  "[[rules]]\nkind = \"local\"\nid = \"" ++ id ++ "\"\nname = \"" ++
    name ++ "\"\nssh_host_alias = \"production\"\nbind_address = \"127.0.0.1\"\n" ++
    "bind_port = " ++ port ++ "\ndestination_host = \"127.0.0.1\"\n" ++
    "destination_port = 5432\nauto_start = true\nreconnect = true\n\n"

/-- One of the two rules that share an id in a document, by its name and port. -/
def exampleRuleText (name port : String) : String :=
  exampleLocalTable "018f6ba0-3be8-7c42-9f1f-61b99fc2e076" name port

def exampleText (rules : String) : String :=
  "schema_version = 2\n\n" ++ rules ++ "[settings]\ntheme = \"system\"\nlog_level = \"info\"\n" ++
    "default_reconnect = false\ndefault_auto_start = false\n"

/-- The text of a document with two rules under distinct ids. -/
def examplePairText : String :=
  exampleText (exampleRuleText "database" "5433" ++
    exampleLocalTable "018f6ba0-3be8-7c42-9f1f-61b99fc2e077" "replica" "5434")

/-- The documents of the examples: a rule, its twin, or the rule with its twin or with the other
one. -/
def exampleCrates : Crates := .ofTable
  [(⟨2, [WireRule.ofRule exampleRule], .default⟩, exampleText (exampleRuleText "database" "5433")),
    (⟨2, [WireRule.ofRule exampleTwin], .default⟩, exampleText (exampleRuleText "replica" "5434")),
    (⟨2, [WireRule.ofRule exampleRule, WireRule.ofRule exampleTwin], .default⟩,
      exampleText (exampleRuleText "database" "5433" ++ exampleRuleText "replica" "5434")),
    (⟨2, [WireRule.ofRule exampleRule, WireRule.ofRule exampleOther], .default⟩, examplePairText)]

theorem exampleCrates_faithful : exampleCrates.Faithful :=
  Crates.ofTable_faithful (by decide +kernel)

def exampleFaults : OpenFaults := { id := 0, replace := { id := 0 } }

/-- The state of a daemon right after it was opened with some rules. -/
def exampleState (directory : Directory) (rules : List Rule) : State where
  directory
  rules
  settings := .default
  running := ∅
  diagnostics := ∅
  manuallyStopped := ∅
  editing := ∅

def exampleDirectory (text : String) : Directory :=
  Function.update (fun _ ↦ none) configName (some (.file (.text text)))

theorem openState_exampleDirectory {text : String} {rules : List Rule}
    (hheader : crates.tomlHeader text = .ok schemaVersion)
    (hdecode : decode crates text = .ok ⟨rules, .default⟩) :
    openState crates exampleFaults (exampleDirectory text) =
      .ok (exampleState (exampleDirectory text) rules) := by
  have hread : readOriginal {} (exampleDirectory text) = .ok (some text) := by
    simp [readOriginal, Directory.read, exampleDirectory]
  simp [openState, loadOrMigrateV1, exampleFaults, hread, schema, hheader, hdecode, exampleState,
    Except.mapError, Except.map]

/-- The daemon of the examples, opened with the example rule. -/
def exampleOpened : System := .opened
  (exampleState (exampleDirectory (exampleText (exampleRuleText "database" "5433")))
    [exampleRule])

theorem exampleOpened_open :
    openState exampleCrates exampleFaults
        (exampleDirectory (exampleText (exampleRuleText "database" "5433"))) =
      .ok exampleOpened.shared.state :=
  openState_exampleDirectory (by decide +kernel) (by decide +kernel)

/-- The daemon of the examples, opened with two rules. -/
def examplePair : System :=
  .opened (exampleState (exampleDirectory examplePairText) [exampleRule, exampleOther])

theorem examplePair_open :
    openState exampleCrates exampleFaults (exampleDirectory examplePairText) =
      .ok examplePair.shared.state :=
  openState_exampleDirectory (by decide +kernel) (by decide +kernel)

/-- A client adds the example rule, and the sync of the directory fails after the rename. -/
def exampleAdd : List Choice :=
  [(0, { call := some (.request ⟨.forwardAdd,
      encodeRule exampleCrates (WireRule.ofRule exampleRule)⟩) }),
    (0, { save := { replace := { id := 7, syncDirectory := some ⟨.other, "I/O error"⟩ } } })]

/-- The rule is in memory although the client got an error, and the document agrees. -/
theorem config_persisted_exampleAdd :
    (run (System.step exampleCrates true) (System.opened (exampleState (fun _ ↦ none) []))
        exampleAdd).shared.state.rules = [exampleRule] ∧
      Persisted exampleCrates (run (System.step exampleCrates true)
        (System.opened (exampleState (fun _ ↦ none) [])) exampleAdd).shared.state :=
  ⟨by decide +kernel, config_persisted exampleCrates_faithful
    (show openState exampleCrates exampleFaults (fun _ ↦ none) = .ok _ from rfl) exampleAdd⟩

end TunnelDeck
