import TunnelDeck.Tui.App

/-!
# The keys of the terminal client

`handle_key` gives a key to the dialog that is open, and to the page when there is none. The
handlers call the daemon, the SSH configuration and the browser through a `World`, whose state they
thread.
-/

namespace TunnelDeck.Tui

open Json (Value)

/-! ## The surroundings -/

/-- What the client calls: the terminal, `UiService`, the catalog of hosts, the random ids, the
probes of ports and the browser. A text stands for an error. -/
structure World (σ : Type) where
  crates : Crates
  terminal : Terminal
  call : Operation → Value → σ → Except String Value × σ
  loadRules : σ → Except String (List RuleView) × σ
  loadSettings : σ → Except String Settings × σ
  saveSettings : Settings → σ → Except String Settings × σ
  refreshHosts : σ → Except String (List String) × σ
  importPreview : String → List Rule → List Uuid → σ → Except String ImportPreview × σ
  newIds : σ → (ℕ → Uuid) × σ
  bindable : σ → String → UInt16 → Bool
  openBrowser : String → σ → Except String Unit × σ

/-- `url`. -/
def RuleView.url (scheme : String) (view : RuleView) : String :=
  let address := if ':' ∈ view.bindAddress.toList then "[" ++ view.bindAddress ++ "]"
    else view.bindAddress
  scheme ++ "://" ++ address ++ ":" ++ toString view.bindPort.toNat

/-- `Form::new`. -/
def Form.new (id : Uuid) (host : String) : Form where
  id
  editing := false
  activeOriginal := none
  host
  name := ""
  remotePort := ""
  localPort := ""
  field := 0
  suggestion := none
  error := none
  kind := "local"
  autoStart := false
  reconnect := false

section

variable {σ : Type} (w : World σ)

def ruleIdPayload (crates : Crates) (id : Uuid) : Value :=
  .object [("rule_id", encodeUuid crates id)]

/-! ## Reloading -/

def reloadSettings (x : App × σ) : App × σ :=
  match w.loadSettings x.2 with
  | (.ok settings, s) => (x.1.withSettings settings, s)
  | (.error _, s) => (x.1, s)

/-- `refresh`. -/
def refresh (x : App × σ) : App × σ :=
  match w.loadRules x.2 with
  | (.ok rules, s) => reloadSettings w (x.1.replaceRules rules, s)
  | (.error error, s) => reloadSettings w (x.1.say error, s)

/-! ## Importing -/

/-- `rule_snapshots`. -/
def ruleSnapshots (app : App) : Except String (List Rule × List Uuid) :=
  match app.rules.mapM fun view ↦ Rule.ofWire view.toWire with
  | .error error => .error error.toString
  | .ok rules => .ok (rules,
      (app.rules.filter fun view ↦ view.state ≠ "stopped").map RuleView.id)

/-- `open_import`. -/
def openImport (host : String) (x : App × σ) : App × σ :=
  match ruleSnapshots x.1 with
  | .error error => (x.1.withPanel (some (.ofError host error)), x.2)
  | .ok (rules, running) =>
    match w.importPreview host rules running x.2 with
    | (.ok preview, s) => (x.1.withPanel (some (.ofPreview preview)), s)
    | (.error error, s) => (x.1.withPanel (some (.ofError host error)), s)

/-- The panel after a request that failed. -/
def ImportPanel.failed (error : String) (panel : ImportPanel) : ImportPanel :=
  { panel with confirming := false, error := some error }

/-- The rules that were selected are sent: the rest of `save_import`. -/
def sendImport (panel : ImportPanel) (rules : List Rule) (x : App × σ) : App × σ :=
  let wire := rules.map fun rule ↦ encodeRule w.crates (WireRule.ofRule rule)
  match w.call .forwardImport (.object [("rules", .array wire)]) x.2 with
  | (.error error, s) => (x.1.withPanel (some (panel.failed error)), s)
  | (.ok _, s) =>
    let message := "選択した " ++ toString panel.selected.card ++ " 件を保存しました（未起動）"
    refresh w ((x.1.withPanel none).say message, s)

/-- `save_import`. -/
def saveImport (panel : ImportPanel) (x : App × σ) : App × σ :=
  match panel.preview with
  | none => x
  | some preview =>
    match ruleSnapshots x.1 with
    | .error error => (x.1.say error, x.2)
    | .ok (existing, _) =>
      match w.loadSettings x.2 with
      | (.error error, s) => ((x.1.say error).withPanel (some (panel.failed error)), s)
      | (.ok settings, s) =>
        let ids := w.newIds s
        match selectedRules preview panel.selected existing settings.defaultAutoStart
            settings.defaultReconnect ids.1 with
        | .error error => (x.1.say error, ids.2)
        | .ok rules => sendImport w panel rules (x.1, ids.2)

/-- The selection with the candidate under the cursor added or removed, if it can be saved. -/
def ImportPanel.toggle (panel : ImportPanel) : ImportPanel :=
  let candidate := panel.preview.bind fun preview ↦ preview.candidates[panel.cursor]?
  let id := panel.cursor + 1
  if candidate.any fun candidate ↦ candidate.classification = .supported then
    { panel with
      selected := if id ∈ panel.selected then panel.selected.erase id
        else insert id panel.selected }
  else panel

/-- `handle_import_key`. -/
def handleImportKey (code : KeyCode) (panel : ImportPanel) (x : App × σ) : App × σ :=
  let keep (panel : ImportPanel) : App × σ := (x.1.withPanel (some panel), x.2)
  if panel.confirming then
    if code = .enter ∨ code = .char 'y' then saveImport w panel x
    else if code = .esc ∨ code = .char 'n' then keep { panel with confirming := false }
    else x
  else
    let length := panel.preview.elim 0 fun preview ↦ preview.candidates.length
    if code = .esc then (x.1.withPanel none, x.2)
    else if (code = .down ∨ code = .char 'j') ∧ length ≠ 0 then
      keep { panel with cursor := min (panel.cursor + 1) (length - 1) }
    else if (code = .up ∨ code = .char 'k') ∧ length ≠ 0 then
      keep { panel with cursor := panel.cursor - 1 }
    else if code = .char ' ' ∧ length ≠ 0 then keep panel.toggle
    else if code = .enter ∧ panel.selected ≠ ∅ then keep { panel with confirming := true }
    else x

/-! ## Deleting -/

/-- What is shown after a removal that failed. -/
def explainRemoval (id : Uuid) (error : String) (x : App × σ) : App × σ :=
  match w.loadRules x.2 with
  | (.ok rules, s) =>
    ((x.1.replaceRules rules).say
      (if rules.any fun rule ↦ rule.id = id then "削除失敗。状態確認後 dで再試行: " ++ error
      else "一覧から消えました。再起動後に確認: " ++ error), s)
  | (.error refreshError, s) =>
    (x.1.say ("状態不明。再接続後に確認: " ++ error ++ "; 再取得失敗: " ++ refreshError), s)

/-- A message over what is shown. -/
def sayLast (message : String) (x : App × σ) : App × σ := (x.1.say message, x.2)

/-- The removal of a rule, and what is shown after it. -/
def removeRule (id : Uuid) (x : App × σ) : App × σ :=
  match w.call .forwardRemove (ruleIdPayload w.crates id) x.2 with
  | (.ok _, s) => sayLast "転送を削除しました" (refresh w (x.1, s))
  | (.error error, s) => explainRemoval w id error (x.1, s)

def deleteRule (confirmation : DeleteConfirmation) (x : App × σ) : App × σ :=
  if confirmation.stopFirst then
    match w.call .forwardStop (ruleIdPayload w.crates confirmation.id) x.2 with
    | (.error error, s) =>
      sayLast ("停止できませんでした: " ++ error ++ "。状態を確認して再試行してください")
        (refresh w (x.1, s))
    | (.ok _, s) => removeRule w confirmation.id (x.1, s)
  else removeRule w confirmation.id x

/-- The keys of `handle_key` while a deletion is to be confirmed. -/
def handleDeleteKey (code : KeyCode) (confirmation : DeleteConfirmation) (x : App × σ) : App × σ :=
  let closed := (x.1.withConfirmation none, x.2)
  if code = .char 'y' ∨ code = .enter then deleteRule w confirmation closed
  else if code = .char 'n' ∨ code = .esc then closed
  else x

/-! ## The form -/

/-- The lists after an edit, and whether the rules could be loaded. -/
def reloadEdited (x : App × σ) : Except String Unit × (App × σ) :=
  match w.loadRules x.2 with
  | (.ok rules, s) => (.ok (), reloadSettings w (x.1.replaceRules rules, s))
  | (.error error, s) => (.error error, reloadSettings w (x.1, s))

/-- An active rule is replaced: the rest of `Enter` in a form that kept its rule. -/
def editActive (expected : WireRule) (payload : Value) (x : App × σ) : App × σ :=
  let (outcome, s) := w.call .forwardEditActive (editPayload w.crates expected payload) x.2
  let (refreshed, y) := reloadEdited w (x.1.withForm none, s)
  sayLast
    (match outcome, refreshed with
    | .ok _, .ok _ => "転送を保存して再起動しました"
    | .error error, .ok _ => "編集結果を一覧で確認: " ++ error
    | .ok _, .error refreshError => "表示更新失敗。再接続して確認: " ++ refreshError
    | .error error, .error refreshError =>
      "状態不明。再接続して確認: " ++ error ++ "; 再取得失敗: " ++ refreshError) y

/-- A rule is added and started: the rest of `Enter` in the other forms. -/
def addRule (payload : Value) (form : Form) (x : App × σ) : App × σ :=
  match w.call .forwardAdd payload x.2 with
  | (.error error, s) => (x.1.withForm (some { form with error := some error }), s)
  | (.ok value, s) =>
    let id := ((value.get "rule_id").asStr.bind w.crates.parseUuid).getD form.id
    match w.call .forwardStart (ruleIdPayload w.crates id) s with
    | (.ok _, s) => refresh w ((x.1.say "転送を保存して起動しました").withForm none, s)
    | (.error error, s) =>
      (x.1.withForm (some { form with
        error := some ("保存済みですが起動できません: " ++ error) }), s)

/-- `Enter` in an open form. -/
def submit (form : Form) (x : App × σ) : App × σ :=
  match form.payload w.crates (w.bindable x.2) with
  | (none, form) => (x.1.withForm (some form), x.2)
  | (some payload, form) =>
    let y := (x.1.withForm (some form), x.2)
    match form.activeOriginal with
    | some expected => editActive w expected payload y
    | none => addRule w payload form y

/-- The keys of `handle_key` in an open form. -/
def handleFormKey (code : KeyCode) (form : Form) (x : App × σ) : App × σ :=
  if code = .esc then (x.1.withForm none, x.2)
  else if code = .enter then submit w form x
  else (x.1.withForm (some (form.press (w.bindable x.2) code)), x.2)

/-! ## The pages -/

/-- The setting in a row is changed to its next value. -/
def changeSetting (row : ℕ) (settings : Settings) : Settings :=
  match row with
  | 0 =>
    { settings with
      theme :=
        match settings.theme with
        | .system => .dark
        | .dark => .light
        | .light => .system }
  | 1 =>
    { settings with
      logLevel :=
        match settings.logLevel with
        | .error => .warn
        | .warn => .info
        | .info => .debug
        | .debug => .trace
        | .trace => .error }
  | 2 => { settings with defaultReconnect := !settings.defaultReconnect }
  | _ => { settings with defaultAutoStart := !settings.defaultAutoStart }

def saveSetting (x : App × σ) : App × σ :=
  match w.saveSettings (changeSetting x.1.settingsField x.1.settings) x.2 with
  | (.ok settings, s) => ((x.1.withSettings settings).say "設定を保存しました", s)
  | (.error error, s) => (x.1.say error, s)

/-- A form for a new rule of the selected host. -/
def openForm (x : App × σ) : App × σ :=
  match x.1.hosts[x.1.selectedHost]? with
  | none => x
  | some host =>
    let ids := w.newIds x.2
    (x.1.withForm (some { Form.new (ids.1 0) host with
      autoStart := x.1.settings.defaultAutoStart
      reconnect := x.1.settings.defaultReconnect }), ids.2)

def reloadHosts (x : App × σ) : App × σ :=
  match w.refreshHosts x.2 with
  | (.ok hosts, s) => ((x.1.replaceHosts hosts).say "ホスト一覧を更新しました", s)
  | (.error error, s) => (x.1.say error, s)

/-- The selected rule is opened for editing, unless it is on its way to another state. -/
def openEdit (x : App × σ) : App × σ :=
  match x.1.selected with
  | none => x
  | some rule =>
    if rule.state = "stopped" ∨ rule.state = "active" then
      (x.1.withForm (some (Form.edit rule)), x.2)
    else (x.1.say "転送が稼働中または停止済みになってから編集してください", x.2)

/-- The selected rule is opened under a new id. -/
def openDuplicate (x : App × σ) : App × σ :=
  match x.1.selected with
  | none => x
  | some rule =>
    let ids := w.newIds x.2
    (x.1.withForm (some (Form.duplicate (ids.1 0) rule)), ids.2)

/-- The deletion of the selected rule is to be confirmed. -/
def openDelete (x : App × σ) : App × σ :=
  match x.1.selected with
  | none => x
  | some rule => (x.1.withConfirmation (some ⟨rule.id, rule.state ≠ "stopped"⟩), x.2)

def toggleRule (x : App × σ) : App × σ :=
  match x.1.selected with
  | none => x
  | some rule =>
    let operation := if rule.state = "stopped" then .forwardStart else .forwardStop
    match w.call operation (ruleIdPayload w.crates rule.id) x.2 with
    | (.ok _, s) => refresh w (x.1, s)
    | (.error error, s) => (x.1.say error, s)

/-- `open_selected`. -/
def openSelected (scheme : String) (x : App × σ) : App × σ :=
  match x.1.selected with
  | none => x
  | some rule =>
    let url := rule.url scheme
    match w.openBrowser url x.2 with
    | (.ok _, s) => (x.1.say ("ブラウザで " ++ url ++ " を開きました"), s)
    | (.error error, s) => (x.1.say ("ブラウザを起動できません: " ++ error), s)

/-- An import for the selected host, or for the host of the selected rule. -/
def openImportFor (host : Option String) (x : App × σ) : App × σ :=
  match host with
  | some host => openImport w host x
  | none => x

/-- `Esc` among the hosts. -/
def leaveHosts (app : App) : App :=
  match app.hostsReturn with
  | some previous => { app with hostsReturn := none }.showPage previous
  | none => app

/-- The hosts are shown for a new rule. -/
def chooseHost (app : App) : App :=
  { app with
    hostsReturn := if app.page ≠ .hosts then some app.page else app.hostsReturn
    page := .hosts
    message := "ホストを選び Enter を押してください" }

/-- The keys of `handle_key` when no dialog is open. -/
def handlePageKey (code : KeyCode) (x : App × σ) : App × σ :=
  let app := x.1
  if code = .char 'q' then ({ app with quit := true }, x.2)
  else if code = .char '?' then (app.showPage .help, x.2)
  else if code = .esc ∧ app.page = .hosts then (leaveHosts app, x.2)
  else if code = .tab then (app.showPage app.page.next, x.2)
  else if (code = .down ∨ code = .char 'j') ∧ app.page = .settings then
    ({ app with settingsField := (app.settingsField + 1) % 4 }, x.2)
  else if (code = .up ∨ code = .char 'k') ∧ app.page = .settings then
    ({ app with settingsField := (app.settingsField + 3) % 4 }, x.2)
  else if (code = .left ∨ code = .right ∨ code = .enter ∨ code = .char ' ') ∧
      app.page = .settings then saveSetting w x
  else if code = .down ∨ code = .char 'j' then (app.moveSelection 1, x.2)
  else if code = .up ∨ code = .char 'k' then (app.moveSelection (-1), x.2)
  else if code = .enter ∧ app.page = .hosts then openForm w x
  else if code = .enter ∧ app.page = .dashboard then (app.showPage .detail, x.2)
  else if code = .char 'n' then (chooseHost app, x.2)
  else if code = .char 'r' ∧ app.page = .hosts then reloadHosts w x
  else if code = .char 'i' ∧ app.page = .hosts then
    openImportFor w app.hosts[app.selectedHost]? x
  else if code = .char 'i' ∧ (app.page = .dashboard ∨ app.page = .detail) then
    openImportFor w (app.selected.map RuleView.host) x
  else if code = .char 'e' then openEdit x
  else if code = .char 'c' then openDuplicate w x
  else if code = .char 'd' ∧ (app.page = .dashboard ∨ app.page = .detail) then openDelete x
  else if code = .char ' ' then toggleRule w x
  else if code = .char 'h' ∧ app.page = .detail then openSelected w "http" x
  else if code = .char 's' ∧ app.page = .detail then openSelected w "https" x
  else x

/-- `handle_key`. -/
def handleKey (key : KeyEvent) (x : App × σ) : App × σ :=
  if key.control ∧ key.code = .char 'c' then ({ x.1 with quit := true }, x.2)
  else
    match x.1.importPanel, x.1.confirmDelete, x.1.form with
    | some panel, _, _ => handleImportKey w key.code panel x
    | none, some confirmation, _ => handleDeleteKey w key.code confirmation x
    | none, none, some form => handleFormKey w key.code form x
    | none, none, none => handlePageKey w key.code x

/-! ## What reloading leaves alone -/

def App.dialogs (app : App) : Option Form × Option DeleteConfirmation × Option ImportPanel :=
  (app.form, app.confirmDelete, app.importPanel)

theorem dialogs_moveSelection (delta : ℤ) (app : App) :
    (app.moveSelection delta).dialogs = app.dialogs := by
  rw [App.moveSelection]
  split <;> rfl

theorem dialogs_reloadSettings (x : App × σ) : (reloadSettings w x).1.dialogs = x.1.dialogs := by
  rw [reloadSettings]
  split <;> rfl

theorem dialogs_refresh (x : App × σ) : (refresh w x).1.dialogs = x.1.dialogs := by
  rw [refresh]
  split
  · exact dialogs_reloadSettings w _
  · exact dialogs_reloadSettings w _

theorem dialogs_reloadEdited (x : App × σ) :
    (reloadEdited w x).2.1.dialogs = x.1.dialogs := by
  rw [reloadEdited]
  split
  · exact dialogs_reloadSettings w _
  · exact dialogs_reloadSettings w _

end

/-- A terminal in which the titles of the tabs take two columns for each character. -/
def exampleTerminal : Terminal where
  split size :=
    (⟨size.x, size.y, size.width, 3⟩, ⟨size.x, size.y + 3, size.width, size.height - 5⟩)
  lineWidth title := UInt16.ofNat (2 * title.length)

/-- A world in which every call succeeds and these are the rules. -/
def exampleWorld (rules : List RuleView) : World Unit where
  crates := exampleCrates
  terminal := exampleTerminal
  call _ _ s := (.ok .null, s)
  loadRules s := (.ok rules, s)
  loadSettings s := (.ok Settings.default, s)
  saveSettings settings s := (.ok settings, s)
  refreshHosts s := (.ok ["production"], s)
  importPreview sshHostAlias _ _ s := (.ok ⟨sshHostAlias, []⟩, s)
  newIds s := (BitVec.ofNat 128, s)
  bindable _ _ _ := true
  openBrowser _ s := (.ok (), s)

end TunnelDeck.Tui
