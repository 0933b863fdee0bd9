import TunnelDeck.Application.Import
import TunnelDeck.Tui.Typing

/-!
# The terminal client

`App` is what the terminal client shows and where the user stands in it. Keys and mouse events are
handled one after the other; between them the lists of rules and hosts are replaced when the daemon
reports a change. What the daemon, the SSH configuration and the browser answer is decided outside:
a handler threads the state of a `World` through its calls.

The selected rule is kept twice, as an index into the list and as an id.
-/

namespace TunnelDeck.Tui

open Json (Value)

/-! ## What is shown -/

/-- `Page`. -/
inductive Page where
  | dashboard
  | hosts
  | detail
  | settings
  | help
  deriving DecidableEq

def Page.next : Page → Page
  | dashboard => hosts
  | hosts => detail
  | detail => settings
  | settings => help
  | help => dashboard

/-- `ImportPanel`. -/
structure ImportPanel where
  host : String
  preview : Option ImportPreview
  error : Option String
  cursor : ℕ
  selected : Finset ℕ
  confirming : Bool

/-- `ImportPanel::preview`. -/
def ImportPanel.ofPreview (preview : ImportPreview) : ImportPanel :=
  ⟨preview.sshHostAlias, some preview, none, 0, ∅, false⟩

/-- `ImportPanel::error`. -/
def ImportPanel.ofError (host error : String) : ImportPanel := ⟨host, none, some error, 0, ∅, false⟩

/-- `DeleteConfirmation`. -/
structure DeleteConfirmation where
  id : Uuid
  stopFirst : Bool
  deriving DecidableEq

/-- `App`. -/
structure App where
  page : Page
  hostsReturn : Option Page
  hosts : List String
  rules : List RuleView
  selectedHost : ℕ
  selectedRule : ℕ
  hostOffset : ℕ
  ruleOffset : ℕ
  selectedId : Option Uuid
  form : Option Form
  confirmDelete : Option DeleteConfirmation
  importPanel : Option ImportPanel
  message : String
  settings : Settings
  settingsField : ℕ
  quit : Bool

namespace App

/-- `App::default`. -/
def default : App where
  page := .dashboard
  hostsReturn := none
  hosts := []
  rules := []
  selectedHost := 0
  selectedRule := 0
  hostOffset := 0
  ruleOffset := 0
  selectedId := none
  form := none
  confirmDelete := none
  importPanel := none
  message := "Tab/上部クリック: 画面切替  行クリック/ホイール: 選択  ?: ヘルプ  q: 終了"
  settings := Settings.default
  settingsField := 0
  quit := false

def say (message : String) (app : App) : App := { app with message }

/-- A form is opened, changed or closed. -/
def withForm (form : Option Form) (app : App) : App := { app with form }

/-- A deletion is to be confirmed, or no longer. -/
def withConfirmation (confirmDelete : Option DeleteConfirmation) (app : App) : App :=
  { app with confirmDelete }

/-- The import panel is opened, changed or closed. -/
def withPanel (importPanel : Option ImportPanel) (app : App) : App := { app with importPanel }

/-- Other settings are in use. -/
def withSettings (settings : Settings) (app : App) : App := { app with settings }

/-- `show_page`. -/
def showPage (page : Page) (app : App) : App :=
  { app with
    page
    hostsReturn := if app.page = .hosts ∧ page ≠ .hosts then none else app.hostsReturn }

/-- `selected`. -/
def selected (app : App) : Option RuleView := app.rules[app.selectedRule]?

/-- A selection that is moved in a list, as far as the list goes. -/
def moved (selected length : ℕ) (delta : ℤ) : ℕ :=
  if length = 0 then selected else (max 0 (min (selected + delta) (length - 1))).toNat

/-- The id of the selected rule is taken anew. -/
def noteSelected (app : App) : App := { app with selectedId := app.selected.map RuleView.id }

/-- `move_selection`. -/
def moveSelection (delta : ℤ) (app : App) : App :=
  noteSelected
    (if app.page = .hosts then
      { app with selectedHost := moved app.selectedHost app.hosts.length delta }
    else { app with selectedRule := moved app.selectedRule app.rules.length delta })

/-- `replace_rules`. -/
def replaceRules (rules : List RuleView) (app : App) : App :=
  let keep := app.selectedId.or (app.selected.map RuleView.id)
  let found := keep.bind fun id ↦ rules.findIdx? fun rule ↦ rule.id = id
  noteSelected
    { app with
      rules
      selectedRule := found.getD (min app.selectedRule (rules.length - 1)) }

/-- `replace_hosts`. -/
def replaceHosts (hosts : List String) (app : App) : App :=
  let selectedHost := min app.selectedHost (hosts.length - 1)
  { app with hosts, selectedHost, hostOffset := min app.hostOffset selectedHost }

/-- Some dialog is in front of the page. -/
def hasDialog (app : App) : Bool :=
  app.form.isSome || app.confirmDelete.isSome || app.importPanel.isSome

end App

/-! ## The mouse -/

/-- `Rect`. -/
structure Rect where
  x : ℕ
  y : ℕ
  width : ℕ
  height : ℕ

namespace Rect

def right (r : Rect) : ℕ := r.x + r.width

def bottom (r : Rect) : ℕ := r.y + r.height

/-- `contains`. -/
def contains (r : Rect) (column row : ℕ) : Bool :=
  r.x ≤ column && column < r.right && r.y ≤ row && row < r.bottom

end Rect

/-- `MouseEventKind`, as far as it is looked at. -/
inductive MouseEventKind where
  | downLeft
  | scrollDown
  | scrollUp
  | other
  deriving DecidableEq

/-- `MouseEvent`. -/
structure MouseEvent where
  kind : MouseEventKind
  column : ℕ
  row : ℕ

/-- What the terminal library computes. -/
structure Terminal where
  /-- `Layout::split` of a window into three rows for the tabs, the page and two rows at the end,
  without the last part, which no mouse event looks at. -/
  split : Rect → Rect × Rect
  /-- `Line::width`, the columns that a text takes. -/
  lineWidth : String → UInt16

/-- `screen_areas`. -/
def screenAreas (terminal : Terminal) (size : Rect) : Option (Rect × Rect) :=
  if size.width < 42 ∨ size.height < 10 then none else some (terminal.split size)

/-- `list_offset`. -/
def listOffset (selected visible offset : ℕ) : ℕ :=
  if selected < offset then selected
  else if offset + visible ≤ selected then selected - (visible - 1)
  else offset

/-- The pages behind the tabs, and `TAB_TITLES`. -/
def tabs : List (Page × String) :=
  [(.dashboard, "ダッシュボード"), (.hosts, "ホスト"), (.detail, "詳細"), (.settings, "設定"),
    (.help, "ヘルプ")]

/-- The page of the tab in a column, the tabs that are left beginning in `left`. -/
def tabAt (terminal : Terminal) (column limit : ℕ) : ℕ → List (Page × String) → Option Page
  | _, [] => none
  | left, (page, title) :: rest =>
    let width := (terminal.lineWidth title).toNat + if rest = [] then 2 else 3
    let right := min (left + width) limit
    if left ≤ column ∧ column < right then some page else tabAt terminal column limit right rest

namespace App

/-- A click into the list of the page. -/
def click (content : Rect) (row : ℕ) (app : App) : App :=
  match app.page with
  | .dashboard =>
    if row ≤ content.y + 1 then app
    else
      let offset := listOffset app.selectedRule (content.height - 3) app.ruleOffset
      let index := offset + (row - content.y - 2)
      match app.rules[index]? with
      | none => app
      | some rule =>
        { app with selectedRule := index, selectedId := some rule.id, ruleOffset := offset }
  | .hosts =>
    let offset := listOffset app.selectedHost (content.height - 2) app.hostOffset
    let index := offset + (row - content.y - 1)
    if index < app.hosts.length then { app with selectedHost := index, hostOffset := offset }
    else app
  | _ => app

/-- A turn of the wheel. -/
def scroll (content : Rect) (delta : ℤ) (app : App) : App :=
  let app := app.moveSelection delta
  match app.page with
  | .dashboard =>
    { app with ruleOffset := listOffset app.selectedRule (content.height - 3) app.ruleOffset }
  | .hosts =>
    { app with hostOffset := listOffset app.selectedHost (content.height - 2) app.hostOffset }
  | _ => app

/-- `handle_mouse`. -/
def handleMouse (terminal : Terminal) (mouse : MouseEvent) (size : Rect) (app : App) : App :=
  if app.hasDialog then app
  else
    match screenAreas terminal size with
    | none => app
    | some (tabArea, content) =>
      match mouse.kind with
      | .downLeft =>
        let page :=
          if mouse.row = tabArea.y + 1 ∧ tabArea.x < mouse.column ∧
              mouse.column < tabArea.right - 1 then
            tabAt terminal mouse.column (tabArea.right - 1) (tabArea.x + 1) tabs
          else none
        match page with
        | some page => app.showPage page
        | none =>
          if mouse.column ≤ content.x ∨ content.right - 1 ≤ mouse.column ∨ mouse.row ≤ content.y ∨
              content.bottom - 1 ≤ mouse.row then app
          else app.click content mouse.row
      | .scrollDown | .scrollUp =>
        if content.contains mouse.column mouse.row ∧
            (app.page = .dashboard ∨ app.page = .hosts) then
          app.scroll content (if mouse.kind = .scrollDown then 1 else -1)
        else app
      | .other => app

end App

end TunnelDeck.Tui
