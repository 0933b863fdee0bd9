import TunnelDeck.Tui.Selecting

/-!
# Runs of the terminal client

Keys, mouse events and reloads come in any order. While a deletion is to be confirmed no other
dialog can be opened, so the confirmation stays what it was when its dialog was opened, whatever is
reloaded. The requests that the client sends are recorded by a `World` over the given one.

## Main result

`selection_kept`: what holds of the selection, and of the requests of a deletion, in every run.
-/

namespace TunnelDeck.Tui

open Json (Value)

/-! ## Runs -/

/-- What the client handles. The lists are replaced by `replace_rules` and `replace_hosts`, and by a
refresh when the daemon reports a change. -/
inductive Event where
  | key (key : KeyEvent)
  | mouse (mouse : MouseEvent) (size : Rect)
  | rules (rules : List RuleView)
  | hosts (hosts : List String)
  | refresh

section

variable {σ : Type} (w : World σ)

def step (event : Event) (x : App × σ) : App × σ :=
  match event with
  | .key key => handleKey w key x
  | .mouse mouse size => (x.1.handleMouse w.terminal mouse size, x.2)
  | .rules rules => (x.1.replaceRules rules, x.2)
  | .hosts hosts => (x.1.replaceHosts hosts, x.2)
  | .refresh => refresh w x

def run (x : App × σ) (events : List Event) : App × σ :=
  events.foldl (fun x event ↦ step w event x) x

/-! ## One event -/

/-- The state is consistent, and while a deletion is to be confirmed nothing is imported. -/
structure App.Sound (app : App) : Prop where
  consistent : app.Consistent
  alone : app.confirmDelete.isSome = true → app.importPanel = none

theorem App.Sound.default : App.default.Sound := ⟨Consistent.default, nofun⟩

/-- What an event does to the confirmation of a deletion: one that is open stays or is closed, and
one that is opened is for the selected rule. -/
structure Confirms (app app' : App) : Prop where
  kept : ∀ c, app.confirmDelete = some c → app'.confirmDelete = some c ∨ app'.confirmDelete = none
  opened : app.confirmDelete = none → ∀ c, app'.confirmDelete = some c → app.selectedId = some c.id

theorem Confirms.of_eq {app app' : App} (h : app'.confirmDelete = app.confirmDelete) :
    Confirms app app' := by
  refine ⟨fun c hc ↦ Or.inl (h.trans hc), fun hnone c hc ↦ ?_⟩
  rw [h, hnone] at hc
  cases hc

variable {w} {app : App} {s : σ}

theorem sound_of_steady {app' : App} (h : Steady app app')
    (halone : app.confirmDelete = none ∨ app'.importPanel = none) :
    app'.Sound ∧ Confirms app app' := by
  refine ⟨⟨h.consistent, fun hsome ↦ ?_⟩, .of_eq h.confirm⟩
  rw [h.confirm] at hsome
  rcases halone with hnone | hpanel
  · rw [hnone] at hsome
    cases hsome
  · exact hpanel

theorem sound_of_dialogs {app' : App} (h : app.Sound) (hconsistent : app'.Consistent)
    (hdialogs : app'.dialogs = app.dialogs) : app'.Sound ∧ Confirms app app' := by
  have hconfirm : app'.confirmDelete = app.confirmDelete := congrArg (fun d ↦ d.2.1) hdialogs
  have hpanel : app'.importPanel = app.importPanel := congrArg (fun d ↦ d.2.2) hdialogs
  refine ⟨⟨hconsistent, ?_⟩, .of_eq hconfirm⟩
  rw [hconfirm, hpanel]
  exact h.alone

theorem dialogs_click (content : Rect) (row : ℕ) :
    (app.click content row).dialogs = app.dialogs := by
  rw [App.click]
  split
  · split
    · rfl
    · dsimp only
      split <;> rfl
  · dsimp only
    split <;> rfl
  · rfl

theorem dialogs_scroll (content : Rect) (delta : ℤ) :
    (app.scroll content delta).dialogs = app.dialogs := by
  have hmoved := dialogs_moveSelection delta app
  rw [App.scroll]
  split <;> exact hmoved

theorem dialogs_handleMouse (terminal : Terminal) (mouse : MouseEvent) (size : Rect) :
    (app.handleMouse terminal mouse size).dialogs = app.dialogs := by
  rw [App.handleMouse]
  split
  · rfl
  · split
    · rfl
    · split
      · dsimp only
        split
        · rfl
        · split
          · rfl
          · exact dialogs_click _ _
      · split
        · exact dialogs_scroll _ _
        · rfl
      · split
        · exact dialogs_scroll _ _
        · rfl
      · rfl

/-- **The keys of a confirmation** close it or leave it alone. -/
theorem sound_handleDeleteKey (h : app.Sound) {c : DeleteConfirmation}
    (hc : app.confirmDelete = some c) (code : KeyCode) :
    (handleDeleteKey w code c (app, s)).1.Sound ∧
      Confirms app (handleDeleteKey w code c (app, s)).1 := by
  have hclosed : Steady (app.withConfirmation none) (app.withConfirmation none) :=
    .refl (h.consistent.of_selection rfl)
  have hgone {app' : App} (h' : Steady (app.withConfirmation none) app') :
      app'.Sound ∧ Confirms app app' := by
    have hnone : app'.confirmDelete = none := h'.confirm
    refine ⟨⟨h'.consistent, fun hsome ↦ ?_⟩, fun _ _ ↦ Or.inr hnone, fun hopen ↦ ?_⟩
    · rw [hnone] at hsome
      cases hsome
    · rw [hopen] at hc
      cases hc
  rw [handleDeleteKey]
  split
  · exact hgone (hclosed.deleteRule _)
  · split
    · exact hgone hclosed
    · exact ⟨h, .of_eq rfl⟩

/-- **One key.** -/
theorem sound_handleKey (h : app.Sound) (key : KeyEvent) :
    (handleKey w key (app, s)).1.Sound ∧ Confirms app (handleKey w key (app, s)).1 := by
  have hsteady := Steady.refl h.consistent
  rw [handleKey]
  split
  · exact sound_of_dialogs h (h.consistent.of_selection rfl) rfl
  · split
    · rename_i panel hpanel
      refine sound_of_steady (hsteady.handleImportKey _ _) (Or.inl ?_)
      -- nothing is imported while a deletion is to be confirmed
      by_contra hconfirm
      have halone := h.alone (Option.isSome_iff_ne_none.mpr hconfirm)
      rw [halone] at hpanel
      cases hpanel
    · rename_i c hpanel hc
      exact sound_handleDeleteKey h hc key.code
    · rename_i form hpanel hnone hform
      exact sound_of_steady (hsteady.handleFormKey _ _) (Or.inl hnone)
    · rename_i hpanel hnone hform
      rcases pageStep_handlePageKey (w := w) (s := s) h.consistent key.code with
        hsteady | ⟨c, hopens, hid⟩
      · exact sound_of_steady hsteady (Or.inl hnone)
      · rw [hopens]
        refine ⟨⟨h.consistent.of_selection rfl, fun _ ↦ hpanel⟩, fun c' hc' ↦ ?_, fun _ c' hc' ↦ ?_⟩
        · rw [show app.confirmDelete = none from hnone] at hc'
          cases hc'
        · rw [← Option.some.inj (show some c = some c' from hc')]
          exact hid

/-- **One event.** -/
theorem sound_step (h : app.Sound) (event : Event) :
    (step w event (app, s)).1.Sound ∧ Confirms app (step w event (app, s)).1 := by
  cases event with
  | key key => exact sound_handleKey h key
  | mouse mouse size =>
    exact sound_of_dialogs h (h.consistent.handleMouse w.terminal mouse size)
      (dialogs_handleMouse w.terminal mouse size)
  | rules rules => exact sound_of_dialogs h (h.consistent.replaceRules rules) rfl
  | hosts hosts => exact sound_of_dialogs h (h.consistent.replaceHosts hosts) rfl
  | refresh =>
    exact sound_of_dialogs h (Steady.refl h.consistent).refresh.consistent (dialogs_refresh w _)

/-- **A run.** -/
theorem sound_run (h : app.Sound) (events : List Event) : (run w (app, s) events).1.Sound := by
  induction events generalizing app s with
  | nil => exact h
  | cons event events ih => exact ih (sound_step h event).1

theorem confirm_run (h : app.Sound) {c : DeleteConfirmation} (hc : app.confirmDelete = some c)
    {events : List Event}
    (hopen : ∀ before, before <+: events → (run w (app, s) before).1.confirmDelete.isSome = true) :
    (run w (app, s) events).1.confirmDelete = some c := by
  induction events generalizing app s with
  | nil => exact hc
  | cons event events ih =>
    obtain ⟨hsound, hconfirms⟩ := sound_step (w := w) (s := s) h event
    have hstill := hopen [event] (by simp)
    have hkept : (step w event (app, s)).1.confirmDelete = some c := by
      refine (hconfirms.kept c hc).resolve_right fun hnone ↦ ?_
      rw [show (run w (app, s) [event]) = step w event (app, s) from rfl, hnone] at hstill
      cases hstill
    refine ih hsound hkept fun before hbefore ↦ ?_
    exact hopen (event :: before) ((List.prefix_cons_inj event).mpr hbefore)

end

/-! ## Requests -/

/-- A request that was sent, and whether it succeeded. -/
structure Sent where
  operation : Operation
  payload : Value
  succeeded : Bool
  deriving DecidableEq

section

variable {σ : Type}

/-- The world with the requests that were sent. -/
def World.recorded (w : World σ) : World (σ × List Sent) where
  crates := w.crates
  terminal := w.terminal
  call operation payload s :=
    let (result, s') := w.call operation payload s.1
    (result, s', s.2 ++ [⟨operation, payload, result.isOk⟩])
  loadRules s := ((w.loadRules s.1).1, (w.loadRules s.1).2, s.2)
  loadSettings s := ((w.loadSettings s.1).1, (w.loadSettings s.1).2, s.2)
  saveSettings settings s :=
    ((w.saveSettings settings s.1).1, (w.saveSettings settings s.1).2, s.2)
  refreshHosts s := ((w.refreshHosts s.1).1, (w.refreshHosts s.1).2, s.2)
  importPreview sshHostAlias rules running s :=
    ((w.importPreview sshHostAlias rules running s.1).1,
      (w.importPreview sshHostAlias rules running s.1).2, s.2)
  newIds s := ((w.newIds s.1).1, (w.newIds s.1).2, s.2)
  bindable s := w.bindable s.1
  openBrowser url s := ((w.openBrowser url s.1).1, (w.openBrowser url s.1).2, s.2)

def KeyEvent.Confirms (key : KeyEvent) : Prop := key.code = .char 'y' ∨ key.code = .enter

def Event.Confirms : Event → Prop
  | .key pressed => pressed.Confirms
  | _ => False

/-- The requests of a deletion: none, a removal, or a stop and, unless it failed, a removal. -/
inductive DeletionRequests (crates : Crates) (id : Uuid) : List Sent → Prop
  | nothing : DeletionRequests crates id []
  | removed (succeeded : Bool) :
    DeletionRequests crates id [⟨.forwardRemove, ruleIdPayload crates id, succeeded⟩]
  | stopped (succeeded : Bool) :
    DeletionRequests crates id [⟨.forwardStop, ruleIdPayload crates id, true⟩,
      ⟨.forwardRemove, ruleIdPayload crates id, succeeded⟩]
  | stopFailed : DeletionRequests crates id [⟨.forwardStop, ruleIdPayload crates id, false⟩]

variable {w : World σ} {app : App} {s : σ × List Sent}

theorem sent_call {operation : Operation} {payload : Value} {result : Except String Value}
    {s' : σ × List Sent} (h : w.recorded.call operation payload s = (result, s')) :
    s'.2 = s.2 ++ [⟨operation, payload, result.isOk⟩] := by
  obtain ⟨rfl, rfl⟩ := Prod.mk.inj h
  rfl

/-! ### What sends nothing -/

theorem sent_reloadSettings : (reloadSettings w.recorded (app, s)).2.2 = s.2 := by
  rw [reloadSettings]
  split
  · next h => exact (congrArg (fun r ↦ r.2.2) h).symm
  · next h => exact (congrArg (fun r ↦ r.2.2) h).symm

theorem sent_refresh : (refresh w.recorded (app, s)).2.2 = s.2 := by
  rw [refresh]
  split
  · next h => exact sent_reloadSettings.trans (congrArg (fun r ↦ r.2.2) h).symm
  · next h => exact sent_reloadSettings.trans (congrArg (fun r ↦ r.2.2) h).symm

theorem sent_explainRemoval (id : Uuid) (error : String) :
    (explainRemoval w.recorded id error (app, s)).2.2 = s.2 := by
  rw [explainRemoval]
  split
  · next h => exact (congrArg (fun r ↦ r.2.2) h).symm
  · next h => exact (congrArg (fun r ↦ r.2.2) h).symm

/-! ### A deletion -/

theorem sent_removeRule (w : World σ) (app : App) (s : σ × List Sent) (id : Uuid) :
    ∃ succeeded, (removeRule w.recorded id (app, s)).2.2 =
      s.2 ++ [⟨.forwardRemove, ruleIdPayload w.crates id, succeeded⟩] := by
  rw [removeRule]
  split
  · next h => exact ⟨_, sent_refresh.trans (sent_call h)⟩
  · next h => exact ⟨_, (sent_explainRemoval id _).trans (sent_call h)⟩

/-- **The requests of a confirmed deletion** are about its rule, and there is one at least. -/
theorem sent_deleteRule (c : DeleteConfirmation) :
    ∃ sent, (deleteRule w.recorded c (app, s)).2.2 = s.2 ++ sent ∧
      DeletionRequests w.crates c.id sent ∧ sent ≠ [] := by
  rw [deleteRule]
  split
  · split
    · next h => exact ⟨_, sent_refresh.trans (sent_call h), .stopFailed, List.cons_ne_nil _ _⟩
    · next s' h =>
      obtain ⟨succeeded, hremoved⟩ := sent_removeRule w app s' c.id
      refine ⟨_, ?_, .stopped succeeded, List.cons_ne_nil _ _⟩
      rw [hremoved, sent_call h, List.append_assoc]
      rfl
  · obtain ⟨succeeded, hremoved⟩ := sent_removeRule w app s c.id
    exact ⟨_, hremoved, .removed succeeded, List.cons_ne_nil _ _⟩

theorem sent_step (h : app.Sound) {c : DeleteConfirmation} (hc : app.confirmDelete = some c)
    (event : Event) :
    ∃ sent, (step w.recorded event (app, s)).2.2 = s.2 ++ sent ∧
      DeletionRequests w.crates c.id sent ∧ (event.Confirms → sent ≠ []) := by
  have hnothing {y : App × σ × List Sent} (hevent : ¬ event.Confirms) (hy : y.2.2 = s.2) :
      ∃ sent, y.2.2 = s.2 ++ sent ∧ DeletionRequests w.crates c.id sent ∧
        (event.Confirms → sent ≠ []) :=
    ⟨[], by rw [hy, List.append_nil], .nothing, fun hconfirms ↦ absurd hconfirms hevent⟩
  cases event with
  | key key =>
    have hpanel := h.alone (by rw [hc]; rfl)
    rw [step, handleKey]
    split
    · next hquits =>
      refine hnothing (fun hconfirms ↦ ?_) rfl
      rcases hconfirms with hcode | hcode <;> exact absurd (hquits.2.symm.trans hcode) (by decide)
    · simp only [hpanel, hc]
      rw [handleDeleteKey]
      split
      · obtain ⟨sent, hsent, hrequests, hne⟩ := sent_deleteRule (w := w) (s := s) c
        exact ⟨sent, hsent, hrequests, fun _ ↦ hne⟩
      · next hother =>
        split
        · exact hnothing hother rfl
        · exact hnothing hother rfl
  | mouse mouse size => exact hnothing (fun h ↦ h) rfl
  | rules rules => exact hnothing (fun h ↦ h) rfl
  | hosts hosts => exact hnothing (fun h ↦ h) rfl
  | refresh => exact hnothing (fun h ↦ h) sent_refresh

end

/-! ## Every run -/

section

variable {σ : Type}

/-- What holds of the state behind a run: it is consistent, the selected rule stays selected when
the rules are replaced and it is still listed, and when an event opens a deletion, the requests that
are sent while its dialog is open are about the rule that was selected. The key that confirms the
deletion does send one. -/
structure SelectionKept (w : World σ) (x : App × σ × List Sent) : Prop where
  consistent : x.1.Consistent
  reload : ∀ id rules, x.1.selectedId = some id → id ∈ rules.map RuleView.id →
    (step w.recorded (.rules rules) x).1.selectedId = some id
  deletion : ∀ opening between event, x.1.confirmDelete = none →
    (∀ before, before <+: between →
      (run w.recorded (step w.recorded opening x) before).1.confirmDelete.isSome = true) →
    let z := run w.recorded (step w.recorded opening x) between
    ∃ id sent, x.1.selectedId = some id ∧ (step w.recorded event z).2.2 = z.2.2 ++ sent ∧
      DeletionRequests w.crates id sent ∧ (event.Confirms → sent ≠ [])

/-- **The selection is kept**, in every run from the beginning: whatever keys are pressed, wherever
the mouse is and whatever is reloaded and answered. -/
theorem selection_kept (w : World σ) (s : σ) (events : List Event) :
    SelectionKept w (run w.recorded (App.default, s, []) events) := by
  have hsound := sound_run (w := w.recorded) (s := (s, [])) App.Sound.default events
  generalize run w.recorded (App.default, s, []) events = x at hsound ⊢
  refine ⟨hsound.consistent, fun id rules hid hlisted ↦ ?_,
    fun opening between event hnone hopen ↦ ?_⟩
  · exact App.selectedId_replaceRules hid hlisted
  · obtain ⟨hopened, hconfirms⟩ := sound_step (w := w.recorded) (s := x.2) hsound opening
    obtain ⟨c, hc⟩ := Option.isSome_iff_exists.mp (hopen [] List.nil_prefix)
    have hid := hconfirms.opened hnone c hc
    have hz := confirm_run hopened hc hopen
    have hsoundz := sound_run (w := w.recorded) (s := (step w.recorded opening x).2) hopened between
    obtain ⟨sent, hsent, hrequests, hconfirmed⟩ := sent_step hsoundz hz event
    exact ⟨c.id, sent, hid, hsent, hrequests, hconfirmed⟩

end

/-- The rules are listed, and the deletion of the selected one is asked for. -/
def exampleDeleting : App × Unit × List Sent :=
  run (exampleWorld [exampleView]).recorded (App.default, (), []) [.refresh]

/-- While the dialog is open, the rule goes from the list and another one takes its place. The key
that confirms sends a request about the first one. -/
theorem selection_kept_exampleDeleting :
    let w := (exampleWorld [exampleView]).recorded
    let z := run w (step w (.key ⟨.char 'd', false⟩) exampleDeleting)
      [.rules [{ exampleView with id := 2 }]]
    z.1.selectedId = some 2 ∧ ∃ sent, (step w (.key ⟨.enter, false⟩) z).2.2 = z.2.2 ++ sent ∧
      DeletionRequests exampleCrates exampleView.id sent ∧ sent ≠ [] := by
  have hkept := selection_kept (exampleWorld [exampleView]) () [.refresh]
  have hopen : ∀ before, before <+: [.rules [{ exampleView with id := 2 }]] →
      (run (exampleWorld [exampleView]).recorded (step (exampleWorld [exampleView]).recorded
        (.key ⟨.char 'd', false⟩) exampleDeleting) before).1.confirmDelete.isSome = true := by
    intro before hbefore
    rcases List.prefix_cons_iff.mp hbefore with rfl | ⟨rest, rfl, hrest⟩
    · rfl
    · obtain rfl := List.prefix_nil.mp hrest
      rfl
  obtain ⟨id, sent, hid, hsent, hrequests, hconfirmed⟩ :=
    hkept.deletion _ _ (.key ⟨.enter, false⟩) rfl hopen
  obtain rfl : exampleView.id = id := Option.some.inj hid
  exact ⟨rfl, sent, hsent, hrequests, hconfirmed (Or.inr rfl)⟩

end TunnelDeck.Tui
