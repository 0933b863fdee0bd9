import TunnelDeck.Tui.Keys

/-!
# The ports of an open form

While a form is open, its two port fields change under the keys that edit them. They also change
under one that does not: a character that the remote port does not take still copies the remote port
into the local one, `Form.press_localPort`.

## Main result

`ports_kept_iff`: the ports are kept by all other keys exactly when no character is rejected at the
remote port while the two ports differ.
-/

namespace TunnelDeck.Tui

section

variable {σ : Type} (w : World σ)

/-! ## Keystrokes -/

/-- A key in an open form that stays open. -/
structure Keystroke where
  before : Form
  key : KeyEvent
  after : Form

/-- The keystrokes between two states. A key that closes the form leaves no ports behind. -/
inductive Typed : App × σ → List Keystroke → App × σ → Prop
  | nil (x : App × σ) : Typed x [] x
  | key {x y : App × σ} {k : Keystroke} {ks : List Keystroke}
    (hbefore : x.1.form = some k.before) (hafter : (handleKey w k.key x).1.form = some k.after)
    (h : Typed (handleKey w k.key x) ks y) : Typed x (k :: ks) y

def KeyEvent.Quits (key : KeyEvent) : Prop := key.control = true ∧ key.code = .char 'c'

instance (key : KeyEvent) : Decidable key.Quits := inferInstanceAs (Decidable (_ ∧ _))

/-- The key is a character that the focused remote port does not take. -/
def Keystroke.Rejected (k : Keystroke) : Prop :=
  ¬ k.key.Quits ∧ k.before.RejectedAtRemotePort k.key.code

/-- What the keys leave of the ports: the local port is kept but for an edit of a port and a
suggestion that is taken, the remote port is kept but for an edit of it, and no other key changes
either. -/
def PortsKept (form form' : Form) (ks : List Keystroke) : Prop :=
  ((∀ k ∈ ks, ¬ k.before.EditsPort k.key.code) → form'.localPort = form.localPort) ∧
  ((∀ k ∈ ks, ¬ k.before.EditsRemotePort k.key.code) → form'.remotePort = form.remotePort) ∧
  ∀ k ∈ ks, ¬ k.before.EditsPort k.key.code →
    k.after.localPort = k.before.localPort ∧ k.after.remotePort = k.before.remotePort

/-! ## One key -/

def Form.ports (form : Form) : String × String := (form.localPort, form.remotePort)

/-- The form after a key, as far as the ports go. -/
def Form.afterKey (bindable : String → UInt16 → Bool) (key : KeyEvent) (form : Form) : Form :=
  if key.Quits then form else form.press bindable key.code

theorem ports_payload (crates : Crates) (bindable : String → UInt16 → Bool) (form : Form) :
    (form.payload crates bindable).2.ports = form.ports := by
  rw [Form.payload]
  split
  · rfl
  · split <;> rfl

theorem dialogs_editActive (expected : WireRule) (payload : Json.Value) (x : App × σ) :
    (editActive w expected payload x).1.dialogs = (none, x.1.dialogs.2) :=
  dialogs_reloadEdited w _

theorem dialogs_addRule (payload : Json.Value) (form : Form) (x : App × σ) :
    (addRule w payload form x).1.dialogs = (none, x.1.dialogs.2) ∨
      ∃ error, (addRule w payload form x).1.dialogs =
        (some { form with error := some error }, x.1.dialogs.2) := by
  rw [addRule]
  split
  · exact Or.inr ⟨_, rfl⟩
  · simp only
    split
    · exact Or.inl (dialogs_refresh w _)
    · exact Or.inr ⟨_, rfl⟩

/-- The dialogs behind a key in a form: no other one is open, and the form has these ports. -/
def LeavesPorts (ports : String × String) (x : App × σ) (app : App) : Prop :=
  app.dialogs.2 = x.1.dialogs.2 ∧ ∀ form ∈ app.form, form.ports = ports

variable {w}

theorem leavesPorts_of_closed {ports : String × String} {x : App × σ} {app : App}
    (h : app.dialogs = (none, x.1.dialogs.2)) : LeavesPorts ports x app := by
  have hform : app.form = none := congrArg Prod.fst h
  refine ⟨by rw [h], fun f hf ↦ ?_⟩
  rw [hform] at hf
  cases hf

theorem leavesPorts_of_open {ports : String × String} {x : App × σ} {app : App} {form : Form}
    (h : app.dialogs = (some form, x.1.dialogs.2)) (hports : form.ports = ports) :
    LeavesPorts ports x app := by
  have hform : app.form = some form := congrArg Prod.fst h
  refine ⟨by rw [h], fun f hf ↦ ?_⟩
  rw [← Option.some.inj (hform.symm.trans hf)]
  exact hports

variable (w)

theorem leavesPorts_submit (form : Form) (x : App × σ) :
    LeavesPorts form.ports x (submit w form x).1 := by
  have hports := ports_payload w.crates (w.bindable x.2) form
  rw [submit]
  rcases hpayload : form.payload w.crates (w.bindable x.2) with ⟨_ | payload, saved⟩ <;>
    rw [hpayload] at hports
  · exact leavesPorts_of_open rfl hports
  · simp only
    split
    · exact leavesPorts_of_closed (dialogs_editActive w _ payload _)
    · rcases dialogs_addRule w payload saved (x.1.withForm (some saved), x.2) with
        hclosed | ⟨error, hopen⟩
      · exact leavesPorts_of_closed hclosed
      · exact leavesPorts_of_open hopen hports

/-- **A key in a form** opens no other dialog, and the form has the ports that the key leaves. -/
theorem leavesPorts_handleFormKey (key : KeyEvent) (hkey : ¬ key.Quits) (form : Form)
    (x : App × σ) :
    LeavesPorts (form.afterKey (w.bindable x.2) key).ports x
      (handleFormKey w key.code form x).1 := by
  rw [Form.afterKey, if_neg hkey, handleFormKey]
  split
  · exact leavesPorts_of_closed rfl
  · split
    · rename_i henter
      have hpress : form.press (w.bindable x.2) key.code = form := by
        rw [henter]
        rfl
      rw [hpress]
      exact leavesPorts_submit w form x
    · exact leavesPorts_of_open rfl rfl

theorem leavesPorts_handleKey (key : KeyEvent) {form : Form} {x : App × σ}
    (hx : x.1.dialogs = (some form, none, none)) :
    LeavesPorts (form.afterKey (w.bindable x.2) key).ports x (handleKey w key x).1 := by
  have hform : x.1.form = some form := congrArg Prod.fst hx
  have hconfirm : x.1.confirmDelete = none := congrArg (fun d ↦ d.2.1) hx
  have himport : x.1.importPanel = none := congrArg (fun d ↦ d.2.2) hx
  rw [handleKey]
  by_cases hquits : key.control = true ∧ key.code = .char 'c'
  · rw [if_pos hquits, Form.afterKey, if_pos (show key.Quits from hquits)]
    exact leavesPorts_of_open (Prod.ext hform rfl) rfl
  · rw [if_neg hquits, himport, hconfirm, hform]
    exact leavesPorts_handleFormKey w key hquits form x

/-! ## One keystroke -/

variable {w}

theorem ports_keystroke {k : Keystroke} {bindable : String → UInt16 → Bool}
    (h : k.after.ports = (k.before.afterKey bindable k.key).ports) :
    (¬ k.before.EditsRemotePort k.key.code → k.after.remotePort = k.before.remotePort) ∧
    (¬ k.before.EditsPort k.key.code →
      k.after.remotePort = k.before.remotePort ∧
      (k.Rejected → k.after.localPort = k.before.remotePort) ∧
      (¬ k.Rejected → k.after.localPort = k.before.localPort)) := by
  obtain ⟨hlocal, hremote⟩ := Prod.mk.inj h
  have hedits (hport : ¬ k.before.EditsPort k.key.code) :
      ¬ k.before.EditsRemotePort k.key.code := by
    rintro ⟨hedit, hfield⟩
    exact hport (Or.inl ⟨hedit, by omega⟩)
  by_cases hquits : k.key.Quits
  · rw [Form.afterKey, if_pos hquits] at hlocal hremote
    exact ⟨fun _ ↦ hremote, fun _ ↦ ⟨hremote, fun hrejected ↦ absurd hquits hrejected.1,
      fun _ ↦ hlocal⟩⟩
  · rw [Form.afterKey, if_neg hquits] at hlocal hremote
    refine ⟨fun hkeep ↦ hremote.trans (Form.press_remotePort hkeep), fun hport ↦ ?_⟩
    obtain ⟨hcopied, hkept⟩ := @Form.press_localPort bindable _ _ hport
    refine ⟨hremote.trans (Form.press_remotePort (hedits hport)), fun hrejected ↦ ?_,
      fun hrejected ↦ ?_⟩
    · exact hlocal.trans (hcopied hrejected.2)
    · exact hlocal.trans (hkept fun h ↦ hrejected ⟨hquits, h⟩)

theorem Keystroke.Rejected.not_editsPort {k : Keystroke} (h : k.Rejected) :
    ¬ k.before.EditsPort k.key.code := by
  obtain ⟨-, -, ch, hch, hdigit, haccepts⟩ := h
  rintro (⟨hedit, -⟩ | htaken)
  · rw [hch, Form.isEdit, hdigit] at hedit
    cases hedit
  · exact haccepts htaken

/-! ## All keystrokes -/

theorem Typed.dialogs (w : World σ) {x : App × σ} (k : Keystroke)
    (hx : x.1.dialogs.2 = (none, none)) (hbefore : x.1.form = some k.before)
    (hafter : (handleKey w k.key x).1.form = some k.after) :
    k.after.ports = (k.before.afterKey (w.bindable x.2) k.key).ports ∧
      (handleKey w k.key x).1.dialogs.2 = (none, none) := by
  have hdialogs : x.1.dialogs = (some k.before, none, none) := Prod.ext hbefore hx
  obtain ⟨hothers, hports⟩ := leavesPorts_handleKey w k.key hdialogs
  exact ⟨hports k.after hafter, hothers.trans hx⟩

theorem Typed.ports {x y : App × σ} {ks : List Keystroke} (h : Typed w x ks y)
    (hx : x.1.dialogs.2 = (none, none)) :
    ∀ k ∈ ks, ∃ bindable, k.after.ports = (k.before.afterKey bindable k.key).ports := by
  induction h with
  | nil x => exact fun k hk ↦ absurd hk List.not_mem_nil
  | @key x y k ks hbefore hafter h ih =>
    obtain ⟨hports, hothers⟩ := Typed.dialogs w k hx hbefore hafter
    exact List.forall_mem_cons.mpr ⟨⟨_, hports⟩, ih hothers⟩

theorem Typed.kept {α : Type} (read : Form → α) {x y : App × σ} {ks : List Keystroke}
    (h : Typed w x ks y) (hkeep : ∀ k ∈ ks, read k.after = read k.before) {form form' : Form}
    (hx : x.1.form = some form) (hy : y.1.form = some form') : read form' = read form := by
  induction h generalizing form with
  | nil x => rw [Option.some.inj (hx.symm.trans hy)]
  | @key x y k ks hbefore hafter h ih =>
    obtain ⟨hfirst, hrest⟩ := List.forall_mem_cons.mp hkeep
    rw [ih hrest hafter hy, hfirst, Option.some.inj (hx.symm.trans hbefore)]

/-- **Exactly when the ports are kept by all other keys**, in whatever form: no character is
rejected at the remote port while the local port shows another text. -/
theorem ports_kept_iff (w : World σ) {x y : App × σ} {form form' : Form} {ks : List Keystroke}
    (hx : x.1.dialogs = (some form, none, none)) (hy : y.1.form = some form')
    (h : Typed w x ks y) :
    PortsKept form form' ks ↔
      ∀ k ∈ ks, k.Rejected → k.before.remotePort = k.before.localPort := by
  have hform : x.1.form = some form := congrArg Prod.fst hx
  have hothers : x.1.dialogs.2 = (none, none) := by rw [hx]
  have hkeys : ∀ k ∈ ks, _ := fun k hk ↦ ports_keystroke (h.ports hothers k hk).choose_spec
  constructor
  · rintro ⟨-, -, hkept⟩ k hk hrejected
    have hcopied := ((hkeys k hk).2 hrejected.not_editsPort).2.1 hrejected
    rw [← hcopied]
    exact (hkept k hk hrejected.not_editsPort).1
  · intro hsame
    have hkept : ∀ k ∈ ks, ¬ k.before.EditsPort k.key.code →
        k.after.localPort = k.before.localPort ∧ k.after.remotePort = k.before.remotePort := by
      intro k hk hport
      obtain ⟨hremote, hcopied, hlocal⟩ := (hkeys k hk).2 hport
      refine ⟨?_, hremote⟩
      by_cases hrejected : k.Rejected
      · rw [hcopied hrejected, hsame k hk hrejected]
      · exact hlocal hrejected
    refine ⟨fun hports ↦ ?_, fun hports ↦ ?_, hkept⟩
    · exact h.kept Form.localPort (fun k hk ↦ (hkept k hk (hports k hk)).1) hform hy
    · exact h.kept Form.remotePort (fun k hk ↦ (hkeys k hk).1 (hports k hk)) hform hy

end

/-! ## A letter in the remote port -/

/-- The form of a rule from port 5433 to port 5432, and the form with the remote port focused. -/
def exampleForm : Form := Form.edit exampleView

def exampleFocused : Form := { exampleForm with field := 1 }

def exampleOpen (form : Form) : App × Unit := (App.default.withForm (some form), ())

/-- The remote port is focused. -/
def exampleFocus : Keystroke := ⟨exampleForm, ⟨.tab, false⟩, exampleFocused⟩

/-- A letter is typed there. -/
def exampleLetter : Keystroke :=
  ⟨exampleFocused, ⟨.char 'x', false⟩, exampleFocused.input (fun _ _ ↦ true) 'x'⟩

/-- The letter is not taken, and the local port is 5432 behind it. -/
theorem exampleLetter_copies :
    Typed (exampleWorld []) (exampleOpen exampleForm) [exampleFocus, exampleLetter]
        (exampleOpen exampleLetter.after) ∧
      exampleLetter.after.localPort = "5432" ∧
      ¬ PortsKept exampleForm exampleLetter.after [exampleFocus, exampleLetter] := by
  refine ⟨.key rfl rfl (.key rfl rfl (.nil _)), by decide, fun h ↦ ?_⟩
  have hport : ¬ exampleFocused.EditsPort (.char 'x') := by
    rintro (⟨hedit, -⟩ | ⟨hcode, -⟩)
    · exact absurd hedit (by decide)
    · exact absurd hcode (by decide)
  have hkept := (h.2.2 exampleLetter (by simp) hport).1
  exact absurd hkept (by decide)

/-- The keystrokes of some keys in a form that stays open. -/
def strokes : Form → List KeyEvent → List Keystroke
  | _, [] => []
  | form, key :: keys =>
    ⟨form, key, form.afterKey (fun _ _ ↦ true) key⟩ ::
      strokes (form.afterKey (fun _ _ ↦ true) key) keys

/-- A digit and a backspace in the name, the focus moved to the local port, and a letter there. -/
def exampleStrokes : List Keystroke :=
  strokes exampleForm [⟨.char '7', false⟩, ⟨.char '8', false⟩, ⟨.backspace, false⟩, ⟨.tab, false⟩,
    ⟨.tab, false⟩, ⟨.char 'x', false⟩]

/-- The name is longer by a digit, and the local port is focused. -/
def exampleTyped : Form := { exampleForm with name := "database7", field := 2 }

/-- None of these keys changes a port. -/
theorem ports_kept_iff_exampleStrokes : PortsKept exampleForm exampleTyped exampleStrokes := by
  have htyped : Typed (exampleWorld []) (exampleOpen exampleForm) exampleStrokes
      (exampleOpen exampleTyped) :=
    .key rfl rfl (.key rfl rfl (.key rfl rfl (.key rfl rfl (.key rfl rfl (.key rfl rfl (.nil _))))))
  have hfocused : ∀ k ∈ exampleStrokes, k.before.field = 1 → k.key.code = .tab := by decide
  refine (ports_kept_iff (exampleWorld []) rfl rfl htyped).mpr fun k hk hrejected ↦ ?_
  obtain ⟨-, hfield, ch, hch, -⟩ := hrejected
  rw [hfocused k hk hfield] at hch
  cases hch

end TunnelDeck.Tui
