import TunnelDeck.Tui.Form

/-!
# Typing into a form

The keys that change what an open form shows. The first port field is copied into the second one
whenever a character is typed into it, so that the local port follows the remote port. The copy is
made for every character, also for one that the field does not take.

## Main results

* `Form.press_remotePort`: only an edit of the remote port changes it.
* `Form.press_localPort`: what a key that edits no port does to the local port.
-/

namespace TunnelDeck.Tui

/-! ## Keys -/

/-- `KeyCode`, as far as it is looked at. -/
inductive KeyCode where
  | backspace
  | enter
  | left
  | right
  | up
  | down
  | tab
  | backTab
  | esc
  | f (n : ℕ)
  | char (c : Char)
  | other
  deriving DecidableEq

/-- `KeyEvent`, with the modifier that is looked at. -/
structure KeyEvent where
  code : KeyCode
  control : Bool
  deriving DecidableEq

namespace Form

/-! ## Editing the shown texts -/

/-- Changes the text that `value_mut` gives. -/
def modifyValue (change : String → String) (form : Form) : Form :=
  match form.field with
  | 0 => { form with name := change form.name }
  | 1 => { form with remotePort := change form.remotePort }
  | _ => { form with localPort := change form.localPort }

/-- The local port follows the remote port. -/
def follow (form : Form) : Form :=
  if form.field = 1 then { form with localPort := form.remotePort } else form

section

variable (bindable : String → UInt16 → Bool)

/-- `recheck`. -/
def recheck (form : Form) : Form :=
  let form := { form with error := none }
  match Text.parseU16 form.localPort.toList with
  | none => { form with suggestion := none }
  | some port =>
    { form with
      suggestion :=
        if port ≠ 0 ∧ form.kind ≠ "remote" ∧ form.ownActivePort port = false ∧
            portAvailable bindable form.probeAddress port = false then
          nextAvailablePort bindable form.probeAddress port
        else none }

/-- `Form::input`. -/
def input (ch : Char) (form : Form) : Form :=
  let typed :=
    if form.field = 0 ∨ ch.isDigit then form.modifyValue fun value ↦ value.push ch else form
  typed.follow.recheck bindable

/-- `Form::backspace`. -/
def backspace (form : Form) : Form :=
  (form.modifyValue fun value ↦ String.ofList value.toList.dropLast).follow.recheck bindable

/-- `accept_suggestion`. -/
def acceptSuggestion (form : Form) : Form :=
  match form.suggestion with
  | none => form
  | some port => { form with suggestion := none, localPort := toString port.toNat }

def nextKind (kind : String) : String :=
  if kind = "local" then "remote" else if kind = "remote" then "dynamic" else "local"

/-- The keys of `handle_key` in an open form, but for the two that may close it. -/
def press (code : KeyCode) (form : Form) : Form :=
  match code with
  | .tab | .down => { form with field := (form.field + 1) % 3 }
  | .backTab | .up => { form with field := (form.field + 2) % 3 }
  | .backspace => form.backspace bindable
  | .char ch =>
    if ch = 'a' ∧ form.field ≠ 0 ∧ form.suggestion.isSome then form.acceptSuggestion
    else form.input bindable ch
  | .f 2 => { form with kind := nextKind form.kind }
  | .f 3 => { form with autoStart := !form.autoStart }
  | .f 4 => { form with reconnect := !form.reconnect }
  | _ => form

end

/-! ## What a key is to the ports -/

def isEdit : KeyCode → Bool
  | .backspace => true
  | .char ch => ch.isDigit
  | _ => false

/-- The key takes the port that is suggested. -/
def Accepts (form : Form) (code : KeyCode) : Prop :=
  code = .char 'a' ∧ form.field ≠ 0 ∧ form.suggestion.isSome = true

def EditsPort (form : Form) (code : KeyCode) : Prop :=
  isEdit code = true ∧ form.field ≠ 0 ∨ form.Accepts code

def EditsRemotePort (form : Form) (code : KeyCode) : Prop :=
  isEdit code = true ∧ form.field = 1

/-- The key is a character that the focused remote port does not take. -/
def RejectedAtRemotePort (form : Form) (code : KeyCode) : Prop :=
  form.field = 1 ∧ ∃ ch : Char, code = .char ch ∧ ch.isDigit = false ∧ ¬ form.Accepts code

/-! ## What a key does to the ports -/

variable {bindable : String → UInt16 → Bool}

@[simp] theorem recheck_remotePort (form : Form) :
    (form.recheck bindable).remotePort = form.remotePort := by
  simp only [recheck]
  split <;> rfl

@[simp] theorem recheck_localPort (form : Form) :
    (form.recheck bindable).localPort = form.localPort := by
  simp only [recheck]
  split <;> rfl

@[simp] theorem follow_remotePort (form : Form) : form.follow.remotePort = form.remotePort := by
  rw [follow]
  split <;> rfl

theorem follow_localPort (form : Form) :
    form.follow.localPort = if form.field = 1 then form.remotePort else form.localPort := by
  rw [follow]
  split <;> rfl

theorem input_remotePort {form : Form} {ch : Char} (h : form.field ≠ 1 ∨ ch.isDigit = false) :
    (form.input bindable ch).remotePort = form.remotePort := by
  rw [input, recheck_remotePort, follow_remotePort]
  split
  · rename_i htaken
    rw [modifyValue]
    split
    · rfl
    · rename_i hfield
      rcases htaken with hzero | hdigit
      · rw [hfield] at hzero
        cases hzero
      · rcases h with h | h
        · exact absurd hfield h
        · rw [hdigit] at h
          cases h
    · rfl
  · rfl

theorem input_localPort {form : Form} {ch : Char} (h : form.field = 0 ∨ ch.isDigit = false) :
    (form.input bindable ch).localPort =
      if form.field = 1 then form.remotePort else form.localPort := by
  rw [input, recheck_localPort, follow_localPort]
  by_cases hfield : form.field = 0
  · simp [hfield, modifyValue]
  · have hch := h.resolve_left hfield
    simp [hfield, hch]

theorem backspace_remotePort {form : Form} (h : form.field ≠ 1) :
    (form.backspace bindable).remotePort = form.remotePort := by
  rw [backspace, recheck_remotePort, follow_remotePort, modifyValue]
  split
  · rfl
  · rename_i hfield
    exact absurd hfield h
  · rfl

theorem backspace_localPort {form : Form} (h : form.field = 0) :
    (form.backspace bindable).localPort = form.localPort := by
  rw [backspace, recheck_localPort, follow_localPort]
  simp [modifyValue, h]

theorem acceptSuggestion_remotePort (form : Form) :
    form.acceptSuggestion.remotePort = form.remotePort := by
  rw [acceptSuggestion]
  split <;> rfl

theorem press_char (form : Form) (ch : Char) :
    form.press bindable (.char ch) =
      if ch = 'a' ∧ form.field ≠ 0 ∧ form.suggestion.isSome then form.acceptSuggestion
      else form.input bindable ch := rfl

theorem press_f (form : Form) (n : ℕ) :
    (form.press bindable (.f n)).localPort = form.localPort ∧
      (form.press bindable (.f n)).remotePort = form.remotePort :=
  match n with
  | 0 | 1 | 2 | 3 | 4 | _ + 5 => ⟨rfl, rfl⟩

/-- **Only an edit of the remote port changes it.** -/
theorem press_remotePort {form : Form} {code : KeyCode} (h : ¬ form.EditsRemotePort code) :
    (form.press bindable code).remotePort = form.remotePort := by
  cases code with
  | backspace => exact backspace_remotePort fun hfield ↦ h ⟨rfl, hfield⟩
  | char ch =>
    rw [press_char]
    split
    · exact acceptSuggestion_remotePort form
    · refine input_remotePort (or_iff_not_imp_left.mpr fun hfield ↦ ?_)
      exact eq_false_of_ne_true fun hdigit ↦ h ⟨hdigit, not_not.mp hfield⟩
  | f n => exact (press_f form n).2
  | enter | left | right | up | down | tab | backTab | esc | other => rfl

theorem not_rejected {form : Form} {code : KeyCode} (h : ∀ ch, code ≠ .char ch) :
    ¬ form.RejectedAtRemotePort code := by
  rintro ⟨-, ch, hch, -⟩
  exact h ch hch

/-- **A key that edits no port** leaves the local port as it is, or copies the remote port into it
when it is rejected there. -/
theorem press_localPort {form : Form} {code : KeyCode} (h : ¬ form.EditsPort code) :
    (form.RejectedAtRemotePort code →
      (form.press bindable code).localPort = form.remotePort) ∧
    (¬ form.RejectedAtRemotePort code →
      (form.press bindable code).localPort = form.localPort) := by
  rw [EditsPort, not_or] at h
  obtain ⟨hedit, haccepts⟩ := h
  cases code with
  | char ch =>
    have hdigit : form.field = 0 ∨ ch.isDigit = false := by
      refine or_iff_not_imp_left.mpr fun hfield ↦ ?_
      exact eq_false_of_ne_true fun hdigit ↦ hedit ⟨hdigit, hfield⟩
    have hpress : form.press bindable (.char ch) = form.input bindable ch := by
      refine if_neg fun htaken ↦ haccepts ⟨?_, htaken.2⟩
      rw [htaken.1]
    rw [hpress, input_localPort hdigit]
    constructor
    · rintro ⟨hfield, -⟩
      exact if_pos hfield
    · intro hrejected
      refine if_neg fun hfield ↦ hrejected ⟨hfield, ch, rfl, ?_, haccepts⟩
      exact hdigit.resolve_left (by omega)
  | backspace =>
    have hfield : form.field = 0 := not_not.mp fun hfield ↦ hedit ⟨rfl, hfield⟩
    exact ⟨fun hrejected ↦ absurd hrejected (not_rejected nofun),
      fun _ ↦ backspace_localPort hfield⟩
  | f n =>
    exact ⟨fun hrejected ↦ absurd hrejected (not_rejected nofun), fun _ ↦ (press_f form n).1⟩
  | enter | left | right | up | down | tab | backTab | esc | other =>
    exact ⟨fun hrejected ↦ absurd hrejected (not_rejected nofun), fun _ ↦ rfl⟩

end Form

end TunnelDeck.Tui
