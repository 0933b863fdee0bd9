import TunnelDeck.Concurrency.ReadModifyWrite
import TunnelDeck.Daemon.Configuration

/-!
# Setting values from two command lines

`update_settings` asks the daemon for the settings, sets the values of its options in what it got,
and sends the result as a whole. The daemon puts it in the place of the settings it has. Two
commands at once are two clients that read, modify and write one register, so the command that
writes first loses its values when the other had read before.

## Main results

* `updateSettings_simulates`: while no request fails, the daemon and two commands are the register
  and its two clients.
* `settings_kept_iff`: when both commands succeed, the persisted settings hold the values of both
  exactly if the values of a command that was overtaken were there before.
-/

namespace TunnelDeck.Cli

open Concurrency
open Concurrency.ReadModifyWrite (Overtaken Register Stage)
open Json (Value)

/-! ## The command -/

/-- `SettingsArgs`. -/
structure SettingsArgs where
  theme : Option Theme := none
  logLevel : Option LogLevel := none
  defaultReconnect : Option Bool := none
  defaultAutoStart : Option Bool := none

namespace SettingsArgs

/-- Sets one value of an option that is given. -/
def setOption {α : Type} (key : String) (encode : α → Value) (option : Option α)
    (settings : Value) : Value :=
  match option with
  | some value => settings.set key (encode value)
  | none => settings

/-- What `update_settings` makes of the settings it got. -/
def merge (args : SettingsArgs) (settings : Value) : Value :=
  let settings := setOption "theme" (.string ∘ variantName Theme.variants) args.theme settings
  let settings :=
    setOption "log_level" (.string ∘ variantName LogLevel.variants) args.logLevel settings
  let settings := setOption "default_reconnect" .bool args.defaultReconnect settings
  setOption "default_auto_start" .bool args.defaultAutoStart settings

/-- The settings with the values of the options that are given. -/
def apply (args : SettingsArgs) (settings : Settings) : Settings where
  theme := args.theme.getD settings.theme
  logLevel := args.logLevel.getD settings.logLevel
  defaultReconnect := args.defaultReconnect.getD settings.defaultReconnect
  defaultAutoStart := args.defaultAutoStart.getD settings.defaultAutoStart

/-- The settings have every value that is given. -/
structure HeldBy (args : SettingsArgs) (settings : Settings) : Prop where
  theme : ∀ value, args.theme = some value → settings.theme = value
  logLevel : ∀ value, args.logLevel = some value → settings.logLevel = value
  defaultReconnect : ∀ value, args.defaultReconnect = some value →
    settings.defaultReconnect = value
  defaultAutoStart : ∀ value, args.defaultAutoStart = some value →
    settings.defaultAutoStart = value

structure Disjoint (args other : SettingsArgs) : Prop where
  theme : args.theme = none ∨ other.theme = none
  logLevel : args.logLevel = none ∨ other.logLevel = none
  defaultReconnect : args.defaultReconnect = none ∨ other.defaultReconnect = none
  defaultAutoStart : args.defaultAutoStart = none ∨ other.defaultAutoStart = none

theorem Disjoint.symm {args other : SettingsArgs} (h : args.Disjoint other) :
    other.Disjoint args :=
  ⟨h.theme.symm, h.logLevel.symm, h.defaultReconnect.symm, h.defaultAutoStart.symm⟩

theorem heldBy_apply (args : SettingsArgs) (settings : Settings) :
    args.HeldBy (args.apply settings) := by
  constructor
  · intro value h
    simp [apply, h]
  · intro value h
    simp [apply, h]
  · intro value h
    simp [apply, h]
  · intro value h
    simp [apply, h]

theorem Disjoint.heldBy_apply_iff {args other : SettingsArgs} (h : args.Disjoint other)
    (settings : Settings) : args.HeldBy (other.apply settings) ↔ args.HeldBy settings := by
  have hoption : ∀ {α : Type} {option option' : Option α} {value : α},
      (option = none ∨ option' = none) →
        ((∀ a, option = some a → option'.getD value = a) ↔ ∀ a, option = some a → value = a) := by
    rintro α option option' value (rfl | rfl)
    · simp
    · simp
  constructor
  · rintro ⟨htheme, hlevel, hreconnect, hstart⟩
    exact ⟨(hoption h.theme).mp htheme, (hoption h.logLevel).mp hlevel,
      (hoption h.defaultReconnect).mp hreconnect, (hoption h.defaultAutoStart).mp hstart⟩
  · rintro ⟨htheme, hlevel, hreconnect, hstart⟩
    exact ⟨(hoption h.theme).mpr htheme, (hoption h.logLevel).mpr hlevel,
      (hoption h.defaultReconnect).mpr hreconnect, (hoption h.defaultAutoStart).mpr hstart⟩

theorem merge_encodeSettings (args : SettingsArgs) (settings : Settings) :
    args.merge (encodeSettings settings) = encodeSettings (args.apply settings) := by
  obtain ⟨theme, logLevel, defaultReconnect, defaultAutoStart⟩ := args
  rcases theme with _ | theme <;> rcases logLevel with _ | logLevel <;>
    rcases defaultReconnect with _ | defaultReconnect <;>
    rcases defaultAutoStart with _ | defaultAutoStart <;>
    rfl

end SettingsArgs

theorem decodeSettings_encodeSettings (settings : Settings) :
    decodeSettings (encodeSettings settings) = some settings := by
  obtain ⟨theme, logLevel, defaultReconnect, defaultAutoStart⟩ := settings
  cases theme <;> cases logLevel <;> rfl

/-! ## Two commands -/

/-- Where an `update_settings` stands. -/
inductive UpdateSettings where
  | start
  | merged (settings : Value)
  | finished (reply : Reply)
  deriving DecidableEq

/-- The daemon and two commands. -/
structure Commands where
  daemon : State
  client : Bool → UpdateSettings

/-- Which command sends its next request, the time, and how the save that it may cause goes. -/
structure Turn where
  client : Bool
  now : ℕ := 0
  faults : SaveFaults

section Commands

variable (crates : Crates) (args : Bool → SettingsArgs)

/-- The next request of a command, and what the command makes of the reply. -/
def UpdateSettings.next (args : SettingsArgs) (turn : Turn) (s : State) :
    UpdateSettings → State × UpdateSettings
  | .start =>
    match dispatch crates turn.faults turn.now ⟨.settingsGet, .object []⟩ s with
    | (.ok settings, _, s) => (s, .merged (args.merge settings))
    | (.error failure, _, s) => (s, .finished (.error failure))
  | .merged settings =>
    let (reply, _, s) := dispatch crates turn.faults turn.now ⟨.settingsUpdate, settings⟩ s
    (s, .finished reply)
  | .finished reply => (s, .finished reply)

def Commands.step (w : Commands) (turn : Turn) : Commands :=
  let (daemon, client) :=
    UpdateSettings.next crates (args turn.client) turn w.daemon (w.client turn.client)
  { daemon, client := Function.update w.client turn.client client }

def Commands.started (s : State) : Commands := ⟨s, fun _ ↦ .start⟩

def UpdateSettings.Failed (c : UpdateSettings) : Prop := ∃ failure, c = .finished (.error failure)

end Commands

variable {crates : Crates} {args : Bool → SettingsArgs} {managed : Bool}

theorem Commands.step_client_of_ne {w : Commands} {turn : Turn} {t : Bool} (h : t ≠ turn.client) :
    (w.step crates args turn).client t = w.client t :=
  Function.update_of_ne h ..

theorem failed_step {w : Commands} {t : Bool} (h : (w.client t).Failed) (turn : Turn) :
    ((w.step crates args turn).client t).Failed := by
  by_cases ht : t = turn.client
  · obtain ⟨failure, hfailed⟩ := h
    refine ⟨failure, ?_⟩
    rw [Commands.step, ← ht, hfailed]
    exact Function.update_self ..
  · rwa [Commands.step_client_of_ne ht]

/-! ## The commands as clients of a register -/

/-- A command stands where a client of the register does. -/
def Agrees (args : SettingsArgs) : UpdateSettings → Stage Settings → Prop
  | c, .start => c = .start
  | c, .held read => c = .merged (encodeSettings (args.apply read))
  | c, .done => ∃ result, c = .finished (.ok result)

theorem Agrees.done {args : SettingsArgs} {result : Value} {stage : Stage Settings}
    (h : Agrees args (.finished (.ok result)) stage) : stage = .done := by
  rcases stage with _ | read | _
  · cases h
  · cases h
  · rfl

/-- The settings in memory are the value of the register, and the commands stand where its clients
do. -/
structure Simulates (crates : Crates) (args : Bool → SettingsArgs) (w : Commands)
    (r : Register Settings) : Prop where
  persisted : Persisted crates w.daemon
  settings : w.daemon.settings = r.value
  client : ∀ t, Agrees (args t) (w.client t) (r.client t)

/-- An update that succeeds has replaced the settings, on disk too. -/
theorem settingsUpdate_ok (hcrates : crates.Faithful) {faults : SaveFaults} {s s' : State}
    {settings : Settings} {reply : Reply} {events : List Event}
    (hupdate : settingsUpdate crates faults (encodeSettings settings) s = (reply, events, s')) :
    (∃ failure, reply = .error failure) ∨
      ((∃ result, reply = .ok result) ∧ Persisted crates s' ∧ s'.settings = settings) := by
  simp only [settingsUpdate, decodeSettings_encodeSettings, commitChange] at hupdate
  rcases hsave : saveConfig crates faults s.directory s.rules settings with ⟨outcome, directory⟩
  rw [hsave] at hupdate
  rcases outcome with e | u
  · refine Or.inl ?_
    rcases e with _ | _ | _ | _ | _ | _ | _ <;> cases hupdate <;> exact ⟨_, rfl⟩
  · cases hupdate
    rcases saveConfig_spec hcrates hsave with ⟨-, hvalid, hstored⟩ | ⟨hnot, -⟩
    · exact Or.inr ⟨⟨_, rfl⟩, ⟨hstored, hvalid⟩, rfl⟩
    · cases hnot

/-- **One request**: it fails, or the register makes the step. -/
theorem Simulates.step (hcrates : crates.Faithful) {w : Commands} {r : Register Settings}
    (h : Simulates crates args w r) (turn : Turn) :
    ((w.step crates args turn).client turn.client).Failed ∨
      Simulates crates args (w.step crates args turn)
        (r.next (fun t ↦ (args t).apply) turn.client) := by
  have hclient := h.client turn.client
  -- the other command and the other client stand still
  have hagrees : ∀ {c : UpdateSettings} {stage : Stage Settings},
      Agrees (args turn.client) c stage → ∀ t, Agrees (args t)
        (Function.update w.client turn.client c t)
        (Function.update r.client turn.client stage t) := by
    intro c stage hc t
    by_cases ht : t = turn.client
    · rw [ht, Function.update_self, Function.update_self]
      exact hc
    · rw [Function.update_of_ne ht, Function.update_of_ne ht]
      exact h.client t
  rcases hstage : r.client turn.client with _ | read | _
  · -- the settings are read and merged with the options
    rw [hstage] at hclient
    have hnext : UpdateSettings.next crates (args turn.client) turn w.daemon
        (w.client turn.client) =
          (w.daemon, .merged (encodeSettings ((args turn.client).apply r.value))) := by
      rw [hclient, ← h.settings, ← SettingsArgs.merge_encodeSettings]
      rfl
    refine Or.inr ⟨?_, ?_, ?_⟩
    · rw [Commands.step, hnext]
      exact h.persisted
    · rw [Commands.step, hnext, Register.next, hstage]
      exact h.settings
    · rw [Commands.step, hnext, Register.next, hstage]
      exact hagrees rfl
  · -- what was merged replaces whatever the settings are by now
    rw [hstage] at hclient
    rcases hupdate : settingsUpdate crates turn.faults
      (encodeSettings ((args turn.client).apply read)) w.daemon with ⟨reply, events, s'⟩
    have hnext : UpdateSettings.next crates (args turn.client) turn w.daemon
        (w.client turn.client) = (s', .finished reply) := by
      rw [hclient, UpdateSettings.next, dispatch, hupdate]
    rcases settingsUpdate_ok hcrates hupdate with
      ⟨failure, rfl⟩ | ⟨⟨result, rfl⟩, hpersisted, hsettings⟩
    · refine Or.inl ⟨failure, ?_⟩
      rw [Commands.step, hnext]
      exact Function.update_self ..
    · refine Or.inr ⟨?_, ?_, ?_⟩
      · rw [Commands.step, hnext]
        exact hpersisted
      · rw [Commands.step, hnext, Register.next, hstage]
        exact hsettings
      · rw [Commands.step, hnext, Register.next, hstage]
        exact hagrees ⟨result, rfl⟩
  · -- a command that is over changes nothing
    rw [hstage] at hclient
    obtain ⟨result, hresult⟩ := hclient
    have hsame : w.step crates args turn = w := by
      rw [Commands.step, hresult]
      simp only [UpdateSettings.next, ← hresult, Function.update_eq_self]
    have hregister : r.next (fun t ↦ (args t).apply) turn.client = r := by
      rw [Register.next, hstage]
    rw [hsame, hregister]
    exact Or.inr h

/-- **While no request fails, the daemon and two commands are the register and its two clients.** -/
theorem updateSettings_simulates (hcrates : crates.Faithful) {s : State}
    (hs : Persisted crates s) (turns : List Turn) :
    (∃ t, ((run (Commands.step crates args) (.started s) turns).client t).Failed) ∨
      Simulates crates args (run (Commands.step crates args) (.started s) turns)
        (run (Register.next fun t ↦ (args t).apply) (.init s.settings)
          (turns.map Turn.client)) := by
  induction turns using List.reverseRecOn with
  | nil => exact Or.inr ⟨hs, rfl, fun _ ↦ rfl⟩
  | append_singleton turns turn ih =>
    rw [run_append, List.map_append, run_append]
    rcases ih with ⟨t, hfailed⟩ | hsimulates
    · exact Or.inl ⟨t, failed_step hfailed turn⟩
    · rcases hsimulates.step hcrates turn with hfailed | hnext
      · exact Or.inl ⟨turn.client, hfailed⟩
      · exact Or.inr hnext

/-- **When no successful change is lost.** Two commands set disjoint options at any time of any run
of the daemon, in any interleaving of their requests and with any faults of the saves. When both
succeed, the settings in the document hold the values of both exactly if the values of a command
that was overtaken were there before: a command is overtaken when both have read the settings and
it is the first to write them. -/
theorem settings_kept_iff (hcrates : crates.Faithful) {faults : OpenFaults}
    {directory : Directory} {opened s : State}
    (hopen : openState crates faults directory = .ok opened) {before : List Choice}
    (hs : (run (System.step crates managed) (System.opened opened) before).shared.state = s)
    (hdisjoint : (args false).Disjoint (args true)) {turns : List Turn}
    (hsuccess : ∀ t, ∃ result,
      (run (Commands.step crates args) (.started s) turns).client t = .finished (.ok result)) :
    (∃ config, stored crates (run (Commands.step crates args) (.started s) turns).daemon.directory =
        .ok config ∧ ∀ t, (args t).HeldBy config.settings) ↔
      ∀ t, Overtaken t (turns.map Turn.client) → (args t).HeldBy s.settings := by
  have hpersisted : Persisted crates s := hs ▸ config_persisted hcrates hopen before
  rcases updateSettings_simulates hcrates hpersisted turns with ⟨t, failure, hfailed⟩ | h
  · obtain ⟨result, hresult⟩ := hsuccess t
    rw [hfailed] at hresult
    cases hresult
  · have hdone : ∀ t, (run (Register.next fun t ↦ (args t).apply) (.init s.settings)
        (turns.map Turn.client)).client t = .done := by
      intro t
      obtain ⟨result, hresult⟩ := hsuccess t
      exact Agrees.done (hresult ▸ h.client t)
    have hother : ∀ t settings, (args t).HeldBy ((args !t).apply settings) ↔
        (args t).HeldBy settings := by
      rintro (_ | _) settings
      · exact hdisjoint.heldBy_apply_iff settings
      · exact hdisjoint.symm.heldBy_apply_iff settings
    rw [← ReadModifyWrite.kept_iff (fun t ↦ (args t).heldBy_apply) hother s.settings hdone,
      ← h.settings]
    constructor
    · rintro ⟨config, hstored, hheld⟩
      rw [h.persisted.stored] at hstored
      cases hstored
      exact hheld
    · exact fun hheld ↦ ⟨_, h.persisted.stored, hheld⟩

/-! ### Examples -/

/-- A document without rules, by two of its settings. -/
def exampleSettingsText (theme logLevel : String) : String :=
  "schema_version = 2\nrules = []\n\n[settings]\ntheme = \"" ++ theme ++ "\"\nlog_level = \"" ++
    logLevel ++ "\"\ndefault_reconnect = false\ndefault_auto_start = false\n"

/-- The documents of the examples. -/
def exampleSettings : Crates := .ofTable
  [(⟨2, [], { Settings.default with theme := .dark }⟩, exampleSettingsText "dark" "info"),
    (⟨2, [], { Settings.default with logLevel := .debug }⟩, exampleSettingsText "system" "debug"),
    (⟨2, [], { Settings.default with theme := .dark, logLevel := .debug }⟩,
      exampleSettingsText "dark" "debug")]

theorem exampleSettings_faithful : exampleSettings.Faithful :=
  Crates.ofTable_faithful (by decide +kernel)

/-- One command sets the theme and the other the log level. -/
def exampleArgs : Bool → SettingsArgs
  | false => { theme := some .dark }
  | true => { logLevel := some .debug }

theorem exampleArgs_disjoint : (exampleArgs false).Disjoint (exampleArgs true) :=
  ⟨Or.inr rfl, Or.inl rfl, Or.inl rfl, Or.inl rfl⟩

/-- A daemon that was opened without a document, and the two commands, in some order. -/
def exampleCommands (ts : List Bool) : Commands :=
  run (Commands.step exampleSettings exampleArgs) (.started (exampleState (fun _ ↦ none) []))
    (ts.map fun t ↦ { client := t, faults := { replace := { id := 0 } } })

/-- A client asks for the dark theme. -/
def exampleAsked : List Choice :=
  [(0, { call := some (.request
      ⟨.settingsUpdate, encodeSettings { Settings.default with theme := .dark }⟩) }),
    (0, {})]

def exampleDark : State :=
  (run (System.step exampleSettings true) (System.opened (exampleState (fun _ ↦ none) []))
    exampleAsked).shared.state

/-- Both commands read before either writes. -/
def exampleTurns : List Turn :=
  [false, true, false, true].map fun t ↦ { client := t, faults := { replace := { id := 0 } } }

/-- The command for the theme is overtaken, but the theme was there already. -/
theorem settings_kept_iff_exampleTurns :
    ∃ config, stored exampleSettings (run (Commands.step exampleSettings exampleArgs)
        (.started exampleDark) exampleTurns).daemon.directory = .ok config ∧
      ∀ t, (exampleArgs t).HeldBy config.settings := by
  have hsuccess : ∀ t, ∃ result, (run (Commands.step exampleSettings exampleArgs)
      (.started exampleDark) exampleTurns).client t = .finished (.ok result) := by
    rintro (_ | _)
    · exact ⟨encodeSettings { Settings.default with theme := .dark }, by decide +kernel⟩
    · exact ⟨encodeSettings { Settings.default with theme := .dark, logLevel := .debug },
        by decide +kernel⟩
  refine (settings_kept_iff exampleSettings_faithful
    (show openState exampleSettings exampleFaults (fun _ ↦ none) = .ok _ from rfl)
    (show (run (System.step exampleSettings true) (System.opened (exampleState (fun _ ↦ none) []))
      exampleAsked).shared.state = exampleDark from rfl)
    exampleArgs_disjoint hsuccess).mpr fun t hovertaken ↦ ?_
  cases t with
  | false =>
    have hdark : exampleDark.settings.theme = .dark := by decide +kernel
    exact ⟨fun value hvalue ↦ hdark.trans (Option.some.inj hvalue), fun _ h ↦ (by cases h),
      fun _ h ↦ (by cases h), fun _ h ↦ (by cases h)⟩
  | true =>
    have hphase : ReadModifyWrite.phase [false, true, false, true] = .lost false := by decide
    rcases (ReadModifyWrite.overtaken_iff_phase true _).mp hovertaken with h | h
    · cases hphase.symm.trans h
    · cases hphase.symm.trans h

/-- Both read before either writes. Both succeed, and the theme is lost. -/
theorem exampleCommands_lost :
    (∀ t, ∃ result,
      (exampleCommands [false, true, false, true]).client t = .finished (.ok result)) ∧
    stored exampleSettings (exampleCommands [false, true, false, true]).daemon.directory =
      .ok ⟨[], { Settings.default with logLevel := .debug }⟩ ∧
    ¬ (exampleArgs false).HeldBy { Settings.default with logLevel := .debug } := by
  refine ⟨?_, by decide +kernel, fun h ↦ ?_⟩
  · rintro (_ | _)
    · exact ⟨encodeSettings { Settings.default with theme := .dark }, by decide +kernel⟩
    · exact ⟨encodeSettings { Settings.default with logLevel := .debug }, by decide +kernel⟩
  · exact absurd (h.theme .dark rfl) (by decide)

end TunnelDeck.Cli
