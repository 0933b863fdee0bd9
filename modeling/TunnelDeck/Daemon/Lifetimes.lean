import TunnelDeck.Config.Migration
import TunnelDeck.Config.Saving
import TunnelDeck.Daemon.Configuration

/-!
# The configuration over many daemons

A daemon can be killed at any time, also inside of a save, and the next one opens what it left. So
the lifetimes of the daemons are joined by the directory alone: `Site` is the directory between two
of them, or the daemon that runs, together with what the last one had in memory.

## Main result

`configuration_survives`: however often daemons are killed and opened, the next one starts from
what the last one had in memory, and so from every change that was acknowledged, or from the one
change that it was saving when it was killed. Only a failure to read can keep it from opening.
-/

namespace TunnelDeck

open Concurrency

/-! ## Model -/

inductive Host where
  /-- No daemon runs. -/
  | down (directory : Directory)
  | up (w : System)

/-- The directory or the daemon, and what the last daemon had in memory. -/
structure Site where
  host : Host
  /-- The configuration in memory after the last section. -/
  memory : PersistedConfig
  /-- What was being saved when the daemon was killed. -/
  torn : Option PersistedConfig

inductive SiteInput where
  /-- The daemon is started. -/
  | start (faults : OpenFaults)
  | act (a : Choice)
  /-- The daemon is killed between two sections. -/
  | kill
  /-- The daemon is killed inside of a section, when its save has got these answers. -/
  | killSaving (a : Choice) (answers : List SaveAnswer)

def Pc.saves : Pc → Bool
  | .dispatch _ | .edit _ _ .save => true
  | _ => false

section Model

variable (crates : Crates) (managed : Bool)

/-- What a section has in memory once its save has succeeded. -/
def saveTarget (env : Env) (d : Daemon) (p : Pc) : PersistedConfig :=
  let faults : SaveFaults := { replace := { id := env.save.replace.id } }
  (exec crates managed { env with save := faults } d p).1.state.config.2

/-- What is left of the directory when the save is killed. -/
def tornDirectory (env : Env) (target : PersistedConfig) (directory : Directory)
    (answers : List SaveAnswer) : Directory :=
  (run (Saving.step crates env.save.replace.id)
    (.start crates directory target.rules target.settings) answers).directory

namespace Site

def opened (s : State) : Site := ⟨.up (System.opened s), s.config.2, none⟩

def step (site : Site) (input : SiteInput) : Site :=
  match site.host, input with
  | .down directory, .start faults =>
    match openState crates faults directory with
    | .ok s => opened s
    | .error _ => { site with host := .down (loadOrMigrateV1 crates faults directory).2 }
  | .up w, .act a =>
    let next := System.step crates managed w a
    { site with host := .up next, memory := next.shared.state.config.2 }
  | .up w, .kill => { site with host := .down w.shared.state.directory }
  | .up w, .killSaving a answers =>
    let p := w.thread a.1
    if p.saves then
      let target := saveTarget crates managed a.2 w.shared p
      { site with
        host := .down (tornDirectory crates a.2 target w.shared.state.directory answers)
        torn := some target }
    else { site with host := .down w.shared.state.directory }
  | _, _ => site

end Site

end Model

/-! ## What is opened -/

variable {crates : Crates} {managed : Bool}

/-- Nothing is written where the document decodes or is missing. -/
theorem loadOrMigrateV1_of_stored {directory : Directory} {config : PersistedConfig}
    (h : stored crates directory = .ok config) (faults : OpenFaults) :
    (∃ e, loadOrMigrateV1 crates faults directory = (.error e, directory) ∧
        faults.read ≠ {}) ∨
      ∃ result, loadOrMigrateV1 crates faults directory = (.ok result, directory) ∧
        result.getD .empty = config := by
  cases hread : readOriginal faults.read directory with
  | error e =>
    refine Or.inl ⟨e, by simp only [loadOrMigrateV1, hread], fun hnone ↦ ?_⟩
    rw [hnone] at hread
    simp [stored, loadConfig, hread, bind, Except.bind, Except.map] at h
  | ok original =>
    have hstored := (stored_of_readOriginal hread).symm.trans h
    cases original with
    | none => exact Or.inr ⟨none, by simp only [loadOrMigrateV1, hread], Except.ok.inj hstored⟩
    | some text =>
      have hdecode : decode crates text = .ok config := hstored
      have hschema : schema crates text = .ok schemaVersion := by
        rw [schema, header_of_decode hdecode]
        rfl
      refine Or.inr ⟨some config, ?_, rfl⟩
      simp only [loadOrMigrateV1, hread, hschema, hdecode, if_true]
      rfl

theorem openState_of_stored {directory : Directory} {config : PersistedConfig}
    (h : stored crates directory = .ok config) (faults : OpenFaults) :
    (∃ e, openState crates faults directory = .error e ∧ faults.read ≠ {} ∧
        (loadOrMigrateV1 crates faults directory).2 = directory) ∨
      ∃ s, openState crates faults directory = .ok s ∧ s.config = (directory, config) := by
  rcases loadOrMigrateV1_of_stored h faults with ⟨e, hload, hfaults⟩ | ⟨result, hload, rfl⟩
  · exact Or.inl ⟨e, by simp only [openState, hload], hfaults, by rw [hload]⟩
  · simp only [openState, hload]
    exact Or.inr ⟨_, rfl, rfl⟩

theorem stored_tornDirectory (hcrates : crates.Faithful) (env : Env) (target : PersistedConfig)
    (directory : Directory) (answers : List SaveAnswer) :
    stored crates (tornDirectory crates env target directory answers) = stored crates directory ∨
      stored crates (tornDirectory crates env target directory answers) = .ok target := by
  have hphase (text : String) {saving : Saving}
      (h : SavePhase (temporaryName crates env.save.replace.id) directory text saving) :
      SavePhase (temporaryName crates env.save.replace.id) directory text
        (run (Saving.step crates env.save.replace.id) saving answers) :=
    invariant_run _ (fun _ a hphase ↦ hphase.step a) h answers
  rcases start_phase crates directory target.rules target.settings with
    ⟨e, hencode, herror, hstart⟩ | ⟨text, hencode, hstart⟩
  · rw [tornDirectory, hstart, run_finished]
    exact Or.inl rfl
  · have hentries := (hphase text (.before (Or.inl rfl))).entries
    rw [← hstart] at hentries
    rcases hentries.1 with hkept | hreplaced
    · exact Or.inl (stored_congr hkept)
    · refine Or.inr (stored_of_text hreplaced ?_)
      cases hconfig : ConfigV2.fromDomain target.rules target.settings with
      | error e => simp [encodeConfig, hconfig, Except.bind] at hencode
      | ok config =>
        cases htext : crates.tomlToString config with
        | error e => simp [encodeConfig, hconfig, htext, Except.bind, Except.mapError] at hencode
        | ok written =>
          simp only [encodeConfig, hconfig, htext, Except.bind, Except.mapError,
            Except.ok.injEq] at hencode
          exact hencode ▸ decode_encode hcrates hconfig htext

/-! ## Runs -/

/-- What a daemon, or the directory that it has left, holds. -/
def Site.Agrees (crates : Crates) (site : Site) : Prop :=
  match site.host with
  | .down directory => stored crates directory = .ok site.memory ∨
      ∃ target, site.torn = some target ∧ stored crates directory = .ok target
  | .up w => Persisted crates w.shared.state ∧ site.memory = w.shared.state.config.2

theorem Site.Agrees.opened (hcrates : crates.Faithful) {faults : OpenFaults}
    {directory : Directory} {s : State} (h : openState crates faults directory = .ok s) :
    (Site.opened s).Agrees crates :=
  ⟨.of_open hcrates h, rfl⟩

theorem Site.Agrees.step (hcrates : crates.Faithful) {site : Site} (h : site.Agrees crates)
    (input : SiteInput) : (site.step crates managed input).Agrees crates := by
  obtain ⟨host, memory, torn⟩ := site
  cases host with
  | down directory =>
    cases input with
    | start faults =>
      cases hopen : openState crates faults directory with
      | ok s =>
        simp only [Site.step, hopen]
        exact .opened hcrates hopen
      | error e =>
        -- a failure to read leaves everything as it was
        have hkept : (loadOrMigrateV1 crates faults directory).2 = directory := by
          rcases h with hstored | ⟨target, -, hstored⟩ <;>
            rcases openState_of_stored hstored faults with ⟨e', -, -, hdirectory⟩ | ⟨s, hok, -⟩
          · exact hdirectory
          · rw [hopen] at hok
            cases hok
          · exact hdirectory
          · rw [hopen] at hok
            cases hok
        simp only [Site.step, hopen, hkept]
        exact h
    | act a => exact h
    | kill => exact h
    | killSaving a answers => exact h
  | up w =>
    obtain ⟨hpersisted, hmemory⟩ := h
    have hdied : stored crates w.shared.state.directory = .ok memory :=
      hpersisted.stored.trans (congrArg Except.ok hmemory.symm)
    cases input with
    | start faults => exact ⟨hpersisted, hmemory⟩
    | act a => exact ⟨hpersisted.next hcrates _, rfl⟩
    | kill => exact Or.inl hdied
    | killSaving a answers =>
      simp only [Site.step]
      split
      · rcases stored_tornDirectory hcrates a.2 (saveTarget crates managed a.2 w.shared
          (w.thread a.1)) w.shared.state.directory answers with hkept | hsaved
        · exact Or.inl (hkept.trans hdied)
        · exact Or.inr ⟨_, rfl, hsaved⟩
      · exact Or.inl hdied

/-- **The configuration outlives the daemons.** After any number of lifetimes, a daemon that runs
has in memory what the document decodes to. Where none runs, opening the directory writes nothing;
it fails only if the document cannot be read; and the daemon that it gives has in memory what the
last one had, or else what that one was saving when it was killed. -/
theorem configuration_survives (hcrates : crates.Faithful) {faults : OpenFaults}
    {directory : Directory} {s : State} (hopen : openState crates faults directory = .ok s)
    (inputs : List SiteInput) :
    let site := run (Site.step crates managed) (Site.opened s) inputs
    (∀ w, site.host = .up w →
      stored crates w.shared.state.directory = .ok site.memory ∧
        site.memory = ⟨w.shared.state.rules, w.shared.state.settings⟩ ∧
        validateRuleSet site.memory.rules = .ok ()) ∧
    ∀ left, site.host = .down left → ∀ next : OpenFaults,
      (∃ e, openState crates next left = .error e ∧ next.read ≠ {} ∧
          (loadOrMigrateV1 crates next left).2 = left) ∨
        ∃ s', openState crates next left = .ok s' ∧ s'.directory = left ∧
          (⟨s'.rules, s'.settings⟩ = site.memory ∨ some ⟨s'.rules, s'.settings⟩ = site.torn) := by
  intro site
  have hagrees : site.Agrees crates :=
    invariant_run _ (fun _ input h ↦ h.step hcrates input) (.opened hcrates hopen) inputs
  constructor
  · intro w hup
    rw [Site.Agrees, hup] at hagrees
    obtain ⟨hpersisted, hmemory⟩ := hagrees
    rw [hmemory]
    exact ⟨hpersisted.stored, rfl, hpersisted.valid⟩
  · intro left hdown next
    have hopened {config : PersistedConfig} (h : stored crates left = .ok config)
        (hlast : config = site.memory ∨ some config = site.torn) :
        (∃ e, openState crates next left = .error e ∧ next.read ≠ {} ∧
            (loadOrMigrateV1 crates next left).2 = left) ∨
          ∃ s', openState crates next left = .ok s' ∧ s'.directory = left ∧
            (⟨s'.rules, s'.settings⟩ = site.memory ∨
              some ⟨s'.rules, s'.settings⟩ = site.torn) := by
      rcases openState_of_stored h next with hfailed | ⟨s', hok, hconfig⟩
      · exact Or.inl hfailed
      · obtain ⟨hdirectory, rfl⟩ := Prod.mk.inj hconfig
        exact Or.inr ⟨s', hok, hdirectory, hlast⟩
    rw [Site.Agrees, hdown] at hagrees
    rcases hagrees with hmemory | ⟨target, htorn, htarget⟩
    · exact hopened hmemory (Or.inl rfl)
    · exact hopened htarget (Or.inr htorn.symm)

/-- A daemon without rules is to add the example rule, and is killed when the document has been
replaced and the directory has not been synced. The next one is started. -/
def exampleKilled : List SiteInput :=
  [.act (0, { call := some (.request ⟨.forwardAdd,
      encodeRule exampleCrates (WireRule.ofRule exampleRule)⟩) }),
    .killSaving (0, { save := { replace := { id := 7 } } }) [{}, {}, {}, {}, {}, {}, {}],
    .start exampleFaults]

theorem configuration_survives_exampleKilled :
    let site := run (Site.step exampleCrates true)
      (Site.opened (exampleState (fun _ ↦ none) [])) exampleKilled
    site.memory.rules = [exampleRule] ∧ ∀ w, site.host = .up w →
      stored exampleCrates w.shared.state.directory = .ok site.memory :=
  ⟨by decide +kernel, fun w hup ↦ ((configuration_survives exampleCrates_faithful
    (show openState exampleCrates exampleFaults (fun _ ↦ none) = .ok _ from rfl)
    exampleKilled).1 w hup).1⟩

end TunnelDeck
