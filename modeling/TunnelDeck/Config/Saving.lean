import TunnelDeck.Concurrency.Run
import TunnelDeck.Config.Store

/-!
# A save, step by step

`saveConfig` says how a save ends. Here it is a machine that takes one step on the file system
after the other, so that the process may die between any two of them, and a write may have put any
part of the text into the file by then. A run is a list of answers of the file system, and the
state after a run is what a death leaves behind.

## Main results

* `iterate_step`: run to the end, the machine does what `saveConfig` does.
* `save_atomic_iff`: after any number of steps the document is the old one or the new one, and the
  result says which. Nothing else is changed, and no temporary file remains, unless the metadata of
  the new file could not be read.
* `exampleBlind_left`: then the file is left, although it could be removed.
-/

namespace TunnelDeck

open Concurrency

/-! ## The machine -/

/-- Where a save is. -/
inductive SavePoint where
  /-- The text is encoded and the document is about to be read. -/
  | load (text : String)
  | openTemporary (text : String)
  /-- The temporary file is new and is about to be checked. -/
  | metadata (text : String)
  | removeUnsafe
  | write (text : String)
  | sync
  | checkTarget
  | rename
  | syncDirectory
  /-- The save has failed and the guard is about to remove the temporary file. -/
  | drop (error : IoError)
  | finished (result : Except StoreError Unit)

/-- A save that is under way. -/
structure Saving where
  directory : Directory
  point : SavePoint

/-- What the file system answers to a step. An absent error is a success, and a write that is not
through has left something in the file. -/
structure SaveAnswer where
  error : Option IoError := none
  read : ReadFaults := {}
  target : Option ReadFault := none
  isPrivate : Bool := true
  left : Option Contents := none

section Machine

variable (crates : Crates)

/-- The document that a save is to write. -/
def encodeConfig (rules : List Rule) (settings : Settings) : Except StoreError String :=
  (ConfigV2.fromDomain rules settings).bind fun config ↦
    (crates.tomlToString config).mapError .encode

namespace Saving

def start (directory : Directory) (rules : List Rule) (settings : Settings) : Saving where
  directory
  point :=
    match encodeConfig crates rules settings with
    | .error e => .finished (.error e)
    | .ok text => .load text

/-- One step. `id` is the UUID in the name of the temporary file. -/
def step (id : Uuid) (s : Saving) (a : SaveAnswer) : Saving :=
  let name := temporaryName crates id
  match s.point with
  | .load text =>
    match loadConfig crates a.read s.directory with
    | .error e => { s with point := .finished (.error e) }
    | .ok _ => { s with point := .openTemporary text }
  | .openTemporary text =>
    match s.directory.createNew a.error name with
    | .error e => { s with point := .finished (.error (.io e.message)) }
    | .ok created => ⟨created, .metadata text⟩
  | .metadata text =>
    match a.error with
    | some e => { s with point := .finished (.error (.io e.message)) }
    | none => { s with point := if a.isPrivate then .write text else .removeUnsafe }
  | .removeUnsafe =>
    ⟨s.directory.discard a.error name, .finished (.error (.io Directory.unsafeEntry.message))⟩
  | .write text =>
    match a.error, a.left with
    | some e, some left => ⟨s.directory.write name left, .drop e⟩
    | some e, none => { s with point := .drop e }
    | none, some left => ⟨s.directory.write name left, .write text⟩
    | none, none => ⟨s.directory.write name (.text text), .sync⟩
  | .sync =>
    match a.error with
    | some e => { s with point := .drop e }
    | none => { s with point := .checkTarget }
  | .checkTarget =>
    match TunnelDeck.checkTarget a.target s.directory with
    | .error e => { s with point := .drop e }
    | .ok () => { s with point := .rename }
  | .rename =>
    match s.directory.rename a.error name configName with
    | .error e => { s with point := .drop e }
    | .ok renamed => ⟨renamed, .syncDirectory⟩
  | .syncDirectory =>
    match a.error with
    | some e => { s with point := .finished (.error (.durabilityUncertain e.message)) }
    | none => { s with point := .finished (.ok ()) }
  | .drop e => ⟨s.directory.discard a.error name, .finished (.error (.io e.message))⟩
  | .finished _ => s

end Saving

/-! ## The machine computes the save -/

/-- The answer to the step at a point when the faults of the save are given. -/
def SaveFaults.answer (faults : SaveFaults) : SavePoint → SaveAnswer
  | .load _ => { read := faults.read }
  | .openTemporary _ => { error := faults.replace.create.openFile }
  | .metadata _ =>
    { error := faults.replace.create.metadata
      isPrivate := faults.replace.create.unsafeFile.isNone }
  | .removeUnsafe => { error := faults.replace.create.unsafeFile.join }
  | .write _ =>
    { error := faults.replace.write.map Prod.fst, left := faults.replace.write.map Prod.snd }
  | .sync => { error := faults.replace.sync }
  | .checkTarget => { target := faults.replace.target }
  | .rename => { error := faults.replace.rename }
  | .syncDirectory => { error := faults.replace.syncDirectory }
  | .drop _ => { error := faults.replace.discard }
  | .finished _ => {}

/-- One step under the faults of a save. -/
def Saving.stepWith (faults : SaveFaults) (s : Saving) : Saving :=
  s.step crates faults.replace.id (faults.answer s.point)

end Machine

variable {crates : Crates}

theorem saveConfig_eq (faults : SaveFaults) (directory : Directory) (rules : List Rule)
    (settings : Settings) : saveConfig crates faults directory rules settings =
      match encodeConfig crates rules settings with
      | .error e => (.error e, directory)
      | .ok text =>
        match loadConfig crates faults.read directory with
        | .error e => (.error e, directory)
        | .ok _ => replace crates faults.replace directory text := by
  unfold saveConfig encodeConfig
  cases ConfigV2.fromDomain rules settings with
  | error e => rfl
  | ok config =>
    simp only [Except.bind]
    cases crates.tomlToString config <;> rfl

theorem iterate_finished (faults : SaveFaults) (directory : Directory)
    (result : Except StoreError Unit) (n : ℕ) :
    (Saving.stepWith crates faults)^[n] ⟨directory, .finished result⟩ =
      ⟨directory, .finished result⟩ := by
  induction n with
  | zero => rfl
  | succ n ih => exact ih

/-- The part of `replace` from the empty temporary file on. -/
def replaceCreated (crates : Crates) (faults : ReplaceFaults) (created : Directory)
    (text : String) : Except StoreError Unit × Directory :=
  let name := temporaryName crates faults.id
  let abandon (e : IoError) (directory : Directory) :=
    (.error (StoreError.io e.message), directory.discard faults.discard name)
  match faults.write with
  | some (e, left) => abandon e (created.write name left)
  | none =>
    let written := created.write name (.text text)
    match faults.sync with
    | some e => abandon e written
    | none =>
      match checkTarget faults.target written with
      | .error e => abandon e written
      | .ok () =>
        match written.rename faults.rename name configName with
        | .error e => abandon e written
        | .ok renamed =>
          match faults.syncDirectory with
          | some e => (.error (.durabilityUncertain e.message), renamed)
          | none => (.ok (), renamed)

/-- The state in which a save with this outcome ends. -/
def Saving.ended (outcome : Except StoreError Unit × Directory) : Saving :=
  ⟨outcome.2, .finished outcome.1⟩

theorem iterate_checkTarget (faults : SaveFaults) (created : Directory) (text : String)
    (hwrite : faults.replace.write = none) (hsync : faults.replace.sync = none) :
    (Saving.stepWith crates faults)^[3]
        ⟨created.write (temporaryName crates faults.replace.id) (.text text), .checkTarget⟩ =
      .ended (replaceCreated crates faults.replace created text) := by
  rw [Function.iterate_succ_apply, Saving.stepWith, Saving.step]
  simp only [SaveFaults.answer, replaceCreated, hwrite, hsync]
  cases checkTarget faults.replace.target
    (created.write (temporaryName crates faults.replace.id) (.text text)) with
  | error e => rfl
  | ok u =>
    simp only
    rw [Function.iterate_succ_apply, Saving.stepWith, Saving.step]
    simp only [SaveFaults.answer]
    cases (created.write (temporaryName crates faults.replace.id) (.text text)).rename
      faults.replace.rename (temporaryName crates faults.replace.id) configName with
    | error e => rfl
    | ok renamed =>
      simp only [Function.iterate_succ_apply, Function.iterate_zero_apply, Saving.stepWith,
        Saving.step, SaveFaults.answer]
      cases faults.replace.syncDirectory <;> rfl

theorem iterate_write (faults : SaveFaults) (created : Directory) (text : String) :
    (Saving.stepWith crates faults)^[5] ⟨created, .write text⟩ =
      .ended (replaceCreated crates faults.replace created text) := by
  rw [Function.iterate_succ_apply, Saving.stepWith, Saving.step]
  simp only [SaveFaults.answer]
  cases hwrite : faults.replace.write with
  | some fault =>
    simp only [replaceCreated, hwrite]
    rfl
  | none =>
    simp only [Option.map_none]
    rw [Function.iterate_succ_apply, Saving.stepWith, Saving.step]
    simp only [SaveFaults.answer]
    cases hsync : faults.replace.sync with
    | some e =>
      simp only [replaceCreated, hwrite, hsync]
      rfl
    | none => exact iterate_checkTarget faults created text hwrite hsync

theorem iterate_openTemporary (faults : SaveFaults) (directory : Directory) (text : String) :
    (Saving.stepWith crates faults)^[7] ⟨directory, .openTemporary text⟩ =
      .ended (replace crates faults.replace directory text) := by
  rw [Function.iterate_succ_apply, Saving.stepWith, Saving.step]
  simp only [SaveFaults.answer]
  cases hcreated : directory.createNew faults.replace.create.openFile
    (temporaryName crates faults.replace.id) with
  | error e =>
    simp only [replace, Directory.create, hcreated]
    rfl
  | ok created =>
    simp only
    rw [Function.iterate_succ_apply, Saving.stepWith, Saving.step]
    simp only [SaveFaults.answer]
    cases hmetadata : faults.replace.create.metadata with
    | some e =>
      simp only [replace, Directory.create, hcreated, hmetadata]
      rfl
    | none =>
      rcases Option.eq_none_or_eq_some faults.replace.create.unsafeFile with
        hforeign | ⟨removal, hforeign⟩
      · simp only [hforeign, Option.isNone_none, if_true]
        rw [iterate_write]
        simp only [replace, Directory.create, hcreated, hmetadata, hforeign]
        rfl
      · simp only [replace, Directory.create, hcreated, hmetadata, hforeign, Option.isNone_some,
          Bool.false_eq_true, if_false]
        rw [Function.iterate_succ_apply, Saving.stepWith, Saving.step]
        simp only [SaveFaults.answer, hforeign, Option.join_some]
        exact iterate_finished ..

/-- **Run to the end, the machine computes the save.** -/
theorem iterate_step (faults : SaveFaults) (directory : Directory) (rules : List Rule)
    (settings : Settings) :
    (Saving.stepWith crates faults)^[8] (.start crates directory rules settings) =
      .ended (saveConfig crates faults directory rules settings) := by
  rw [saveConfig_eq, Saving.start]
  cases encodeConfig crates rules settings with
  | error e => exact iterate_finished ..
  | ok text =>
    simp only
    rw [Function.iterate_succ_apply, Saving.stepWith, Saving.step]
    simp only [SaveFaults.answer]
    cases loadConfig crates faults.read directory with
    | error e => exact iterate_finished ..
    | ok config => exact iterate_openTemporary faults directory text

/-! ## The phases of a save -/

namespace Directory

variable {directory created : Directory} {fault : Option IoError} {name : String}

theorem write_write (directory : Directory) (name : String) (contents contents' : Contents) :
    (directory.write name contents).write name contents' = directory.write name contents' :=
  Function.update_idem ..

theorem createNew_eq_ok (h : directory.createNew fault name = .ok created) :
    directory name = none ∧ created = directory.write name (.text "") := by
  unfold createNew at h
  split at h
  · cases h
  · split at h
    · cases h
    · rename_i hnew
      cases h
      exact ⟨hnew, rfl⟩

theorem discard_write (hnew : directory name = none) (contents : Contents) :
    (directory.write name contents).discard none name = directory := by
  rw [discard, write, Function.update_idem, ← hnew, Function.update_eq_self]

theorem rename_write (hnew : directory name = none) {target : String} (hne : target ≠ name)
    (contents : Contents) : (directory.write name contents).rename none name target =
      .ok (directory.write target contents) := by
  simp only [rename, write, Function.update_self, Except.ok.injEq]
  rw [Function.update_comm hne, Function.update_idem, ← hnew, Function.update_eq_self]

end Directory

/-- How far a save of `text` into `directory` is, with the temporary file `name`, and what is in the
directory then. -/
inductive SavePhase (name : String) (directory : Directory) (text : String) : Saving → Prop
  /-- Nothing is written yet. -/
  | before {point : SavePoint} (hpoint : point = .load text ∨ point = .openTemporary text) :
    SavePhase name directory text ⟨directory, point⟩
  /-- The temporary file holds something. -/
  | temporary {point : SavePoint} {contents : Contents} (hnew : directory name = none)
      (hpoint : point = .metadata text ∨ point = .removeUnsafe ∨ point = .write text ∨
        ∃ e, point = .drop e) :
    SavePhase name directory text ⟨directory.write name contents, point⟩
  /-- The temporary file holds the text. -/
  | complete {point : SavePoint} (hnew : directory name = none)
      (hpoint : point = .sync ∨ point = .checkTarget ∨ point = .rename) :
    SavePhase name directory text ⟨directory.write name (.text text), point⟩
  /-- The document is replaced. -/
  | replaced :
    SavePhase name directory text ⟨directory.write configName (.text text), .syncDirectory⟩
  | kept {error : StoreError} (herror : committed (.error error) = false) :
    SavePhase name directory text ⟨directory, .finished (.error error)⟩
  | left {error : StoreError} {contents : Contents} (hnew : directory name = none)
      (herror : committed (.error error) = false) :
    SavePhase name directory text ⟨directory.write name contents, .finished (.error error)⟩
  | saved {result : Except StoreError Unit} (hresult : committed result = true) :
    SavePhase name directory text ⟨directory.write configName (.text text), .finished result⟩

section Phases

variable {id : Uuid} {directory : Directory} {text : String} {s : Saving}

theorem SavePhase.discarded {name : String} (hnew : directory name = none) (contents : Contents)
    (fault : Option IoError) {error : StoreError} (herror : committed (.error error) = false) :
    SavePhase name directory text
      ⟨(directory.write name contents).discard fault name, .finished (.error error)⟩ := by
  cases fault with
  | some e => exact .left hnew herror
  | none =>
    rw [Directory.discard_write hnew]
    exact .kept herror

/-- **A save goes from phase to phase.** -/
theorem SavePhase.step (h : SavePhase (temporaryName crates id) directory text s) (a : SaveAnswer) :
    SavePhase (temporaryName crates id) directory text (s.step crates id a) := by
  cases h with
  | before hpoint =>
    rcases hpoint with rfl | rfl
    · simp only [Saving.step]
      split
      · rename_i e hload
        exact .kept (refuses_loadConfig _ _ e hload)
      · exact .before (Or.inr rfl)
    · simp only [Saving.step]
      split
      · exact .kept rfl
      · rename_i created hcreated
        -- the temporary name was free, so the file is this one
        obtain ⟨hnew, rfl⟩ := Directory.createNew_eq_ok hcreated
        exact .temporary hnew (Or.inl rfl)
  | @temporary _ contents hnew hpoint =>
    rcases hpoint with rfl | rfl | rfl | ⟨e, rfl⟩
    · simp only [Saving.step]
      split
      · exact .left hnew rfl
      · refine .temporary hnew ?_
        split
        · exact Or.inr (Or.inr (Or.inl rfl))
        · exact Or.inr (Or.inl rfl)
    · exact .discarded hnew contents a.error rfl
    · simp only [Saving.step]
      split
      · rw [Directory.write_write]
        exact .temporary hnew (Or.inr (Or.inr (Or.inr ⟨_, rfl⟩)))
      · exact .temporary hnew (Or.inr (Or.inr (Or.inr ⟨_, rfl⟩)))
      · rw [Directory.write_write]
        exact .temporary hnew (Or.inr (Or.inr (Or.inl rfl)))
      · rw [Directory.write_write]
        exact .complete hnew (Or.inl rfl)
    · exact .discarded hnew contents a.error rfl
  | complete hnew hpoint =>
    rcases hpoint with rfl | rfl | rfl
    · simp only [Saving.step]
      split
      · exact .temporary hnew (Or.inr (Or.inr (Or.inr ⟨_, rfl⟩)))
      · exact .complete hnew (Or.inr (Or.inl rfl))
    · simp only [Saving.step]
      split
      · exact .temporary hnew (Or.inr (Or.inr (Or.inr ⟨_, rfl⟩)))
      · exact .complete hnew (Or.inr (Or.inr rfl))
    · simp only [Saving.step]
      cases a.error with
      | some e => exact .temporary hnew (Or.inr (Or.inr (Or.inr ⟨_, rfl⟩)))
      | none =>
        -- the one step at which the document changes
        rw [Directory.rename_write hnew (configName_ne_temporaryName crates id)]
        exact .replaced
  | replaced =>
    simp only [Saving.step]
    split
    · exact .saved rfl
    · exact .saved rfl
  | kept herror => exact .kept herror
  | left hnew herror => exact .left hnew herror
  | saved hresult => exact .saved hresult

/-- Where a save starts: it has nothing to write, or it is before its first step. -/
theorem start_phase (crates : Crates) (directory : Directory) (rules : List Rule)
    (settings : Settings) :
    (∃ e, encodeConfig crates rules settings = .error e ∧ committed (.error e) = false ∧
        Saving.start crates directory rules settings = ⟨directory, .finished (.error e)⟩) ∨
      ∃ text, encodeConfig crates rules settings = .ok text ∧
        Saving.start crates directory rules settings = ⟨directory, .load text⟩ := by
  unfold Saving.start
  cases hencode : encodeConfig crates rules settings with
  | error e =>
    refine Or.inl ⟨e, rfl, ?_, rfl⟩
    exact (Refuses.bind (refuses_fromDomain rules settings)
      fun config ↦ Refuses.mapError fun _ ↦ rfl) e hencode
  | ok text => exact Or.inr ⟨text, rfl, rfl⟩

/-- Whatever the phase, the document is the old one or the new one, and the other names that stood
for something are left alone. -/
theorem SavePhase.entries (h : SavePhase (temporaryName crates id) directory text s) :
    (s.directory configName = directory configName ∨
        s.directory configName = some (.file (.text text))) ∧
      (∀ result, s.point = .finished result →
        (committed result = false → s.directory configName = directory configName) ∧
        (committed result = true → s.directory configName = some (.file (.text text)))) ∧
      ∀ other ≠ configName, directory other ≠ none → s.directory other = directory other := by
  have hname := configName_ne_temporaryName crates id
  have hother : ∀ contents : Contents, directory (temporaryName crates id) = none →
      ∀ other ≠ configName, directory other ≠ none →
        directory.write (temporaryName crates id) contents other = directory other := by
    rintro contents hnew other - hsome
    exact Directory.write_of_ne _ _ fun heq ↦ hsome (heq ▸ hnew)
  cases h with
  | before hpoint =>
    refine ⟨Or.inl rfl, ?_, fun _ _ _ ↦ rfl⟩
    rintro result rfl
    rcases hpoint with hpoint | hpoint <;> cases hpoint
  | @temporary _ contents hnew hpoint =>
    refine ⟨Or.inl (directory.write_of_ne contents hname), ?_, hother contents hnew⟩
    rintro result rfl
    rcases hpoint with hpoint | hpoint | hpoint | ⟨e, hpoint⟩ <;> cases hpoint
  | complete hnew hpoint =>
    refine ⟨Or.inl (directory.write_of_ne (.text text) hname), ?_, hother (.text text) hnew⟩
    rintro result rfl
    rcases hpoint with hpoint | hpoint | hpoint <;> cases hpoint
  | replaced =>
    exact ⟨Or.inr (directory.write_self configName (.text text)), nofun,
      fun _ hne _ ↦ Directory.write_of_ne _ _ hne⟩
  | kept herror =>
    refine ⟨Or.inl rfl, ?_, fun _ _ _ ↦ rfl⟩
    rintro result ⟨⟩
    exact ⟨fun _ ↦ rfl, fun hsaved ↦ nomatch herror.symm.trans hsaved⟩
  | @left _ contents hnew herror =>
    refine ⟨Or.inl (directory.write_of_ne contents hname), ?_, hother contents hnew⟩
    rintro result ⟨⟩
    exact ⟨fun _ ↦ directory.write_of_ne contents hname,
      fun hsaved ↦ nomatch herror.symm.trans hsaved⟩
  | saved hresult =>
    refine ⟨Or.inr (directory.write_self configName (.text text)), ?_,
      fun _ hne _ ↦ Directory.write_of_ne _ _ hne⟩
    rintro result ⟨⟩
    exact ⟨fun hnot ↦ (nomatch hresult.symm.trans hnot),
      fun _ ↦ directory.write_self configName (.text text)⟩

end Phases

/-! ## What is left of the temporary file -/

def SavePoint.unlinks : SavePoint → Bool
  | .removeUnsafe | .drop _ => true
  | _ => false

def SavePoint.looks : SavePoint → Bool
  | .metadata _ => true
  | _ => false

/-- A step that removes a file succeeds. -/
def UnlinkWorks (s : Saving) (a : SaveAnswer) : Prop := s.point.unlinks = true → a.error = none

/-- The metadata of the new file cannot be read. -/
def Blind (s : Saving) (a : SaveAnswer) : Prop := s.point.looks = true ∧ a.error ≠ none

instance (s : Saving) (a : SaveAnswer) : Decidable (UnlinkWorks s a) :=
  inferInstanceAs (Decidable (_ → _))

instance (s : Saving) (a : SaveAnswer) : Decidable (Blind s a) :=
  inferInstanceAs (Decidable (_ ∧ _))

/-- Apart from the document the directory is as it was. -/
def Saving.Clean (directory : Directory) (s : Saving) : Prop :=
  ∀ other ≠ configName, s.directory other = directory other

section Clean

variable {id : Uuid} {directory : Directory} {text : String} {s : Saving}

/-- What a finished save leaves, if its last step removes the file or did not have to. -/
theorem clean_discard {name : String} (hnew : directory name = none) (contents : Contents)
    {fault : Option IoError} (hfault : fault = none) (point : SavePoint) :
    Saving.Clean directory ⟨(directory.write name contents).discard fault name, point⟩ := by
  subst hfault
  intro other _
  rw [Directory.discard_write hnew]

/-- The last step of a save leaves no temporary file, if it could read the metadata of the file and
remove it. -/
theorem SavePhase.clean_step (h : SavePhase (temporaryName crates id) directory text s)
    (hclean : ∀ result, s.point = .finished result → s.Clean directory) {a : SaveAnswer}
    (hunlink : UnlinkWorks s a) (hsees : ¬ Blind s a) (result : Except StoreError Unit)
    (hfinished : (s.step crates id a).point = .finished result) :
    (s.step crates id a).Clean directory := by
  cases h with
  | before hpoint =>
    rcases hpoint with rfl | rfl
    · simp only [Saving.step] at hfinished ⊢
      split at hfinished
      · exact fun _ _ ↦ rfl
      · cases hfinished
    · simp only [Saving.step] at hfinished ⊢
      split at hfinished
      · exact fun _ _ ↦ rfl
      · cases hfinished
  | @temporary _ contents hnew hpoint =>
    rcases hpoint with rfl | rfl | rfl | ⟨e, rfl⟩
    · simp only [Saving.step] at hfinished
      split at hfinished
      · rename_i e herror
        exact absurd ⟨rfl, by rw [herror]; exact Option.some_ne_none e⟩ hsees
      · simp only at hfinished
        split at hfinished <;> cases hfinished
    · exact clean_discard hnew contents (hunlink rfl) _
    · simp only [Saving.step] at hfinished
      split at hfinished <;> cases hfinished
    · exact clean_discard hnew contents (hunlink rfl) _
  | complete hnew hpoint =>
    rcases hpoint with rfl | rfl | rfl <;> simp only [Saving.step] at hfinished <;>
      split at hfinished <;> cases hfinished
  | replaced =>
    simp only [Saving.step]
    split <;> exact fun _ hne ↦ Directory.write_of_ne _ _ hne
  | kept herror => exact fun _ _ ↦ rfl
  | left hnew herror => exact hclean _ rfl
  | saved hresult => exact fun _ hne ↦ Directory.write_of_ne _ _ hne

theorem run_finished (id : Uuid) (directory : Directory) (result : Except StoreError Unit)
    (answers : List SaveAnswer) :
    run (Saving.step crates id) ⟨directory, .finished result⟩ answers =
      ⟨directory, .finished result⟩ := by
  induction answers with
  | nil => rfl
  | cons a answers ih => exact ih

/-- **The temporary file remains exactly if its metadata could not be read.** -/
theorem SavePhase.clean_iff (h : SavePhase (temporaryName crates id) directory text s)
    (hclean : ∀ result, s.point = .finished result → s.Clean directory)
    {answers : List SaveAnswer}
    (hunlink : Along (Saving.step crates id) UnlinkWorks s answers)
    {result : Except StoreError Unit}
    (hfinished : (run (Saving.step crates id) s answers).point = .finished result) :
    (run (Saving.step crates id) s answers).Clean directory ↔
      Along (Saving.step crates id) (fun s a ↦ ¬ Blind s a) s answers := by
  induction answers generalizing s with
  | nil => exact iff_of_true (hclean result hfinished) trivial
  | cons a answers ih =>
    by_cases hblind : Blind s a
    · refine iff_of_false ?_ fun halong ↦ halong.1 hblind
      -- the new file is left, and the save is over
      obtain ⟨hlooks, herror⟩ := hblind
      obtain ⟨e, he⟩ := Option.ne_none_iff_exists'.mp herror
      intro hkept
      cases h with
      | before hpoint => rcases hpoint with rfl | rfl <;> cases hlooks
      | @temporary _ contents hnew hpoint =>
        rcases hpoint with rfl | rfl | rfl | ⟨e', rfl⟩
        · have hstep : Saving.step crates id ⟨directory.write (temporaryName crates id) contents,
              .metadata text⟩ a = ⟨directory.write (temporaryName crates id) contents,
                .finished (.error (.io e.message))⟩ := by
            simp only [Saving.step, he]
          rw [run_cons, hstep, run_finished] at hkept
          have hsame := hkept (temporaryName crates id) (configName_ne_temporaryName crates id).symm
          exact nomatch (directory.write_self _ contents).symm.trans (hsame.trans hnew)
        all_goals cases hlooks
      | complete hnew hpoint => rcases hpoint with rfl | rfl | rfl <;> cases hlooks
      | replaced | kept | left | saved => cases hlooks
    · rw [run_cons] at hfinished ⊢
      rw [along_cons, and_iff_right hblind]
      exact ih (h.step a) (h.clean_step hclean hunlink.1 hblind) hunlink.2 hfinished

end Clean

/-! ## The save -/

/-- A document that does not decode is not read under any faults. -/
theorem loadConfig_of_stored {directory : Directory} {e : StoreError}
    (h : stored crates directory = .error e) (faults : ReadFaults) :
    ∃ e', loadConfig crates faults directory = .error e' := by
  cases hload : loadConfig crates faults directory with
  | error e' => exact ⟨e', rfl⟩
  | ok config =>
    cases horiginal : readOriginal faults directory with
    | error e' => simp [loadConfig, horiginal, bind, Except.bind] at hload
    | ok original =>
      have hsame : loadConfig crates {} directory = .ok config := by
        rw [loadConfig, readOriginal_of_faults horiginal]
        rwa [loadConfig, horiginal] at hload
      simp [stored, hsame, Except.map] at h

theorem run_of_stored {directory : Directory} {e : StoreError}
    (h : stored crates directory = .error e) (id : Uuid) (rules : List Rule) (settings : Settings)
    (answers : List SaveAnswer) :
    (run (Saving.step crates id) (.start crates directory rules settings) answers).directory =
        directory ∧
      (answers ≠ [] → ∃ error, (run (Saving.step crates id)
        (.start crates directory rules settings) answers).point = .finished (.error error)) := by
  rcases start_phase crates directory rules settings with ⟨e', -, -, hstart⟩ | ⟨text, -, hstart⟩
  · rw [hstart, run_finished]
    exact ⟨rfl, fun _ ↦ ⟨e', rfl⟩⟩
  · rw [hstart]
    cases answers with
    | nil => exact ⟨rfl, fun hnil ↦ absurd rfl hnil⟩
    | cons a answers =>
      obtain ⟨e', hload⟩ := loadConfig_of_stored h a.read
      have hstep : Saving.step crates id ⟨directory, .load text⟩ a =
          ⟨directory, .finished (.error e')⟩ := by
        simp only [Saving.step, hload]
      rw [run_cons, hstep, run_finished]
      exact ⟨rfl, fun _ ↦ ⟨e', rfl⟩⟩

/-- **A save is atomic.** After any number of its steps, however they are answered, the document is
the old one or exactly the new one, and a result says which; no other file that was there is
changed; and a document that does not decode is left alone. A save that comes to its end and can
remove what it has to leaves no temporary file, exactly if it could read the metadata of the new
file. -/
theorem save_atomic_iff (crates : Crates) (id : Uuid) (directory : Directory) (rules : List Rule)
    (settings : Settings) (answers : List SaveAnswer) {s : Saving}
    (hs : run (Saving.step crates id) (.start crates directory rules settings) answers = s) :
    (s.directory configName = directory configName ∨
        ∃ text, encodeConfig crates rules settings = .ok text ∧
          s.directory configName = some (.file (.text text))) ∧
      (∀ result, s.point = .finished result →
        (committed result = false → s.directory configName = directory configName) ∧
        (committed result = true → ∃ text, encodeConfig crates rules settings = .ok text ∧
          s.directory configName = some (.file (.text text)))) ∧
      (∀ other ≠ configName, directory other ≠ none → s.directory other = directory other) ∧
      (∀ e, stored crates directory = .error e → s.directory = directory ∧
        (answers ≠ [] → ∃ error, s.point = .finished (.error error))) ∧
      (∀ result, s.point = .finished result →
        Along (Saving.step crates id) UnlinkWorks (.start crates directory rules settings) answers →
        (s.Clean directory ↔ Along (Saving.step crates id) (fun s a ↦ ¬ Blind s a)
          (.start crates directory rules settings) answers)) := by
  have hstored := fun e (h : stored crates directory = .error e) ↦
    run_of_stored h id rules settings answers
  rw [hs] at hstored
  rcases start_phase crates directory rules settings with
    ⟨e, hencode, herror, hstart⟩ | ⟨text, hencode, hstart⟩
  · -- there is nothing to write, and the save is over before its first step
    have hphase : SavePhase (temporaryName crates id) directory ""
        (.start crates directory rules settings) := hstart ▸ .kept herror
    have hclean : ∀ result, (Saving.start crates directory rules settings).point =
        .finished result → (Saving.start crates directory rules settings).Clean directory := by
      rw [hstart]
      exact fun _ _ _ _ ↦ rfl
    have hdone : s = ⟨directory, .finished (.error e)⟩ := by rw [← hs, hstart, run_finished]
    refine ⟨Or.inl (by rw [hdone]), ?_, fun _ _ _ ↦ by rw [hdone], hstored, ?_⟩
    · rintro result hresult
      rw [hdone] at hresult ⊢
      cases hresult
      exact ⟨fun _ ↦ rfl, fun hsaved ↦ nomatch herror.symm.trans hsaved⟩
    · intro result hresult hunlink
      rw [← hs] at hresult ⊢
      exact hphase.clean_iff hclean hunlink hresult
  · have hphase : SavePhase (temporaryName crates id) directory text
        (.start crates directory rules settings) := hstart ▸ .before (Or.inl rfl)
    have hclean : ∀ result, (Saving.start crates directory rules settings).point =
        .finished result → (Saving.start crates directory rules settings).Clean directory := by
      rw [hstart]
      exact fun _ hresult ↦ nomatch hresult
    have hlast := invariant_run (Saving.step crates id)
      (I := SavePhase (temporaryName crates id) directory text) (fun _ a h ↦ h.step a) hphase
      answers
    rw [hs] at hlast
    obtain ⟨hdocument, hresult, hother⟩ := hlast.entries
    refine ⟨hdocument.imp_right fun h ↦ ⟨text, hencode, h⟩, fun result hfinished ↦ ?_, hother,
      hstored, fun result hfinished hunlink ↦ ?_⟩
    · exact ⟨(hresult result hfinished).1,
        fun hsaved ↦ ⟨text, hencode, (hresult result hfinished).2 hsaved⟩⟩
    · rw [← hs] at hfinished ⊢
      exact hphase.clean_iff hclean hunlink hfinished

/-! ### Examples -/

def exampleEmptyText : String :=
  "schema_version = 2\nrules = []\n\n[settings]\ntheme = \"system\"\nlog_level = \"info\"\n" ++
    "default_reconnect = false\ndefault_auto_start = false\n"

def exampleEmpty : Crates := .ofTable [(⟨2, [], .default⟩, exampleEmptyText)]

/-- A save of it into an empty directory. -/
def exampleSaving : Saving := .start exampleEmpty (fun _ ↦ none) [] .default

/-- The text is written in two parts, and the sync of the directory fails. -/
def exampleUncertain : List SaveAnswer :=
  [{}, {}, {}, { left := some (.text "schema_version = 2\nru") }, {}, {}, {}, {},
    { error := some ⟨.other, "Input/output error (os error 5)"⟩ }]

/-- The new document is in place, as the error says. -/
theorem save_atomic_iff_exampleUncertain :
    ∃ text, encodeConfig exampleEmpty [] .default = .ok text ∧
      (run (Saving.step exampleEmpty 7) exampleSaving exampleUncertain).directory configName =
        some (.file (.text text)) :=
  ((save_atomic_iff exampleEmpty 7 (fun _ ↦ none) [] .default exampleUncertain rfl).2.1
    (.error (.durabilityUncertain "Input/output error (os error 5)")) rfl).2 rfl

/-- The temporary file is open, but its metadata cannot be read. -/
def exampleBlind : List SaveAnswer :=
  [{}, {}, { error := some ⟨.other, "Input/output error (os error 5)"⟩ }]

/-- The save fails and the process goes on, no removal has failed, and the temporary file is still
there. -/
theorem exampleBlind_left :
    (∃ error, (run (Saving.step exampleEmpty 7) exampleSaving exampleBlind).point =
        .finished (.error error)) ∧
      Along (Saving.step exampleEmpty 7) UnlinkWorks exampleSaving exampleBlind ∧
      (run (Saving.step exampleEmpty 7) exampleSaving exampleBlind).directory
        ".config.00000000-0000-0000-0000-000000000007.tmp" = some (.file (.text "")) :=
  ⟨⟨_, rfl⟩, by decide +kernel, by decide +kernel⟩

end TunnelDeck
