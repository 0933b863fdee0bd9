import TunnelDeck.Config.Saving
import TunnelDeck.Platform.PrivateFiles

/-!
# A save on the disk

`Saving` takes the private directory for a map from names to files. Here the same save makes the
system calls of `PrivateDirectory` on a disk: it opens and checks inodes, appends to the new file as
much as each write takes, and renames and removes entries. The process may die between any two
calls.

## Main results

* `Refines.step`: a step on the disk is a step on the map.
* `save_on_disk`: what a save leaves on the disk after any number of calls.
-/

namespace TunnelDeck.PrivateFs

open Concurrency

/-! ## The calls of a save -/

/-- What a file system that fails may answer to the calls of a step, and how much a write takes. -/
structure DiskAnswer where
  file : OpenAnswer := {}
  fault : Option ReadFault := none
  written : ℕ := 0

/-- A save that is under way. -/
structure DiskSave where
  volume : Volume
  point : SavePoint
  /-- The number of the temporary file, once it is open. -/
  file : ℕ
  /-- What is still to be written to it. -/
  rest : List UInt8

section Machine

variable (crates : Crates) (caller : Unix.Caller) (directory : PrivateDirectory)

/-- `read_original`. -/
def readDocument (volume : Volume) (a : DiskAnswer) : Except StoreError (Option String) :=
  match readFile caller volume directory a.file (bytesOf configName) with
  | .error e => if e.kind = .notFound then .ok none else .error (.io e.message)
  | .ok i =>
    match a.fault, contentsOf (volume.contents i) with
    | some fault, _ => .error (.io fault.error.message)
    | none, .bytes _ => .error (.io "stream did not contain valid UTF-8")
    | none, .text text => .ok (some text)

/-- `load_config`. -/
def loadDocument (volume : Volume) (a : DiskAnswer) :
    Except StoreError (Option PersistedConfig) := do
  match ← readDocument caller directory volume a with
  | none => return none
  | some text => return some (← decode crates text)

/-- A removal whose failure is ignored. -/
def discardFile (volume : Volume) (a : DiskAnswer) (name : Name) : Volume :=
  match removeFile caller volume directory a.fault name with
  | .error _ => volume
  | .ok volume => volume

/-- What a failed write says that wrote nothing. -/
def writeZero : IoError := ⟨.other, "failed to write whole buffer"⟩

namespace DiskSave

def start (volume : Volume) (rules : List Rule) (settings : Settings) : DiskSave where
  volume
  point :=
    match encodeConfig crates rules settings with
    | .error e => .finished (.error e)
    | .ok text => .load text
  file := 0
  rest := []

/-- One step. `id` is the UUID in the name of the temporary file. -/
def step (id : Uuid) (c : DiskSave) (a : DiskAnswer) : DiskSave :=
  let name := bytesOf (temporaryName crates id)
  match c.point with
  | .load text =>
    match loadDocument crates caller directory c.volume a with
    | .error e => { c with point := .finished (.error e) }
    | .ok _ => { c with point := .openTemporary text }
  | .openTemporary text =>
    match createFile caller c.volume directory a.file name with
    | .error e => { c with point := .finished (.error (.io e.message)) }
    | .ok volume => { c with volume, point := .metadata text, file := c.volume.disk.fresh }
  | .metadata text =>
    match withFault a.fault (metadataOf c.volume c.file) with
    | .error e => { c with point := .finished (.error (.io e.message)) }
    | .ok metadata =>
      match check metadata directory.uid false with
      | .error _ => { c with point := .removeUnsafe }
      | .ok () => { c with point := .write text, rest := bytesOf text }
  | .removeUnsafe =>
    { c with
      volume := discardFile caller directory c.volume a name
      point := .finished (.error (.io Directory.unsafeEntry.message)) }
  | .write _ =>
    -- `write_all`: one write after the other until nothing is left
    if c.rest = [] then { c with point := .sync }
    else
      match a.fault with
      | some fault => { c with point := .drop fault.error }
      | none =>
        if a.written = 0 then { c with point := .drop writeZero }
        else
          { c with
            volume := c.volume.append c.file (c.rest.take a.written)
            rest := c.rest.drop a.written }
  | .sync =>
    match a.fault with
    | some fault => { c with point := .drop fault.error }
    | none => { c with point := .checkTarget }
  | .checkTarget =>
    match readFile caller c.volume directory a.file (bytesOf configName) with
    | .ok _ => { c with point := .rename }
    | .error e =>
      if e.kind = .notFound then { c with point := .rename } else { c with point := .drop e }
  | .rename =>
    match renameFile caller c.volume directory a.fault name (bytesOf configName) with
    | .error e => { c with point := .drop e }
    | .ok volume => { c with volume, point := .syncDirectory }
  | .syncDirectory =>
    match a.fault with
    | some fault =>
      { c with point := .finished (.error (.durabilityUncertain fault.error.message)) }
    | none => { c with point := .finished (.ok ()) }
  | .drop e =>
    { c with
      volume := discardFile caller directory c.volume a name
      point := .finished (.error (.io e.message)) }
  | .finished _ => c

end DiskSave

end Machine

/-! ## Refinement -/

theorem bytesOf_configName_ne (crates : Crates) (id : Uuid) :
    bytesOf configName ≠ bytesOf (temporaryName crates id) :=
  fun heq ↦ configName_ne_temporaryName crates id (bytesOf_injective heq)

/-- The temporary file is open, and its name leads to it. -/
def isOpen : SavePoint → Bool
  | .metadata _ | .removeUnsafe | .write _ | .sync | .checkTarget | .rename | .drop _ => true
  | _ => false

/-- The temporary file has been found to be private. -/
def isReady : SavePoint → Bool
  | .write _ | .sync | .checkTarget | .rename => true
  | _ => false

section Refinement

variable (crates : Crates) (directory : PrivateDirectory) (id : Uuid)

/-- The save `c` on the disk is the save `s` on the map: what the names stand for is the same, save
that the temporary file may be a foreign one on the disk before it is checked and when it is
left. -/
structure Refines (c : DiskSave) (s : Saving) : Prop where
  point : s.point = c.point
  tidy : c.volume.disk.Tidy directory.file
  agrees : ∀ other ≠ temporaryName crates id,
    s.directory other = view directory.uid directory.file c.volume other
  present : (s.directory (temporaryName crates id)).isSome =
    (c.volume.disk.entry directory.file (bytesOf (temporaryName crates id))).isSome
  opened : isOpen c.point = true →
    c.volume.disk.entry directory.file (bytesOf (temporaryName crates id)) = some c.file ∧
      ∃ inode, c.volume.disk.inodes c.file = some inode ∧ inode.node = .file 1
  ready : isReady c.point = true →
    s.directory (temporaryName crates id) = some (.file (contentsOf (c.volume.contents c.file))) ∧
      ∃ inode, c.volume.disk.inodes c.file = some inode ∧
        check inode directory.uid false = .ok ()
  created : ∀ text, c.point = .metadata text →
    s.directory (temporaryName crates id) = some (.file (.text "")) ∧
      c.volume.contents c.file = []
  writing : ∀ text, c.point = .write text → c.volume.contents c.file ++ c.rest = bytesOf text
  target : c.point = .rename →
    view directory.uid directory.file c.volume configName ≠ some .foreign

end Refinement

variable {crates : Crates} {caller : Unix.Caller} {directory : PrivateDirectory} {id : Uuid}
  {c : DiskSave} {s : Saving}

theorem Refines.goto (h : Refines crates directory id c s) (point : SavePoint)
    (hopen : isOpen point = true → isOpen c.point = true)
    (hready : isReady point = true → isReady c.point = true)
    (hcreated : ∀ text, point ≠ .metadata text) (hwriting : ∀ text, point ≠ .write text)
    (htarget : point = .rename →
      view directory.uid directory.file c.volume configName ≠ some .foreign) :
    Refines crates directory id { c with point } { s with point } where
  point := rfl
  tidy := h.tidy
  agrees := h.agrees
  present := h.present
  opened hpoint := h.opened (hopen hpoint)
  ready hpoint := h.ready (hready hpoint)
  created text hpoint := absurd hpoint (hcreated text)
  writing text hpoint := absurd hpoint (hwriting text)
  target := htarget

theorem isOpen_of_isReady {point : SavePoint} (h : isReady point = true) : isOpen point = true := by
  cases point <;> first | rfl | cases h

theorem Refines.leave (h : Refines crates directory id c s) (point : SavePoint)
    (hopen : isOpen point = false) :
    Refines crates directory id { c with point } { s with point } := by
  have hnot : isOpen point ≠ true := by
    rw [hopen]
    exact Bool.false_ne_true
  refine h.goto point (fun h' ↦ absurd h' hnot) (fun h' ↦ absurd (isOpen_of_isReady h') hnot)
    ?_ ?_ ?_
  · rintro text rfl
    exact hnot rfl
  · rintro text rfl
    exact hnot rfl
  · rintro rfl
    exact absurd rfl hnot

/-- **Loading the document is loading it from the map**, under some faults. -/
theorem exists_loadConfig (crates : Crates) (caller : Unix.Caller) {volume : Volume}
    (a : DiskAnswer) {files : Directory}
    (h : files configName = view directory.uid directory.file volume configName) : ∃ faults,
      loadConfig crates faults files = loadDocument crates caller directory volume a := by
  obtain ⟨fault, hread⟩ := exists_read caller a.file h
  have hdocument : readOriginal ⟨fault, a.fault.map (·.error)⟩ files =
      readDocument caller directory volume a := by
    rw [readOriginal, readDocument, hread]
    cases readFile caller volume directory a.file (bytesOf configName) with
    | error e => rfl
    | ok i =>
      simp only [Except.map]
      cases a.fault with
      | some fault => rfl
      | none => cases contentsOf (volume.contents i) <;> rfl
  refine ⟨⟨fault, a.fault.map (·.error)⟩, ?_⟩
  rw [loadDocument, ← hdocument]
  rfl

theorem Refines.agrees_update (h : Refines crates directory id c s) {volume : Volume}
    (entry : Option Entry) (htidy : volume.disk.Tidy directory.file)
    (hentries : ∀ name ≠ bytesOf (temporaryName crates id),
      volume.disk.entry directory.file name = c.volume.disk.entry directory.file name)
    (hsame : ∀ name ≠ bytesOf (temporaryName crates id), ∀ i,
      c.volume.disk.entry directory.file name = some i → i ≠ directory.file →
        volume.disk.inodes i = c.volume.disk.inodes i ∧ volume.contents i = c.volume.contents i)
    (other : String) (hother : other ≠ temporaryName crates id) :
    Function.update s.directory (temporaryName crates id) entry other =
      view directory.uid directory.file volume other := by
  have hname : bytesOf other ≠ bytesOf (temporaryName crates id) :=
    fun heq ↦ hother (bytesOf_injective heq)
  rw [Function.update_of_ne hother, h.agrees other hother]
  exact (view_congr h.tidy htidy (hentries _ hname) (hsame _ hname)).symm

section Steps

variable (h : Refines crates directory id c s) (a : DiskAnswer)
include h

theorem Refines.load {text : String} (hpoint : c.point = .load text) :
    ∃ b, Refines crates directory id (c.step crates caller directory id a)
      (s.step crates id b) := by
  obtain ⟨faults, hload⟩ := exists_loadConfig crates caller a
    (h.agrees configName (configName_ne_temporaryName crates id))
  refine ⟨{ read := faults }, ?_⟩
  simp only [DiskSave.step, Saving.step, hpoint, h.point, hload]
  cases loadDocument crates caller directory c.volume a with
  | error e => exact h.leave _ rfl
  | ok config => exact h.leave _ rfl

theorem Refines.openTemporary {text : String} (hpoint : c.point = .openTemporary text) :
    ∃ b, Refines crates directory id (c.step crates caller directory id a)
      (s.step crates id b) := by
  simp only [DiskSave.step, Saving.step, hpoint, h.point]
  cases hcreate : createFile caller c.volume directory a.file
    (bytesOf (temporaryName crates id)) with
  | error e => exact ⟨{ error := some e }, h.leave _ rfl⟩
  | ok volume =>
    obtain ⟨hentry, group, mode, rfl⟩ := createFile_eq_ok hcreate
    have hnew : s.directory (temporaryName crates id) = none := by
      have hpresent := h.present
      rwa [hentry, Option.isSome_none, Option.isSome_eq_false_iff,
        Option.isNone_iff_eq_none] at hpresent
    have hself : (c.volume.disk.addFile directory.file (bytesOf (temporaryName crates id))
        caller.uid group mode).entry directory.file (bytesOf (temporaryName crates id)) =
          some c.volume.disk.fresh := by
      rw [Unix.Disk.entry_addFile h.tidy, Function.update_self]
    refine ⟨{}, ?_⟩
    simp only [Directory.createNew, hnew]
    exact
      { point := rfl
        tidy := h.tidy.addFile
        agrees := by
          refine h.agrees_update _ h.tidy.addFile (fun name hname ↦ ?_) fun name _ i hi hdir ↦ ?_
          · rw [Unix.Disk.entry_addFile h.tidy, Function.update_of_ne hname]
          · have hfresh := h.tidy.ne_fresh hi
            exact ⟨Unix.Disk.addFile_inodes_of_ne hfresh hdir, Function.update_of_ne hfresh ..⟩
        present := by simp only [hself, Function.update_self, Option.isSome_some]
        opened := fun _ ↦ ⟨hself, _, Unix.Disk.addFile_inodes_fresh, rfl⟩
        ready := fun h' ↦ by cases h'
        created := fun _ _ ↦ ⟨Function.update_self .., Function.update_self ..⟩
        writing := fun text h' ↦ by cases h'
        target := fun h' ↦ by cases h' }

theorem Refines.metadata {text : String} (hpoint : c.point = .metadata text) :
    ∃ b, Refines crates directory id (c.step crates caller directory id a)
      (s.step crates id b) := by
  obtain ⟨hentry, inode, hinode, hfile⟩ := h.opened (by rw [hpoint]; rfl)
  obtain ⟨hempty, hcontents⟩ := h.created text hpoint
  simp only [DiskSave.step, Saving.step, hpoint, h.point]
  cases hmetadata : withFault a.fault (metadataOf c.volume c.file) with
  | error e => exact ⟨{ error := some e }, h.leave _ rfl⟩
  | ok metadata =>
    obtain rfl := Option.some.inj (hinode.symm.trans (metadataOf_eq_ok (withFault_eq_ok hmetadata)))
    cases hcheck : check inode directory.uid false with
    | error e =>
      refine ⟨{ isPrivate := false }, ?_⟩
      simp only [hcheck, Bool.false_eq_true, if_false]
      apply h.goto .removeUnsafe (fun _ ↦ by rw [hpoint]; rfl)
      · exact fun h' ↦ by cases h'
      · exact fun _ h' ↦ by cases h'
      · exact fun _ h' ↦ by cases h'
      · exact fun h' ↦ by cases h'
    | ok u =>
      refine ⟨{}, ?_⟩
      simp only [hcheck, if_true]
      exact
        { point := rfl
          tidy := h.tidy
          agrees := h.agrees
          present := h.present
          opened := fun _ ↦ ⟨hentry, inode, hinode, hfile⟩
          ready := fun _ ↦ ⟨by rw [hempty, hcontents]; rfl, inode, hinode, hcheck⟩
          created := fun _ h' ↦ by cases h'
          writing := fun text' h' ↦ by
            obtain rfl := SavePoint.write.inj h'
            rw [hcontents, List.nil_append]
          target := fun h' ↦ by cases h' }

/-- The removal of the temporary file, with which a save ends. -/
theorem Refines.discard (hpoint : isOpen c.point = true) (result : Except StoreError Unit) :
    ∃ fault, Refines crates directory id
      { c with
        volume := discardFile caller directory c.volume a (bytesOf (temporaryName crates id))
        point := .finished result }
      ⟨s.directory.discard fault (temporaryName crates id), .finished result⟩ := by
  obtain ⟨hentry, inode, hinode, hfile⟩ := h.opened hpoint
  rw [discardFile]
  cases hremove : removeFile caller c.volume directory a.fault
    (bytesOf (temporaryName crates id)) with
  | error e => exact ⟨some e, h.leave _ rfl⟩
  | ok volume =>
    obtain ⟨i, hi, rfl⟩ := removeFile_eq_ok hremove
    obtain rfl := Option.some.inj (hentry.symm.trans hi)
    have htidy := h.tidy.removed hentry hinode hfile
    refine ⟨none, ?_⟩
    exact
      { point := rfl
        tidy := htidy
        agrees := by
          refine h.agrees_update _ htidy (fun name hname ↦ ?_) fun name hname i hi hdir ↦
            ⟨Unix.Disk.removed_inodes_of_ne hdir ?_, rfl⟩
          · rw [Unix.Disk.entry_removed h.tidy, Function.update_of_ne hname]
          · rintro rfl
            exact hname (h.tidy.single _ _ _ inode hi hentry hinode hfile)
        present := by
          simp only [Unix.Disk.entry_removed h.tidy, Directory.discard, Function.update_self,
            Option.isSome_none]
        opened := fun h' ↦ by cases h'
        ready := fun h' ↦ by cases h'
        created := fun _ h' ↦ by cases h'
        writing := fun _ h' ↦ by cases h'
        target := fun h' ↦ by cases h' }

theorem Refines.abandon (hpoint : isOpen c.point = true) (e : IoError) :
    Refines crates directory id { c with point := .drop e } { s with point := .drop e } := by
  apply h.goto (.drop e) (fun _ ↦ hpoint)
  · exact fun h' ↦ by cases h'
  · exact fun _ h' ↦ by cases h'
  · exact fun _ h' ↦ by cases h'
  · exact fun h' ↦ by cases h'

theorem Refines.write {text : String} (hpoint : c.point = .write text) :
    ∃ b, Refines crates directory id (c.step crates caller directory id a)
      (s.step crates id b) := by
  obtain ⟨hentry, inode, hinode, hfile⟩ := h.opened (by rw [hpoint]; rfl)
  obtain ⟨hholds, inode', hinode', hcheck⟩ := h.ready (by rw [hpoint]; rfl)
  obtain rfl := Option.some.inj (hinode.symm.trans hinode')
  have hwriting := h.writing text hpoint
  simp only [DiskSave.step, Saving.step, hpoint, h.point]
  by_cases hrest : c.rest = []
  · -- everything is written
    rw [hrest, List.append_nil] at hwriting
    have hsame : s.directory.write (temporaryName crates id) (.text text) = s.directory := by
      rw [← contentsOf_bytesOf, ← hwriting, Directory.write, ← hholds, Function.update_eq_self]
    refine ⟨{}, ?_⟩
    simp only [hrest, if_true, hsame]
    rw [← hrest]
    apply h.goto .sync (fun _ ↦ by rw [hpoint]; rfl) (fun _ ↦ by rw [hpoint]; rfl)
    · exact fun _ h' ↦ by cases h'
    · exact fun _ h' ↦ by cases h'
    · exact fun h' ↦ by cases h'
  simp only [hrest, if_false]
  cases hfault : a.fault with
  | some fault => exact ⟨{ error := some fault.error }, h.abandon (by rw [hpoint]; rfl) _⟩
  | none =>
    by_cases hzero : a.written = 0
    · simp only [hzero, if_true]
      exact ⟨{ error := some writeZero }, h.abandon (by rw [hpoint]; rfl) _⟩
    simp only [hzero, if_false]
    set volume := c.volume.append c.file (c.rest.take a.written) with hvolume
    have hcontents : volume.contents c.file =
        c.volume.contents c.file ++ c.rest.take a.written := Function.update_self ..
    refine ⟨{ left := some (contentsOf (volume.contents c.file)) }, ?_⟩
    exact
      { point := rfl
        tidy := h.tidy
        agrees := by
          refine h.agrees_update _ h.tidy (fun _ _ ↦ rfl) fun name hname i hi _ ↦
            ⟨rfl, Function.update_of_ne ?_ ..⟩
          rintro rfl
          exact hname (h.tidy.single _ _ _ inode hi hentry hinode hfile)
        present := by
          simp only [Directory.write, Function.update_self]
          rw [show volume.disk = c.volume.disk from rfl, hentry]
          rfl
        opened := fun _ ↦ ⟨hentry, inode, hinode, hfile⟩
        ready := fun _ ↦ ⟨Function.update_self .., inode, hinode, hcheck⟩
        created := fun _ h' ↦ by cases h'
        writing := fun text' h' ↦ by
          obtain rfl := SavePoint.write.inj h'
          simp only [hcontents, List.append_assoc, List.take_append_drop, hwriting]
        target := fun h' ↦ by cases h' }

theorem Refines.sync (hpoint : c.point = .sync) :
    ∃ b, Refines crates directory id (c.step crates caller directory id a)
      (s.step crates id b) := by
  simp only [DiskSave.step, Saving.step, hpoint, h.point]
  cases a.fault with
  | some fault => exact ⟨{ error := some fault.error }, h.abandon (by rw [hpoint]; rfl) _⟩
  | none =>
    refine ⟨{}, h.goto .checkTarget ?_ ?_ ?_ ?_ ?_⟩
    · exact fun _ ↦ by rw [hpoint]; rfl
    · exact fun _ ↦ by rw [hpoint]; rfl
    · exact fun _ h' ↦ by cases h'
    · exact fun _ h' ↦ by cases h'
    · exact fun h' ↦ by cases h'

theorem Refines.checkTarget (hpoint : c.point = .checkTarget) :
    ∃ b, Refines crates directory id (c.step crates caller directory id a)
      (s.step crates id b) := by
  have hconfig := h.agrees configName (configName_ne_temporaryName crates id)
  obtain ⟨fault, hread⟩ := exists_read caller a.file hconfig
  have hrename (htarget : view directory.uid directory.file c.volume configName ≠ some .foreign) :
      Refines crates directory id { c with point := .rename } { s with point := .rename } := by
    refine h.goto .rename ?_ ?_ ?_ ?_ fun _ ↦ htarget
    · exact fun _ ↦ by rw [hpoint]; rfl
    · exact fun _ ↦ by rw [hpoint]; rfl
    · exact fun _ h' ↦ by cases h'
    · exact fun _ h' ↦ by cases h'
  refine ⟨{ target := fault }, ?_⟩
  simp only [DiskSave.step, Saving.step, hpoint, h.point, TunnelDeck.checkTarget, hread]
  cases hfile : readFile caller c.volume directory a.file (bytesOf configName) with
  | error e =>
    simp only [Except.map]
    by_cases hkind : e.kind = .notFound
    · simp only [hkind, if_true]
      refine hrename ?_
      rw [view, (readFile_notFound hfile hkind).1]
      exact fun h' ↦ by cases h'
    · simp only [hkind, if_false]
      exact h.abandon (by rw [hpoint]; rfl) e
  | ok i =>
    obtain ⟨hentry, inode, hinode, hcheck⟩ := readFile_eq_ok hfile
    refine hrename ?_
    rw [view, hentry, Option.map_some, entryOf_of_check hinode hcheck]
    exact fun h' ↦ by cases h'

theorem Refines.rename (hpoint : c.point = .rename) :
    ∃ b, Refines crates directory id (c.step crates caller directory id a)
      (s.step crates id b) := by
  obtain ⟨hentry, inode, hinode, hfile⟩ := h.opened (by rw [hpoint]; rfl)
  obtain ⟨hholds, inode', hinode', hcheck⟩ := h.ready (by rw [hpoint]; rfl)
  obtain rfl := Option.some.inj (hinode.symm.trans hinode')
  have hnames := (bytesOf_configName_ne crates id).symm
  simp only [DiskSave.step, Saving.step, hpoint, h.point]
  cases hrename : renameFile caller c.volume directory a.fault
    (bytesOf (temporaryName crates id)) (bytesOf configName) with
  | error e => exact ⟨{ error := some e }, h.abandon (by rw [hpoint]; rfl) e⟩
  | ok volume =>
    obtain ⟨i, hi, hmoved⟩ := renameFile_eq_ok hrename
    obtain rfl := Option.some.inj (hentry.symm.trans hi)
    rcases hmoved with ⟨hsame, -⟩ | ⟨hother, rfl⟩
    · exact absurd (h.tidy.single _ _ _ inode hentry hsame hinode hfile) hnames
    -- a document that is there is private, and has no other name
    have htarget (j : ℕ) (hj : c.volume.disk.entry directory.file (bytesOf configName) = some j) :
        ∃ other, c.volume.disk.inodes j = some other ∧ other.node = .file 1 := by
      have hview := h.target hpoint
      rw [view, hj, Option.map_some] at hview
      obtain ⟨other, hother, hprivate⟩ := exists_of_entryOf fun heq ↦ hview (congrArg some heq)
      exact ⟨other, hother, (check_file_eq_ok_iff.mp hprivate).1⟩
    have htidy := h.tidy.moved hnames hentry hinode hfile htarget
    have hdir : c.file ≠ directory.file := h.tidy.ne_of_file hinode (by rw [hfile]; rfl)
    refine ⟨{}, ?_⟩
    simp only [Directory.rename]
    exact
      { point := rfl
        tidy := htidy
        agrees := by
          intro name hname
          refine (Function.update_of_ne hname ..).trans ?_
          by_cases hconfig : name = configName
          · subst hconfig
            rw [Function.update_self, hholds, view, Unix.Disk.entry_moved h.tidy,
              Function.update_of_ne hnames.symm, Function.update_self, Option.map_some]
            symm
            exact congrArg some (entryOf_of_check
              ((Unix.Disk.moved_inodes_of_ne hdir hother).trans hinode) hcheck)
          · rw [Function.update_of_ne hconfig, h.agrees name hname]
            symm
            refine view_congr h.tidy htidy ?_ fun i hi hidir ↦
              ⟨Unix.Disk.moved_inodes_of_ne hidir fun htarget' ↦ ?_, rfl⟩
            · rw [Unix.Disk.entry_moved h.tidy,
                Function.update_of_ne fun heq ↦ hname (bytesOf_injective heq),
                Function.update_of_ne fun heq ↦ hconfig (bytesOf_injective heq)]
            · obtain ⟨other, hi', hlinks⟩ := htarget i htarget'
              exact hconfig (bytesOf_injective (h.tidy.single _ _ _ other hi htarget' hi' hlinks))
        present := by
          simp only [Unix.Disk.entry_moved h.tidy, Function.update_self, Option.isSome_none]
        opened := fun h' ↦ by cases h'
        ready := fun h' ↦ by cases h'
        created := fun _ h' ↦ by cases h'
        writing := fun _ h' ↦ by cases h'
        target := fun h' ↦ by cases h' }

/-- **A step on the disk is a step on the map**, for some answer. -/
theorem Refines.step : ∃ b, Refines crates directory id (c.step crates caller directory id a)
    (s.step crates id b) := by
  cases hpoint : c.point with
  | load text => exact h.load a hpoint
  | openTemporary text => exact h.openTemporary a hpoint
  | metadata text => exact h.metadata a hpoint
  | removeUnsafe =>
    obtain ⟨fault, hdiscard⟩ := h.discard a (by rw [hpoint]; rfl)
      (.error (.io Directory.unsafeEntry.message))
    refine ⟨{ error := fault }, ?_⟩
    simp only [DiskSave.step, Saving.step, hpoint, h.point]
    exact hdiscard
  | write text => exact h.write a hpoint
  | sync => exact h.sync a hpoint
  | checkTarget => exact h.checkTarget a hpoint
  | rename => exact h.rename a hpoint
  | syncDirectory =>
    simp only [DiskSave.step, Saving.step, hpoint, h.point]
    cases a.fault with
    | some fault => exact ⟨{ error := some fault.error }, h.leave _ rfl⟩
    | none => exact ⟨{}, h.leave _ rfl⟩
  | drop e =>
    obtain ⟨fault, hdiscard⟩ := h.discard a (by rw [hpoint]; rfl) (.error (.io e.message))
    refine ⟨{ error := fault }, ?_⟩
    simp only [DiskSave.step, Saving.step, hpoint, h.point]
    exact hdiscard
  | finished result =>
    refine ⟨{}, ?_⟩
    simp only [DiskSave.step, Saving.step, hpoint, h.point]
    exact h

end Steps

/-! ## What a save leaves alone -/

def isReplaced : SavePoint → Bool
  | .syncDirectory => true
  | .finished result => committed result
  | _ => false

/-- What was on the disk is there as it was, apart from the directory and a document that is
replaced. -/
structure Kept (crates : Crates) (directory : PrivateDirectory) (id : Uuid) (volume : Volume)
    (c : DiskSave) : Prop where
  fresh : volume.disk.fresh ≤ c.volume.disk.fresh
  /-- The temporary file is new. -/
  opened : isOpen c.point = true → volume.disk.fresh ≤ c.file ∧
    volume.disk.entry directory.file (bytesOf (temporaryName crates id)) = none
  contents : ∀ i < volume.disk.fresh, c.volume.contents i = volume.contents i
  inodes : ∀ i < volume.disk.fresh, i ≠ directory.file →
    (isReplaced c.point = true →
      volume.disk.entry directory.file (bytesOf configName) ≠ some i) →
    c.volume.disk.inodes i = volume.disk.inodes i
  entries : ∀ name ≠ bytesOf configName, name ≠ bytesOf (temporaryName crates id) →
    c.volume.disk.entry directory.file name = volume.disk.entry directory.file name
  temporary : ∀ i,
    volume.disk.entry directory.file (bytesOf (temporaryName crates id)) = some i →
      c.volume.disk.entry directory.file (bytesOf (temporaryName crates id)) = some i
  document : isReplaced c.point = false →
    c.volume.disk.entry directory.file (bytesOf configName) =
      volume.disk.entry directory.file (bytesOf configName)
  replaced : isReplaced c.point = true → ∃ i, volume.disk.fresh ≤ i ∧
    c.volume.disk.entry directory.file (bytesOf configName) = some i

section Kept

variable {volume : Volume}

theorem Kept.goto (h : Kept crates directory id volume c) (point : SavePoint) (rest : List UInt8)
    (hopen : isOpen point = true → isOpen c.point = true)
    (hreplaced : isReplaced point = isReplaced c.point) :
    Kept crates directory id volume { c with point, rest } :=
  { h with
    opened := fun hpoint ↦ h.opened (hopen hpoint)
    inodes := fun i hi hdir hconfig ↦ h.inodes i hi hdir (hreplaced ▸ hconfig)
    document := fun hpoint ↦ h.document (hreplaced ▸ hpoint)
    replaced := fun hpoint ↦ h.replaced (hreplaced ▸ hpoint) }

theorem Kept.discard (h : Kept crates directory id volume c) (hr : Refines crates directory id c s)
    (hpoint : isOpen c.point = true) (hold : isReplaced c.point = false) (a : DiskAnswer)
    {result : Except StoreError Unit} (hresult : committed result = false) :
    Kept crates directory id volume
      { c with
        volume := discardFile caller directory c.volume a (bytesOf (temporaryName crates id))
        point := .finished result } := by
  have hnames := bytesOf_configName_ne crates id
  obtain ⟨hentry, inode, hinode, hfile⟩ := hr.opened hpoint
  obtain ⟨hnew, hnone⟩ := h.opened hpoint
  have hnot : isReplaced c.point ≠ true := by
    rw [hold]
    exact Bool.false_ne_true
  have hnot' : committed result ≠ true := by
    rw [hresult]
    exact Bool.false_ne_true
  rw [discardFile]
  cases hremove : removeFile caller c.volume directory a.fault
    (bytesOf (temporaryName crates id)) with
  | error e =>
    exact h.goto (.finished result) c.rest (fun h' ↦ by cases h') (hresult.trans hold.symm)
  | ok removed =>
    obtain ⟨i, hi, rfl⟩ := removeFile_eq_ok hremove
    obtain rfl := Option.some.inj (hentry.symm.trans hi)
    exact
      { fresh := h.fresh
        opened := fun h' ↦ by cases h'
        contents := h.contents
        inodes := fun i hi hdir _ ↦ (Unix.Disk.removed_inodes_of_ne hdir (by omega)).trans
          (h.inodes i hi hdir fun h' ↦ absurd h' hnot)
        entries := by
          intro name hconfig htemporary
          rw [Unix.Disk.entry_removed hr.tidy, Function.update_of_ne htemporary]
          exact h.entries name hconfig htemporary
        temporary := by
          intro i hi
          rw [hnone] at hi
          cases hi
        document := by
          intro _
          rw [Unix.Disk.entry_removed hr.tidy, Function.update_of_ne hnames]
          exact h.document hold
        replaced := fun h' ↦ absurd h' hnot' }

theorem Kept.load (h : Kept crates directory id volume c) (hr : Refines crates directory id c s)
    {text : String} (hpoint : c.point = .load text) (a : DiskAnswer) :
    Kept crates directory id volume (c.step crates caller directory id a) := by
  simp only [DiskSave.step, hpoint]
  cases hload : loadDocument crates caller directory c.volume a with
  | error e =>
    obtain ⟨faults, hsame⟩ := exists_loadConfig crates caller a
      (hr.agrees configName (configName_ne_temporaryName crates id))
    refine h.goto _ c.rest (fun h' ↦ by cases h') ?_
    rw [hpoint]
    exact refuses_loadConfig faults s.directory e (hsame.trans hload)
  | ok config => exact h.goto _ c.rest (fun h' ↦ by cases h') (by rw [hpoint]; rfl)

theorem Kept.openTemporary (h : Kept crates directory id volume c)
    (hr : Refines crates directory id c s) {text : String} (hpoint : c.point = .openTemporary text)
    (a : DiskAnswer) : Kept crates directory id volume (c.step crates caller directory id a) := by
  have hnames := bytesOf_configName_ne crates id
  have hold : isReplaced c.point = false := by rw [hpoint]; rfl
  simp only [DiskSave.step, hpoint]
  cases hcreate : createFile caller c.volume directory a.file
    (bytesOf (temporaryName crates id)) with
  | error e => exact h.goto _ c.rest (fun h' ↦ by cases h') hold.symm
  | ok created =>
    obtain ⟨hentry, group, mode, rfl⟩ := createFile_eq_ok hcreate
    have hnone : volume.disk.entry directory.file (bytesOf (temporaryName crates id)) = none := by
      cases hold : volume.disk.entry directory.file (bytesOf (temporaryName crates id)) with
      | none => rfl
      | some i =>
        rw [h.temporary i hold] at hentry
        cases hentry
    have hne {i : ℕ} (hi : i < volume.disk.fresh) : i ≠ c.volume.disk.fresh :=
      Nat.ne_of_lt (Nat.lt_of_lt_of_le hi h.fresh)
    exact
      { fresh := Nat.le_succ_of_le h.fresh
        opened := fun _ ↦ ⟨h.fresh, hnone⟩
        contents := fun i hi ↦ (Function.update_of_ne (hne hi) ..).trans (h.contents i hi)
        inodes := by
          intro i hi hdir _
          refine (Unix.Disk.addFile_inodes_of_ne (hne hi) hdir).trans (h.inodes i hi hdir ?_)
          intro h'
          rw [hold] at h'
          cases h'
        entries := by
          intro name hconfig htemporary
          rw [Unix.Disk.entry_addFile hr.tidy, Function.update_of_ne htemporary]
          exact h.entries name hconfig htemporary
        temporary := by
          intro i hi
          rw [hnone] at hi
          cases hi
        document := by
          intro _
          rw [Unix.Disk.entry_addFile hr.tidy, Function.update_of_ne hnames]
          exact h.document hold
        replaced := fun h' ↦ by cases h' }

theorem Kept.write (h : Kept crates directory id volume c) {text : String}
    (hpoint : c.point = .write text) (a : DiskAnswer) :
    Kept crates directory id volume (c.step crates caller directory id a) := by
  have hopen : isOpen c.point = true := by rw [hpoint]; rfl
  have hold : isReplaced c.point = false := by rw [hpoint]; rfl
  simp only [DiskSave.step, hpoint]
  by_cases hrest : c.rest = []
  · rw [if_pos hrest]
    exact h.goto .sync c.rest (fun _ ↦ hopen) hold.symm
  rw [if_neg hrest]
  cases a.fault with
  | some fault => exact h.goto (.drop _) c.rest (fun _ ↦ hopen) hold.symm
  | none =>
    simp only
    split_ifs
    · exact h.goto (.drop _) c.rest (fun _ ↦ hopen) hold.symm
    · exact
        { h with
          opened := fun _ ↦ h.opened hopen
          contents := fun i hi ↦ (Function.update_of_ne (by have := (h.opened hopen).1; omega)
            ..).trans (h.contents i hi)
          inodes := fun i hi hdir hconfig ↦ h.inodes i hi hdir (by rwa [hpoint])
          document := fun _ ↦ h.document hold
          replaced := fun h' ↦ by cases h' }

theorem Kept.rename (h : Kept crates directory id volume c)
    (hr : Refines crates directory id c s) (hpoint : c.point = .rename) (a : DiskAnswer) :
    Kept crates directory id volume (c.step crates caller directory id a) := by
  have hopen : isOpen c.point = true := by rw [hpoint]; rfl
  have hold : isReplaced c.point = false := by rw [hpoint]; rfl
  have hnames := bytesOf_configName_ne crates id
  obtain ⟨hentry, inode, hinode, hfile⟩ := hr.opened hopen
  obtain ⟨hnew, hnone⟩ := h.opened hopen
  simp only [DiskSave.step, hpoint]
  cases hrename : renameFile caller c.volume directory a.fault
    (bytesOf (temporaryName crates id)) (bytesOf configName) with
  | error e => exact h.goto (.drop e) c.rest (fun _ ↦ hopen) hold.symm
  | ok renamed =>
    obtain ⟨i, hi, ⟨hsame, -⟩ | ⟨-, rfl⟩⟩ := renameFile_eq_ok hrename
    · obtain rfl := Option.some.inj (hentry.symm.trans hi)
      exact absurd (hr.tidy.single _ _ _ inode hentry hsame hinode hfile) hnames.symm
    · obtain rfl := Option.some.inj (hentry.symm.trans hi)
      exact
        { fresh := by
            refine Nat.le_trans h.fresh (Nat.le_of_eq ?_)
            cases c.volume.disk.entry directory.file (bytesOf configName) <;> rfl
          opened := fun h' ↦ by cases h'
          contents := h.contents
          inodes := by
            intro i hi hdir hconfig
            rw [Unix.Disk.moved_inodes_of_ne hdir (h.document hold ▸ hconfig rfl)]
            refine h.inodes i hi hdir fun h' ↦ ?_
            rw [hold] at h'
            cases h'
          entries := by
            intro name hconfig htemporary
            rw [Unix.Disk.entry_moved hr.tidy, Function.update_of_ne htemporary,
              Function.update_of_ne hconfig]
            exact h.entries name hconfig htemporary
          temporary := by
            intro i hi
            rw [hnone] at hi
            cases hi
          document := fun h' ↦ by cases h'
          replaced := by
            intro _
            rw [Unix.Disk.entry_moved hr.tidy, Function.update_of_ne hnames, Function.update_self]
            exact ⟨_, hnew, rfl⟩ }

theorem Kept.step (h : Kept crates directory id volume c) (hr : Refines crates directory id c s)
    (a : DiskAnswer) : Kept crates directory id volume (c.step crates caller directory id a) := by
  cases hpoint : c.point with
  | load text => exact h.load hr hpoint a
  | openTemporary text => exact h.openTemporary hr hpoint a
  | metadata text =>
    have hopen : isOpen c.point = true := by rw [hpoint]; rfl
    have hold : isReplaced c.point = false := by rw [hpoint]; rfl
    simp only [DiskSave.step, hpoint]
    cases withFault a.fault (metadataOf c.volume c.file) with
    | error e => exact h.goto _ c.rest (fun h' ↦ by cases h') hold.symm
    | ok metadata =>
      simp only
      cases check metadata directory.uid false with
      | error e => exact h.goto .removeUnsafe c.rest (fun _ ↦ hopen) hold.symm
      | ok u => exact h.goto (.write text) (bytesOf text) (fun _ ↦ hopen) hold.symm
  | removeUnsafe =>
    simp only [DiskSave.step, hpoint]
    exact h.discard hr (by rw [hpoint]; rfl) (by rw [hpoint]; rfl) a rfl
  | write text => exact h.write hpoint a
  | sync =>
    have hopen : isOpen c.point = true := by rw [hpoint]; rfl
    have hold : isReplaced c.point = false := by rw [hpoint]; rfl
    simp only [DiskSave.step, hpoint]
    cases a.fault with
    | some fault => exact h.goto (.drop _) c.rest (fun _ ↦ hopen) hold.symm
    | none => exact h.goto .checkTarget c.rest (fun _ ↦ hopen) hold.symm
  | checkTarget =>
    have hopen : isOpen c.point = true := by rw [hpoint]; rfl
    have hold : isReplaced c.point = false := by rw [hpoint]; rfl
    simp only [DiskSave.step, hpoint]
    cases readFile caller c.volume directory a.file (bytesOf configName) with
    | ok i => exact h.goto .rename c.rest (fun _ ↦ hopen) hold.symm
    | error e =>
      simp only
      split_ifs
      · exact h.goto .rename c.rest (fun _ ↦ hopen) hold.symm
      · exact h.goto (.drop e) c.rest (fun _ ↦ hopen) hold.symm
  | rename => exact h.rename hr hpoint a
  | syncDirectory =>
    have hreplaced : isReplaced c.point = true := by rw [hpoint]; rfl
    simp only [DiskSave.step, hpoint]
    cases a.fault with
    | some fault => exact h.goto (.finished _) c.rest (fun h' ↦ by cases h') hreplaced.symm
    | none => exact h.goto (.finished _) c.rest (fun h' ↦ by cases h') hreplaced.symm
  | drop e =>
    simp only [DiskSave.step, hpoint]
    exact h.discard hr (by rw [hpoint]; rfl) (by rw [hpoint]; rfl) a rfl
  | finished result =>
    simp only [DiskSave.step, hpoint]
    exact h

end Kept

/-! ## What is left of the temporary file -/

/-- The calls that look at the new file and that remove it do not fail by themselves. -/
def CleansUp (c : DiskSave) (a : DiskAnswer) : Prop :=
  c.point.unlinks = true ∨ c.point.looks = true → a.fault = none

instance (c : DiskSave) (a : DiskAnswer) : Decidable (CleansUp c a) :=
  inferInstanceAs (Decidable (_ → _))

/-- The temporary file can be removed while it is open, and is gone when it is not. -/
structure Swept (crates : Crates) (directory : PrivateDirectory) (id : Uuid) (volume : Volume)
    (c : DiskSave) : Prop where
  removable : isOpen c.point = true →
    component (bytesOf (temporaryName crates id)) = .ok (bytesOf (temporaryName crates id)) ∧
      ∃ up, c.volume.disk.inodes directory.file = some up ∧ check up directory.uid true = .ok ()
  swept : isOpen c.point = false →
    c.volume.disk.entry directory.file (bytesOf (temporaryName crates id)) =
      volume.disk.entry directory.file (bytesOf (temporaryName crates id))

section Swept

variable {volume : Volume}

theorem Swept.goto (h : Swept crates directory id volume c) (point : SavePoint)
    (rest : List UInt8) (hopen : isOpen point = isOpen c.point) :
    Swept crates directory id volume { c with point, rest } where
  removable hpoint := h.removable (hopen ▸ hpoint)
  swept hpoint := h.swept (hopen ▸ hpoint)

theorem Swept.discard (h : Swept crates directory id volume c)
    (hk : Kept crates directory id volume c) (hr : Refines crates directory id c s)
    (hcaller : caller.uid = directory.uid) (hpoint : isOpen c.point = true) {a : DiskAnswer}
    (hfault : a.fault = none) (result : Except StoreError Unit) :
    Swept crates directory id volume
      { c with
        volume := discardFile caller directory c.volume a (bytesOf (temporaryName crates id))
        point := .finished result } where
  removable h' := by cases h'
  swept _ := by
    obtain ⟨hentry, inode, hinode, hfile⟩ := hr.opened hpoint
    obtain ⟨hname, up, hup, hprivate⟩ := h.removable hpoint
    simp only [discardFile, hfault,
      removeFile_of_private hcaller hname hup hprivate hentry hinode (by rw [hfile]; rfl)]
    rw [Unix.Disk.entry_removed hr.tidy, Function.update_self, (hk.opened hpoint).2]

theorem Swept.openTemporary (h : Swept crates directory id volume c) {text : String}
    (hpoint : c.point = .openTemporary text) (a : DiskAnswer) :
    Swept crates directory id volume (c.step crates caller directory id a) := by
  simp only [DiskSave.step, hpoint]
  cases hcreate : createFile caller c.volume directory a.file
    (bytesOf (temporaryName crates id)) with
  | error e => exact h.goto _ c.rest (by rw [hpoint]; rfl)
  | ok created =>
    obtain ⟨hname, up, hup, hprivate⟩ := private_of_createFile hcreate
    obtain ⟨-, group, mode, rfl⟩ := createFile_eq_ok hcreate
    refine ⟨fun _ ↦ ⟨hname, _, Unix.Disk.addFile_inodes_dir hup, ?_⟩, fun h' ↦ by cases h'⟩
    rw [check_directory_eq_ok_iff] at hprivate ⊢
    rwa [Unix.Node.isDirectory_setEntry]

theorem Swept.rename (h : Swept crates directory id volume c)
    (hk : Kept crates directory id volume c) (hr : Refines crates directory id c s)
    (hpoint : c.point = .rename) (a : DiskAnswer) :
    Swept crates directory id volume (c.step crates caller directory id a) := by
  have hopen : isOpen c.point = true := by rw [hpoint]; rfl
  obtain ⟨hentry, inode, hinode, hfile⟩ := hr.opened hopen
  simp only [DiskSave.step, hpoint]
  cases hrename : renameFile caller c.volume directory a.fault
    (bytesOf (temporaryName crates id)) (bytesOf configName) with
  | error e => exact h.goto (.drop e) c.rest hopen.symm
  | ok renamed =>
    refine ⟨fun h' ↦ (by cases h'), fun _ ↦ ?_⟩
    obtain ⟨i, hi, ⟨hsame, -⟩ | ⟨-, rfl⟩⟩ := renameFile_eq_ok hrename
    · obtain rfl := Option.some.inj (hentry.symm.trans hi)
      exact absurd (hr.tidy.single _ _ _ inode hentry hsame hinode hfile)
        (bytesOf_configName_ne crates id).symm
    · rw [Unix.Disk.entry_moved hr.tidy, Function.update_self, (hk.opened hopen).2]

theorem Swept.step (h : Swept crates directory id volume c)
    (hk : Kept crates directory id volume c) (hr : Refines crates directory id c s)
    (hcaller : caller.uid = directory.uid) {a : DiskAnswer} (ha : CleansUp c a) :
    Swept crates directory id volume (c.step crates caller directory id a) := by
  cases hpoint : c.point with
  | load text =>
    simp only [DiskSave.step, hpoint]
    cases loadDocument crates caller directory c.volume a with
    | error e => exact h.goto _ c.rest (by rw [hpoint]; rfl)
    | ok config => exact h.goto _ c.rest (by rw [hpoint]; rfl)
  | openTemporary text => exact h.openTemporary hpoint a
  | metadata text =>
    have hopen : isOpen c.point = true := by rw [hpoint]; rfl
    obtain ⟨-, inode, hinode, -⟩ := hr.opened hopen
    have hfault : a.fault = none := ha (.inr (by rw [hpoint]; rfl))
    have hmetadata : metadataOf c.volume c.file = .ok inode :=
      Unix.Disk.mapError_eq_ok_iff.mpr (Unix.Disk.stat_eq_ok_iff.mpr hinode)
    simp only [DiskSave.step, hpoint, hfault, withFault, hmetadata]
    cases check inode directory.uid false with
    | error e => exact h.goto .removeUnsafe c.rest hopen.symm
    | ok u => exact h.goto (.write text) (bytesOf text) hopen.symm
  | removeUnsafe =>
    simp only [DiskSave.step, hpoint]
    exact h.discard hk hr hcaller (by rw [hpoint]; rfl) (ha (.inl (by rw [hpoint]; rfl))) _
  | write text =>
    have hopen : isOpen c.point = true := by rw [hpoint]; rfl
    simp only [DiskSave.step, hpoint]
    by_cases hrest : c.rest = []
    · rw [if_pos hrest]
      exact h.goto .sync c.rest hopen.symm
    rw [if_neg hrest]
    cases a.fault with
    | some fault => exact h.goto (.drop _) c.rest hopen.symm
    | none =>
      simp only
      split_ifs
      · exact h.goto (.drop _) c.rest hopen.symm
      · exact ⟨fun _ ↦ h.removable hopen, fun h' ↦ by cases h'⟩
  | sync =>
    have hopen : isOpen c.point = true := by rw [hpoint]; rfl
    simp only [DiskSave.step, hpoint]
    cases a.fault with
    | some fault => exact h.goto (.drop _) c.rest hopen.symm
    | none => exact h.goto .checkTarget c.rest hopen.symm
  | checkTarget =>
    have hopen : isOpen c.point = true := by rw [hpoint]; rfl
    simp only [DiskSave.step, hpoint]
    cases readFile caller c.volume directory a.file (bytesOf configName) with
    | ok i => exact h.goto .rename c.rest hopen.symm
    | error e =>
      simp only
      split_ifs
      · exact h.goto .rename c.rest hopen.symm
      · exact h.goto (.drop e) c.rest hopen.symm
  | rename => exact h.rename hk hr hpoint a
  | syncDirectory =>
    have hopen : isOpen c.point = false := by rw [hpoint]; rfl
    simp only [DiskSave.step, hpoint]
    cases a.fault with
    | some fault => exact h.goto (.finished _) c.rest hopen.symm
    | none => exact h.goto (.finished _) c.rest hopen.symm
  | drop e =>
    simp only [DiskSave.step, hpoint]
    exact h.discard hk hr hcaller (by rw [hpoint]; rfl) (ha (.inl (by rw [hpoint]; rfl))) _
  | finished result =>
    simp only [DiskSave.step, hpoint]
    exact h

end Swept

/-! ## The save -/

theorem entry_of_phase {name text : String} {files : Directory}
    (h : SavePhase name files text s) (hpoint : isReplaced s.point = true) :
    s.directory configName = some (.file (.text text)) := by
  cases h with
  | before hbefore => rcases hbefore with rfl | rfl <;> cases hpoint
  | temporary hnew htemporary => rcases htemporary with rfl | rfl | rfl | ⟨e, rfl⟩ <;> cases hpoint
  | complete hnew hcomplete => rcases hcomplete with rfl | rfl | rfl <;> cases hpoint
  | replaced => exact files.write_self configName (.text text)
  | kept herror => exact absurd (herror.symm.trans hpoint) Bool.false_ne_true
  | left hnew herror => exact absurd (herror.symm.trans hpoint) Bool.false_ne_true
  | saved hresult => exact files.write_self configName (.text text)

section Save

variable {volume : Volume} (rules : List Rule) (settings : Settings)

theorem refines_start (crates : Crates) (id : Uuid) (htidy : volume.disk.Tidy directory.file) :
    Refines crates directory id (.start crates volume rules settings)
      (.start crates (view directory.uid directory.file volume) rules settings) := by
  have hopen : isOpen (DiskSave.start crates volume rules settings).point ≠ true := by
    unfold DiskSave.start
    split <;> exact Bool.false_ne_true
  exact
    { point := rfl
      tidy := htidy
      agrees := fun _ _ ↦ rfl
      present := by
        simp only [Saving.start, view, Option.isSome_map]
        rfl
      opened := fun h ↦ absurd h hopen
      ready := fun h ↦ absurd (isOpen_of_isReady h) hopen
      created := fun _ h ↦ absurd (by rw [h]; rfl) hopen
      writing := fun _ h ↦ absurd (by rw [h]; rfl) hopen
      target := fun h ↦ absurd (by rw [h]; rfl) hopen }

theorem swept_start (crates : Crates) (directory : PrivateDirectory) (id : Uuid)
    (volume : Volume) :
    Swept crates directory id volume (.start crates volume rules settings) := by
  refine ⟨fun h ↦ ?_, fun _ ↦ rfl⟩
  unfold DiskSave.start at h
  split at h <;> cases h

theorem kept_start (crates : Crates) (directory : PrivateDirectory) (id : Uuid)
    (volume : Volume) :
    Kept crates directory id volume (.start crates volume rules settings) := by
  have hopen : isOpen (DiskSave.start crates volume rules settings).point ≠ true := by
    unfold DiskSave.start
    split <;> exact Bool.false_ne_true
  have hreplaced : isReplaced (DiskSave.start crates volume rules settings).point ≠ true := by
    rcases start_phase crates (fun _ ↦ none) rules settings with
      ⟨e, hencode, herror, -⟩ | ⟨text, hencode, -⟩
    · simp [DiskSave.start, hencode, isReplaced, herror]
    · simp [DiskSave.start, hencode, isReplaced]
  exact
    { fresh := Nat.le_refl _
      opened := fun h ↦ absurd h hopen
      contents := fun _ _ ↦ rfl
      inodes := fun _ _ _ _ ↦ rfl
      entries := fun _ _ _ ↦ rfl
      temporary := fun _ h ↦ h
      document := fun _ ↦ rfl
      replaced := fun h ↦ absurd h hreplaced }

theorem DiskSave.run_finished (volume : Volume) (result : Except StoreError Unit) (file : ℕ)
    (rest : List UInt8) (answers : List DiskAnswer) :
    run (DiskSave.step crates caller directory id) ⟨volume, .finished result, file, rest⟩ answers =
      ⟨volume, .finished result, file, rest⟩ := by
  induction answers with
  | nil => rfl
  | cons a answers ih => exact ih

/-- A document that does not decode stops a save before it touches the disk. -/
theorem volume_of_stored {e : StoreError}
    (h : stored crates (view directory.uid directory.file volume) = .error e)
    (answers : List DiskAnswer) :
    (run (DiskSave.step crates caller directory id) (.start crates volume rules settings)
      answers).volume = volume := by
  unfold DiskSave.start
  cases encodeConfig crates rules settings with
  | error e' =>
    simp only
    rw [DiskSave.run_finished]
  | ok text =>
    simp only
    cases answers with
    | nil => rfl
    | cons a answers =>
      obtain ⟨faults, hload⟩ := exists_loadConfig crates caller a
        (rfl : view directory.uid directory.file volume configName = _)
      obtain ⟨e', herror⟩ := loadConfig_of_stored h faults
      rw [run_cons]
      simp only [DiskSave.step, hload.symm.trans herror]
      rw [DiskSave.run_finished]

/-- **What a save leaves on the disk.** After any number of its system calls, however they are
answered: until the document is replaced its name leads where it led, and from then on to a new
private file that holds exactly the new document. Every other name that was in the directory leads
where it led. No file that existed has other contents, whoever else may have it open, and its inode
is as it was, unless it is the directory or a document that is replaced. A document that does not
decode keeps the disk as it is. And a save that comes to its end has left no other name behind, if
the calls that look at its temporary file and remove it do not fail by themselves. -/
theorem save_on_disk (crates : Crates) (caller : Unix.Caller) (directory : PrivateDirectory)
    (id : Uuid) (htidy : volume.disk.Tidy directory.file) (answers : List DiskAnswer) {c : DiskSave}
    (hc : run (DiskSave.step crates caller directory id) (.start crates volume rules settings)
      answers = c) :
    (isReplaced c.point = false →
        c.volume.disk.entry directory.file (bytesOf configName) =
          volume.disk.entry directory.file (bytesOf configName)) ∧
      (isReplaced c.point = true → ∃ text i inode,
        encodeConfig crates rules settings = .ok text ∧
          c.volume.disk.entry directory.file (bytesOf configName) = some i ∧
          volume.disk.fresh ≤ i ∧ c.volume.disk.inodes i = some inode ∧
          check inode directory.uid false = .ok () ∧ c.volume.contents i = bytesOf text) ∧
      (∀ name ≠ bytesOf configName, ∀ i, volume.disk.entry directory.file name = some i →
        c.volume.disk.entry directory.file name = some i) ∧
      (∀ i inode, volume.disk.inodes i = some inode →
        c.volume.contents i = volume.contents i ∧
          (i ≠ directory.file → (isReplaced c.point = true →
              volume.disk.entry directory.file (bytesOf configName) ≠ some i) →
            c.volume.disk.inodes i = some inode)) ∧
      (∀ e, stored crates (view directory.uid directory.file volume) = .error e →
        c.volume = volume) ∧
      (caller.uid = directory.uid →
        Along (DiskSave.step crates caller directory id) CleansUp
          (.start crates volume rules settings) answers →
        ∀ result, c.point = .finished result → ∀ name ≠ bytesOf configName,
          c.volume.disk.entry directory.file name = volume.disk.entry directory.file name) := by
  have hstart := refines_start rules settings crates id htidy
  have hkept := kept_start rules settings crates directory id volume
  have hboth := invariant_run (DiskSave.step crates caller directory id)
    (I := fun c ↦ (∃ s, Refines crates directory id c s) ∧ Kept crates directory id volume c)
    (fun c a h ↦ by
      obtain ⟨⟨s, hr⟩, hk⟩ := h
      obtain ⟨b, hb⟩ := hr.step a
      exact ⟨⟨_, hb⟩, hk.step hr a⟩) ⟨⟨_, hstart⟩, hkept⟩ answers
  rw [hc] at hboth
  obtain ⟨-, hk⟩ := hboth
  refine ⟨hk.document, ?_, ?_, ?_, ?_, ?_⟩
  · intro hreplaced
    -- what the document holds is read off the save into the map
    obtain ⟨bs, hr⟩ := simulation_run (DiskSave.step crates caller directory id)
      (Saving.step crates id) (R := Refines crates directory id)
      (fun _ _ a h ↦ h.step a) hstart answers
    rw [hc] at hr
    obtain ⟨i, hnew, hentry⟩ := hk.replaced hreplaced
    obtain ⟨text, hencode, hdocument⟩ : ∃ text, encodeConfig crates rules settings = .ok text ∧
        view directory.uid directory.file c.volume configName = some (.file (.text text)) := by
      rw [← hr.agrees configName (configName_ne_temporaryName crates id)]
      rw [← hr.point] at hreplaced
      rcases start_phase crates (view directory.uid directory.file volume) rules settings with
        ⟨e, -, herror, hfinished⟩ | ⟨text, hencode, hload⟩
      · rw [hfinished, TunnelDeck.run_finished] at hreplaced
        exact absurd (herror.symm.trans hreplaced) Bool.false_ne_true
      · have hphase := invariant_run (Saving.step crates id)
          (I := SavePhase (temporaryName crates id) (view directory.uid directory.file volume) text)
          (fun _ a h ↦ h.step a) (.before (.inl rfl)) bs
        rw [hload] at hreplaced ⊢
        exact ⟨text, hencode, entry_of_phase hphase hreplaced⟩
    rw [view, hentry, Option.map_some, Option.some.injEq] at hdocument
    obtain ⟨inode, hinode, hcheck⟩ := exists_of_entryOf fun hforeign ↦ by
      rw [hdocument] at hforeign
      cases hforeign
    rw [entryOf_of_check hinode hcheck] at hdocument
    exact ⟨text, i, inode, hencode, hentry, hnew, hinode, hcheck,
      eq_of_contentsOf (Entry.file.inj hdocument)⟩
  · intro name hconfig i hi
    by_cases htemporary : name = bytesOf (temporaryName crates id)
    · subst htemporary
      exact hk.temporary i hi
    · rw [hk.entries name hconfig htemporary, hi]
  · intro i inode hi
    have hlt : i < volume.disk.fresh := by
      by_contra hge
      rw [volume.disk.unused i (not_lt.mp hge)] at hi
      cases hi
    exact ⟨hk.contents i hlt, fun hdir hconfig ↦ (hk.inodes i hlt hdir hconfig).trans hi⟩
  · intro e he
    rw [← hc]
    exact volume_of_stored rules settings he answers
  · intro hcaller hclean result hresult name hconfig
    have hswept := invariant_along (DiskSave.step crates caller directory id) (C := CleansUp)
      (I := fun c ↦ (∃ s, Refines crates directory id c s) ∧
        Kept crates directory id volume c ∧ Swept crates directory id volume c)
      (fun c a h ha ↦ by
        obtain ⟨⟨s, hr⟩, hk, hs⟩ := h
        obtain ⟨b, hb⟩ := hr.step a
        exact ⟨⟨_, hb⟩, hk.step hr a, hs.step hk hr hcaller ha⟩)
      ⟨⟨_, hstart⟩, hkept, swept_start rules settings crates directory id volume⟩ hclean
    rw [hc] at hswept
    by_cases htemporary : name = bytesOf (temporaryName crates id)
    · subst htemporary
      exact hswept.2.2.swept (by rw [hresult]; rfl)
    · exact hk.entries name hconfig htemporary

end Save

/-! ### Example -/

/-- The private directory of the user 1000, with the document without rules in it. -/
def exampleVolume : Volume where
  disk :=
    { inodes := fun i ↦ ([⟨.directory 0 fun name ↦
          if name = bytesOf configName then some 1 else none, 1000, 1000, 0o700#12⟩,
        ⟨.file 1, 1000, 1000, 0o600#12⟩] : List (Unix.Inode Name))[i]?
      root := 0
      fresh := 2
      unused := fun _ h ↦ List.getElem?_eq_none h }
  contents i := if i = 1 then bytesOf exampleEmptyText else []

def exampleOpened : PrivateDirectory := ⟨0, 1000⟩

/-- The text is written in two parts. -/
def exampleWrites : List DiskAnswer :=
  [{}, {}, {}, { written := 30 }, { written := 200 }, {}, {}, {}, {}, {}]

theorem exampleVolume_tidy : exampleVolume.disk.Tidy exampleOpened.file := by
  have hentry (name : Name) : exampleVolume.disk.entry exampleOpened.file name =
      if name = bytesOf configName then some 1 else none := rfl
  refine ⟨⟨_, rfl, rfl⟩, fun name i hi ↦ ?_, fun name name' i inode hi hi' _ _ ↦ ?_⟩
  · rw [hentry] at hi
    split_ifs at hi
    obtain rfl := Option.some.inj hi
    exact ⟨_, rfl⟩
  · rw [hentry] at hi hi'
    split_ifs at hi hi' with hname hname'
    exact hname.trans hname'.symm

set_option maxRecDepth 20000 in
/-- The new document is in place, and nothing else is in the directory. -/
theorem save_on_disk_exampleVolume : ∃ c text i inode,
    run (DiskSave.step exampleEmpty exampleCaller exampleOpened 7)
        (.start exampleEmpty exampleVolume [] .default) exampleWrites = c ∧
      encodeConfig exampleEmpty [] .default = .ok text ∧
      c.volume.disk.entry 0 (bytesOf configName) = some i ∧ 2 ≤ i ∧
      c.volume.disk.inodes i = some inode ∧ check inode 1000 false = .ok () ∧
      c.volume.contents i = bytesOf text ∧
      ∀ name ≠ bytesOf configName, c.volume.disk.entry 0 name = none := by
  have h := save_on_disk [] .default exampleEmpty exampleCaller exampleOpened 7
    exampleVolume_tidy exampleWrites rfl
  obtain ⟨text, i, inode, hencode, hentry, hnew, hinode, hcheck, hcontents⟩ :=
    h.2.1 (by decide +kernel)
  exact ⟨_, text, i, inode, rfl, hencode, hentry, hnew, hinode, hcheck, hcontents, fun name hname ↦
    (h.2.2.2.2.2 rfl (by decide +kernel) (.ok ()) (by rfl) name hname).trans (if_neg hname)⟩

end TunnelDeck.PrivateFs
