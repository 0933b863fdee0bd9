import TunnelDeck.Platform.PrivateFs
import TunnelDeck.Unix.Files

/-!
# Files of the private directory

`PrivateDirectory` reads, makes, renames and removes files by the descriptor of the open directory.
The configuration store takes such a directory for a map from names to private files; here it is an
inode of a disk, and a file is another one, with its owner, mode and link count.

## Main results

* `exists_read`: reading is what the map says, save for faults.
* `view_congr`: a name goes on to stand for what it stood for while its inode is as it was.
* `createFile_eq_ok`, `removeFile_eq_ok`, `renameFile_eq_ok`: what each call does to the disk.
-/

namespace TunnelDeck.PrivateFs

open Text.UnixPath (slash dot)

/-! ## Names and contents -/

/-- `str::as_bytes`. -/
def bytesOf (text : String) : List UInt8 := text.toUTF8.data.toList

/-- What `File::read_to_string` finds in the bytes. -/
def contentsOf (bytes : List UInt8) : Contents :=
  match String.fromUTF8? ⟨bytes.toArray⟩ with
  | some text => .text text
  | none => .bytes bytes

theorem bytesOf_injective : Function.Injective bytesOf := by
  intro s t h
  rw [bytesOf, bytesOf, Array.toList_inj] at h
  exact String.toByteArray_inj.mp (ByteArray.ext h)

theorem contentsOf_bytesOf (text : String) : contentsOf (bytesOf text) = .text text := by
  have hbytes : (⟨(bytesOf text).toArray⟩ : ByteArray) = text.toUTF8 := rfl
  rw [contentsOf, hbytes, String.fromUTF8?, String.toUTF8_eq_toByteArray, dif_pos text.isValidUTF8]
  rfl

theorem eq_of_contentsOf {bytes : List UInt8} {text : String} (h : contentsOf bytes = .text text) :
    bytes = bytesOf text := by
  unfold contentsOf String.fromUTF8? at h
  split_ifs at h with hvalid
  obtain rfl := Contents.text.inj h
  rfl

/-- `component`. -/
def component (name : Name) : Except IoError Name :=
  if name = [] ∨ name = dot ∨ name = dot ++ dot ∨ slash ∈ name then
    .error ⟨.other, "expected one file name"⟩
  else if 0 ∈ name then .error ⟨.other, "invalid file name"⟩
  else .ok name

theorem component_eq_ok {name name' : Name} (h : component name = .ok name') : name' = name := by
  unfold component at h
  split_ifs at h
  exact (Except.ok.inj h).symm

/-! ## Calls -/

/-- A disk, with what is in its files. -/
structure Volume where
  disk : Unix.Disk Name
  contents : ℕ → List UInt8

/-- What a file system that fails may answer to the calls of an operation: reading the metadata of
the directory, opening the file and reading its metadata. -/
structure OpenAnswer where
  directory : Option ReadFault := none
  openFile : Option ReadFault := none
  metadata : Option ReadFault := none

/-- A call that fails, or does what it does. -/
def withFault {α : Type} (fault : Option ReadFault) (result : Except IoError α) :
    Except IoError α :=
  match fault with
  | some fault => .error fault.error
  | none => result

/-- `io::Error::last_os_error`, behind the calls that must not meet a directory. -/
def lastFileError : Unix.FileErrno → IoError
  | .errno e => lastOsError e
  | .isDirectory => ⟨.other, "Is a directory (os error 21)"⟩

section Calls

variable (caller : Unix.Caller) (volume : Volume) (directory : PrivateDirectory)

/-- `File::metadata`. -/
def metadataOf (i : ℕ) : Except IoError (Unix.Inode Name) :=
  (volume.disk.stat i).mapError lastOsError

/-- `check(&file.metadata()?, uid, directory)`. -/
def checkMetadata (fault : Option ReadFault) (i uid : ℕ) (isDirectory : Bool) :
    Except IoError Unit :=
  (withFault fault (metadataOf volume i)).bind fun metadata ↦ check metadata uid isDirectory

/-- What `open_file` looks at before it opens. -/
def checkDirectory (answer : OpenAnswer) (name : Name) : Except IoError Name :=
  (checkMetadata volume answer.directory directory.file directory.uid true).bind fun _ ↦
    component name

/-- `PrivateDirectory::read`: the number of the open file. -/
def readFile (answer : OpenAnswer) (name : Name) : Except IoError ℕ :=
  (checkDirectory volume directory answer name).bind fun name ↦
    (withFault answer.openFile
      ((volume.disk.openReadAt caller directory.file name).mapError lastOsError)).bind fun file ↦
        (checkMetadata volume answer.metadata file directory.uid false).map fun _ ↦ file

/-- Opening the new file in `PrivateDirectory::create`. -/
def createFile (answer : OpenAnswer) (name : Name) : Except IoError Volume :=
  (checkDirectory volume directory answer name).bind fun name ↦
    (withFault answer.openFile ((volume.disk.createAt caller directory.file name
      0o600#12).mapError lastOsError)).map fun disk ↦
        ⟨disk, Function.update volume.contents volume.disk.fresh []⟩

/-- `PrivateDirectory::rename`. -/
def renameFile (fault : Option ReadFault) (source target : Name) : Except IoError Volume :=
  (component source).bind fun source ↦ (component target).bind fun target ↦
    (withFault fault ((volume.disk.renameAt caller directory.file source target).mapError
      lastFileError)).map fun disk ↦ { volume with disk }

/-- `PrivateDirectory::remove`. -/
def removeFile (fault : Option ReadFault) (name : Name) : Except IoError Volume :=
  (component name).bind fun name ↦
    (withFault fault ((volume.disk.unlinkAt caller directory.file name).mapError
      lastFileError)).map fun disk ↦ { volume with disk }

/-- A write to the open file `i`. -/
def Volume.append (i : ℕ) (bytes : List UInt8) : Volume :=
  { volume with contents := Function.update volume.contents i (volume.contents i ++ bytes) }

end Calls

/-! ## The directory as a map -/

/-- What the user finds in the inode `i`. -/
def entryOf (uid : ℕ) (volume : Volume) (i : ℕ) : Entry :=
  match volume.disk.inodes i with
  | none => .foreign
  | some inode =>
    match check inode uid false with
    | .ok () => .file (contentsOf (volume.contents i))
    | .error _ => .foreign

/-- What the user finds under the names of the directory `dir`. -/
def view (uid dir : ℕ) (volume : Volume) : Directory := fun name ↦
  (volume.disk.entry dir (bytesOf name)).map (entryOf uid volume)

theorem check_file_eq_ok_iff {metadata : Unix.Inode Name} {uid : ℕ} :
    check metadata uid false = .ok () ↔
      metadata.node = .file 1 ∧ metadata.owner = uid ∧ metadata.mode = 0o600#12 := by
  cases hnode : metadata.node <;> simp [check, hnode]
  tauto

section View

variable {uid dir : ℕ} {volume volume' : Volume} {name : String} {i : ℕ} {inode : Unix.Inode Name}

theorem entryOf_of_check (hi : volume.disk.inodes i = some inode)
    (hcheck : check inode uid false = .ok ()) :
    entryOf uid volume i = .file (contentsOf (volume.contents i)) := by
  simp only [entryOf, hi, hcheck]

theorem entryOf_of_not_check (hi : volume.disk.inodes i = some inode)
    (hcheck : check inode uid false ≠ .ok ()) : entryOf uid volume i = .foreign := by
  simp only [entryOf, hi]
  cases h : check inode uid false with
  | ok u => exact absurd h hcheck
  | error e => rfl

theorem exists_of_entryOf (h : entryOf uid volume i ≠ .foreign) :
    ∃ inode, volume.disk.inodes i = some inode ∧ check inode uid false = .ok () := by
  cases hi : volume.disk.inodes i with
  | none => simp [entryOf, hi] at h
  | some inode =>
    refine ⟨inode, rfl, not_not.mp fun hcheck ↦ h (entryOf_of_not_check hi hcheck)⟩

theorem entryOf_congr (hi : volume'.disk.inodes i = volume.disk.inodes i)
    (hcontents : volume'.contents i = volume.contents i) :
    entryOf uid volume' i = entryOf uid volume i := by
  rw [entryOf, entryOf, hi, hcontents]

theorem entryOf_directory (hi : volume.disk.inodes i = some inode)
    (hdirectory : inode.node.isDirectory = true) : entryOf uid volume i = .foreign := by
  apply entryOf_of_not_check hi
  rw [Ne, check_file_eq_ok_iff]
  rintro ⟨hfile, -, -⟩
  rw [hfile] at hdirectory
  cases hdirectory

/-- A name goes on to stand for what it stood for if it leads to the same inode, and that is as it
was. -/
theorem view_congr (htidy : volume.disk.Tidy dir) (htidy' : volume'.disk.Tidy dir)
    (hentry : volume'.disk.entry dir (bytesOf name) = volume.disk.entry dir (bytesOf name))
    (hsame : ∀ i, volume.disk.entry dir (bytesOf name) = some i → i ≠ dir →
      volume'.disk.inodes i = volume.disk.inodes i ∧ volume'.contents i = volume.contents i) :
    view uid dir volume' name = view uid dir volume name := by
  rw [view, view, hentry]
  cases hi : volume.disk.entry dir (bytesOf name) with
  | none => rfl
  | some i =>
    rw [Option.map_some, Option.map_some, Option.some.injEq]
    by_cases hdir : i = dir
    · obtain ⟨inode, hinode, hdirectory⟩ := htidy.directory
      obtain ⟨inode', hinode', hdirectory'⟩ := htidy'.directory
      rw [hdir, entryOf_directory hinode hdirectory, entryOf_directory hinode' hdirectory']
    · exact entryOf_congr (hsame i hi hdir).1 (hsame i hi hdir).2

end View

/-! ## Reading -/

section Reading

variable {caller : Unix.Caller} {volume : Volume} {directory : PrivateDirectory}
  {answer : OpenAnswer}

theorem withFault_eq_ok {α : Type} {fault : Option ReadFault} {result : Except IoError α} {a : α}
    (h : withFault fault result = .ok a) : result = .ok a := by
  cases fault with
  | none => exact h
  | some fault => cases h

/-- Only the call itself says that something is not found. -/
theorem withFault_notFound {α : Type} {fault : Option ReadFault} {result : Except IoError α}
    {e : IoError} (h : withFault fault result = .error e) (hkind : e.kind = .notFound) :
    result = .error e := by
  cases fault with
  | none => exact h
  | some fault =>
    obtain rfl := Except.error.inj h
    exact absurd hkind fault.present

theorem metadataOf_eq_ok {i : ℕ} {inode : Unix.Inode Name}
    (h : metadataOf volume i = .ok inode) : volume.disk.inodes i = some inode :=
  Unix.Disk.stat_eq_ok_iff.mp (Unix.Disk.mapError_eq_ok_iff.mp h)

theorem metadataOf_found {i : ℕ} {e : IoError} (h : metadataOf volume i = .error e) :
    e.kind ≠ .notFound := by
  rw [metadataOf, Unix.Disk.stat] at h
  cases hi : volume.disk.inodes i with
  | none =>
    rw [hi] at h
    cases h
    decide
  | some inode =>
    rw [hi] at h
    cases h

theorem check_found {metadata : Unix.Inode Name} {uid : ℕ} {isDirectory : Bool} {e : IoError}
    (h : check metadata uid isDirectory = .error e) : e.kind ≠ .notFound := by
  unfold check at h
  simp only at h
  split_ifs at h <;> cases h <;> decide

theorem checkMetadata_eq_ok {fault : Option ReadFault} {i uid : ℕ} {isDirectory : Bool}
    (h : checkMetadata volume fault i uid isDirectory = .ok ()) :
    ∃ inode, volume.disk.inodes i = some inode ∧ check inode uid isDirectory = .ok () := by
  obtain ⟨metadata, hmetadata, hcheck⟩ := Unix.bind_eq_ok_iff.mp h
  exact ⟨metadata, metadataOf_eq_ok (withFault_eq_ok hmetadata), hcheck⟩

theorem checkMetadata_found {fault : Option ReadFault} {i uid : ℕ} {isDirectory : Bool}
    {e : IoError} (h : checkMetadata volume fault i uid isDirectory = .error e) :
    e.kind ≠ .notFound := by
  intro hkind
  rw [checkMetadata] at h
  cases hmetadata : withFault fault (metadataOf volume i) with
  | error e' =>
    rw [hmetadata] at h
    obtain rfl := Except.error.inj h
    exact metadataOf_found (withFault_notFound hmetadata hkind) hkind
  | ok metadata =>
    rw [hmetadata] at h
    exact check_found h hkind

theorem checkDirectory_eq_ok {name name' : Name}
    (h : checkDirectory volume directory answer name = .ok name') : name' = name := by
  obtain ⟨-, -, h⟩ := Unix.bind_eq_ok_iff.mp h
  exact component_eq_ok h

theorem checkDirectory_found {name : Name} {e : IoError}
    (h : checkDirectory volume directory answer name = .error e) : e.kind ≠ .notFound := by
  rw [checkDirectory] at h
  cases hchecked : checkMetadata volume answer.directory directory.file directory.uid true with
  | error e' =>
    rw [hchecked] at h
    obtain rfl := Except.error.inj h
    exact checkMetadata_found hchecked
  | ok u =>
    rw [hchecked] at h
    have h : component name = .error e := h
    unfold component at h
    split_ifs at h <;> cases h <;> decide

theorem readFile_eq_ok {name : Name} {i : ℕ}
    (h : readFile caller volume directory answer name = .ok i) :
    volume.disk.entry directory.file name = some i ∧
      ∃ inode, volume.disk.inodes i = some inode ∧ check inode directory.uid false = .ok () := by
  obtain ⟨name', hname, hrest⟩ := Unix.bind_eq_ok_iff.mp h
  obtain rfl := checkDirectory_eq_ok hname
  obtain ⟨file, hopen, hlast⟩ := Unix.bind_eq_ok_iff.mp hrest
  obtain ⟨-, -, -, hentry, -⟩ := Unix.Disk.openReadAt_eq_ok_iff.mp
    (Unix.Disk.mapError_eq_ok_iff.mp (withFault_eq_ok hopen))
  cases hchecked : checkMetadata volume answer.metadata file directory.uid false with
  | error e =>
    rw [hchecked] at hlast
    cases hlast
  | ok u =>
    rw [hchecked] at hlast
    obtain rfl := Except.ok.inj hlast
    exact ⟨hentry, checkMetadata_eq_ok hchecked⟩

theorem readFile_notFound {name : Name} {e : IoError}
    (h : readFile caller volume directory answer name = .error e) (hkind : e.kind = .notFound) :
    volume.disk.entry directory.file name = none ∧ e = lastOsError .noEntry := by
  rw [readFile] at h
  cases hname : checkDirectory volume directory answer name with
  | error e' =>
    rw [hname] at h
    obtain rfl := Except.error.inj h
    exact absurd hkind (checkDirectory_found hname)
  | ok name' =>
    obtain rfl := checkDirectory_eq_ok hname
    simp only [hname, Except.bind] at h
    cases hopen : withFault answer.openFile
      ((volume.disk.openReadAt caller directory.file name').mapError lastOsError) with
    | error e' =>
      rw [hopen] at h
      obtain rfl := Except.error.inj h
      have hopened := withFault_notFound hopen hkind
      cases herrno : volume.disk.openReadAt caller directory.file name' with
      | ok file =>
        rw [herrno] at hopened
        cases hopened
      | error errno =>
        rw [herrno] at hopened
        obtain rfl := Except.error.inj hopened
        cases errno with
        | noEntry => exact ⟨Unix.Disk.entry_of_openReadAt herrno, rfl⟩
        | _ => cases hkind
    | ok file =>
      rw [hopen] at h
      cases hchecked : checkMetadata volume answer.metadata file directory.uid false with
      | error e' =>
        simp only [hchecked, Except.map] at h
        obtain rfl := Except.error.inj h
        exact absurd hkind (checkMetadata_found hchecked)
      | ok u =>
        simp only [hchecked, Except.map] at h
        cases h

/-- **Reading a file is reading the map**, under some fault. -/
theorem exists_read (caller : Unix.Caller) (answer : OpenAnswer) {files : Directory} {name : String}
    (h : files name = view directory.uid directory.file volume name) : ∃ fault,
      files.read fault name =
        (readFile caller volume directory answer (bytesOf name)).map fun i ↦
          contentsOf (volume.contents i) := by
  cases hread : readFile caller volume directory answer (bytesOf name) with
  | ok i =>
    obtain ⟨hentry, inode, hi, hcheck⟩ := readFile_eq_ok hread
    refine ⟨none, ?_⟩
    simp only [Directory.read, h, view, hentry, Option.map_some, entryOf_of_check hi hcheck]
    rfl
  | error e =>
    by_cases hkind : e.kind = .notFound
    · obtain ⟨hentry, rfl⟩ := readFile_notFound hread hkind
      refine ⟨none, ?_⟩
      simp only [Directory.read, h, view, hentry, Option.map_none]
      rfl
    · exact ⟨some ⟨e, hkind⟩, rfl⟩

end Reading

/-! ## Changing files -/

section Changing

variable {caller : Unix.Caller} {volume volume' : Volume} {directory : PrivateDirectory}
  {name : Name}

theorem createFile_eq_ok {answer : OpenAnswer}
    (h : createFile caller volume directory answer name = .ok volume') :
    volume.disk.entry directory.file name = none ∧ ∃ group mode,
      volume' = ⟨volume.disk.addFile directory.file name caller.uid group mode,
        Function.update volume.contents volume.disk.fresh []⟩ := by
  obtain ⟨name', hname, hrest⟩ := Unix.bind_eq_ok_iff.mp h
  obtain rfl := checkDirectory_eq_ok hname
  cases hcreate : withFault answer.openFile ((volume.disk.createAt caller directory.file name'
    0o600#12).mapError lastOsError) with
  | error e =>
    rw [hcreate] at hrest
    cases hrest
  | ok disk =>
    rw [hcreate] at hrest
    obtain rfl := Except.ok.inj hrest
    obtain ⟨hentry, up, -, rfl⟩ := Unix.Disk.createAt_eq_ok
      (Unix.Disk.mapError_eq_ok_iff.mp (withFault_eq_ok hcreate))
    exact ⟨hentry, _, _, rfl⟩

theorem private_of_createFile {answer : OpenAnswer}
    (h : createFile caller volume directory answer name = .ok volume') :
    component name = .ok name ∧ ∃ up, volume.disk.inodes directory.file = some up ∧
      check up directory.uid true = .ok () := by
  obtain ⟨name', hname, -⟩ := Unix.bind_eq_ok_iff.mp h
  obtain ⟨u, hchecked, hcomponent⟩ := Unix.bind_eq_ok_iff.mp hname
  obtain rfl := component_eq_ok hcomponent
  exact ⟨hcomponent, checkMetadata_eq_ok hchecked⟩

theorem removeFile_of_private {up inode : Unix.Inode Name} {i : ℕ}
    (hcaller : caller.uid = directory.uid) (hname : component name = .ok name)
    (hup : volume.disk.inodes directory.file = some up)
    (hprivate : check up directory.uid true = .ok ())
    (hentry : volume.disk.entry directory.file name = some i)
    (hi : volume.disk.inodes i = some inode) (hfile : inode.node.isDirectory = false) :
    removeFile caller volume directory none name =
      .ok { volume with disk := volume.disk.removed directory.file name i } := by
  obtain ⟨hdirectory, howner, hmode⟩ := check_directory_eq_ok_iff.mp hprivate
  have hmay (access : Unix.Access) : caller.may access up = true :=
    Unix.Caller.may_of_owner hmode (howner.trans hcaller.symm) access
  have henter : volume.disk.enter caller directory.file = .ok up :=
    Unix.Disk.enter_eq_ok_iff.mpr ⟨hup, hdirectory, hmay _⟩
  have hchild : up.node.child (.normal name) = some i := by
    rwa [← Unix.Disk.entry_eq_child hup]
  have hunlink : volume.disk.unlinkAt caller directory.file name =
      .ok (volume.disk.removed directory.file name i) := by
    simp [Unix.Disk.unlinkAt, henter, Except.mapError, Except.bind, hchild, hmay, Unix.Disk.stat,
      hi, hfile]
  simp [removeFile, hname, Except.bind, withFault, hunlink, Except.mapError, Except.map]

theorem removeFile_eq_ok {fault : Option ReadFault}
    (h : removeFile caller volume directory fault name = .ok volume') :
    ∃ i, volume.disk.entry directory.file name = some i ∧
      volume' = { volume with disk := volume.disk.removed directory.file name i } := by
  obtain ⟨name', hname, hrest⟩ := Unix.bind_eq_ok_iff.mp h
  obtain rfl := component_eq_ok hname
  cases hremove : withFault fault ((volume.disk.unlinkAt caller directory.file name').mapError
    lastFileError) with
  | error e =>
    rw [hremove] at hrest
    cases hrest
  | ok disk =>
    rw [hremove] at hrest
    obtain rfl := Except.ok.inj hrest
    obtain ⟨i, hentry, rfl⟩ := Unix.Disk.unlinkAt_eq_ok
      (Unix.Disk.mapError_eq_ok_iff.mp (withFault_eq_ok hremove))
    exact ⟨i, hentry, rfl⟩

theorem renameFile_eq_ok {fault : Option ReadFault} {target : Name}
    (h : renameFile caller volume directory fault name target = .ok volume') :
    ∃ i, volume.disk.entry directory.file name = some i ∧
      (volume.disk.entry directory.file target = some i ∧ volume' = volume ∨
        volume.disk.entry directory.file target ≠ some i ∧ volume' =
          ⟨volume.disk.moved directory.file name target i
            (volume.disk.entry directory.file target), volume.contents⟩) := by
  obtain ⟨name', hname, hrest⟩ := Unix.bind_eq_ok_iff.mp h
  obtain rfl := component_eq_ok hname
  obtain ⟨target', htarget, hlast⟩ := Unix.bind_eq_ok_iff.mp hrest
  obtain rfl := component_eq_ok htarget
  cases hrename : withFault fault ((volume.disk.renameAt caller directory.file name'
    target').mapError lastFileError) with
  | error e =>
    rw [hrename] at hlast
    cases hlast
  | ok disk =>
    rw [hrename] at hlast
    obtain rfl := Except.ok.inj hlast
    obtain ⟨i, hentry, hmoved⟩ := Unix.Disk.renameAt_eq_ok
      (Unix.Disk.mapError_eq_ok_iff.mp (withFault_eq_ok hrename))
    refine ⟨i, hentry, hmoved.imp ?_ ?_⟩
    · rintro ⟨htarget, rfl⟩
      exact ⟨htarget, rfl⟩
    · rintro ⟨htarget, rfl⟩
      exact ⟨htarget, rfl⟩

end Changing

end TunnelDeck.PrivateFs
