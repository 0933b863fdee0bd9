import TunnelDeck.Config.Store
import TunnelDeck.Text.UnixPath
import TunnelDeck.Unix.Calls

/-!
# The private directory

`PrivateDirectory::open` creates the application directory with the directories above it that are
missing, and opens it if it is the user's alone. What is missing is decided by `lstat`, which does
not follow a link at the end of a path, while the calls that create and open go through links.

Between two system calls other processes may change the disk in any way.

## Main results

* `openDirectory_creates_iff`: when the missing directories are created, and what is opened in any
  case.
* `grown_openDirectory`: opening changes nothing that is there, unless others do.
-/

namespace TunnelDeck.PrivateFs

open Text.UnixPath (slash dot isAbsolute)

abbrev Name := List UInt8

/-- An absolute path by its components. -/
abbrev Components := List (Unix.Component Name)

abbrev Session := Unix.Session Name

/-! ## Paths and errors -/

/-- `Path::components` of an absolute path. -/
def components (path : Text.UnixPath) : Components :=
  (path.splitOn slash).filterMap fun part ↦
    if part = [] ∨ part = dot then none
    else if part = dot ++ dot then some .parentDir
    else some (.normal part)

example : components (Text.UnixPath.ofText "/a/.//b/../".toList) =
    [.normal [0x61], .normal [0x62], .parentDir] := by decide

def hasNul : Unix.Component Name → Bool
  | .parentDir => false
  | .normal name => name.contains 0

/-- `io::Error::last_os_error`. -/
def lastOsError : Unix.Errno → IoError
  | .noEntry => ⟨.notFound, "No such file or directory (os error 2)"⟩
  | .exists => ⟨.alreadyExists, "File exists (os error 17)"⟩
  | .access => ⟨.permissionDenied, "Permission denied (os error 13)"⟩
  | .notDirectory => ⟨.other, "Not a directory (os error 20)"⟩
  | .loop => ⟨.other, "Too many levels of symbolic links (os error 40)"⟩
  | .io => ⟨.other, "Input/output error (os error 5)"⟩

/-! ## Opening -/

/-- `check`. -/
def check (metadata : Unix.Inode Name) (uid : ℕ) (directory : Bool) : Except IoError Unit :=
  let mode := if directory then 0o700#12 else 0o600#12
  let wrongType :=
    match metadata.node with
    | .directory .. => !directory
    | .file links => directory || links != 1
    | _ => true
  if metadata.owner != uid || metadata.mode != mode || wrongType then .error Directory.unsafeEntry
  else .ok ()

section Opening

variable (caller : Unix.Caller)

/-- `fs::symlink_metadata`. -/
def symlinkMetadata (path : Components) (session : Session) :
    Except IoError (Unix.Inode Name) × Session :=
  let session := session.turn
  if path.any hasNul then
    (.error ⟨.other, "file name contained an unexpected NUL byte"⟩, session)
  else ((session.disk.lstat caller path).mapError lastOsError, session)

/-- `validate_directory`. -/
def validateDirectory (path : Components) (uid : ℕ) (session : Session) :
    Except IoError Unit × Session :=
  let (metadata, session) := symlinkMetadata caller path session
  (metadata.bind fun metadata ↦ check metadata uid true, session)

/-- `File::open(path)?.sync_all()`. -/
def syncDirectory (path : Components) (session : Session) : Except IoError Unit × Session :=
  let session := session.turn
  (((session.disk.openRead caller path true false).mapError lastOsError).map fun _ ↦ (), session)

/-- The creation of one directory in `create_directories`. The path is given from its last component
on, so that its `Path::parent` is the tail. -/
def createDirectory (path : Components) (session : Session) : Except IoError Unit × Session :=
  let session := session.turn
  match session.disk.mkdir caller path.reverse 0o700#12 with
  | .ok disk =>
    let session := { session with disk }
    match path with
    | [] => (.ok (), session)
    | _ :: parent => syncDirectory caller parent.reverse session
  | .error errno =>
    if (lastOsError errno).kind = .alreadyExists then
      validateDirectory caller path.reverse caller.uid session
    else (.error (lastOsError errno), session)

/-- `create_directories`, of a path given from its last component on. -/
def createDirectories (path : Components) (session : Session) : Except IoError Unit × Session :=
  let (metadata, session) := symlinkMetadata caller path.reverse session
  match metadata with
  | .ok metadata =>
    if metadata.node.isDirectory then (.ok (), session)
    else
      (.error ⟨.permissionDenied, "application directory is not a directory or is a symlink"⟩,
        session)
  | .error error =>
    if error.kind = .notFound then
      match path with
      | [] => createDirectory caller [] session
      | last :: parent =>
        match createDirectories parent session with
        | (.error error, session) => (.error error, session)
        | (.ok (), session) => createDirectory caller (last :: parent) session
    else (.error error, session)

/-- `PrivateDirectory`: the number of the open inode, and the user. -/
structure PrivateDirectory where
  file : ℕ
  uid : ℕ
  deriving DecidableEq

/-- `PrivateDirectory::open`. -/
def openDirectory (path : Text.UnixPath) (session : Session) :
    Except IoError PrivateDirectory × Session :=
  if !isAbsolute path then (.error ⟨.other, "directory must be absolute"⟩, session)
  else
    let path := components path
    match createDirectories caller path.reverse session with
    | (.error error, session) => (.error error, session)
    | (.ok (), session) =>
      let session := session.turn
      match session.disk.openRead caller path false true with
      | .error errno => (.error (lastOsError errno), session)
      | .ok file =>
        let session := session.turn
        match session.disk.stat file with
        | .error errno => (.error (lastOsError errno), session)
        | .ok metadata =>
          ((check metadata caller.uid true).map fun _ ↦ ⟨file, caller.uid⟩, session)

end Opening

theorem check_directory_eq_ok_iff {metadata : Unix.Inode Name} {uid : ℕ} :
    check metadata uid true = .ok () ↔
      metadata.node.isDirectory = true ∧ metadata.owner = uid ∧ metadata.mode = 0o700#12 := by
  cases hnode : metadata.node <;> simp [check, hnode, Unix.Node.isDirectory]

theorem openDirectory_eq_ok {caller : Unix.Caller} {path : Text.UnixPath}
    {session session' : Session} {directory : PrivateDirectory}
    (h : openDirectory caller path session = (.ok directory, session')) :
    ∃ created metadata,
      createDirectories caller (components path).reverse session = (.ok (), created) ∧
      session' = created.turn.turn ∧
      session'.disk.inodes directory.file = some metadata ∧
      check metadata caller.uid true = .ok () := by
  unfold openDirectory at h
  cases habsolute : isAbsolute path with
  | false => simp [habsolute] at h
  | true =>
    cases hcreate : createDirectories caller (components path).reverse session with
    | mk result created =>
      cases result with
      | error error => simp [habsolute, hcreate] at h
      | ok =>
        cases hopen : created.turn.disk.openRead caller (components path) false true with
        | error errno => simp [habsolute, hcreate, hopen] at h
        | ok file =>
          cases hstat : created.turn.turn.disk.stat file with
          | error errno => simp [habsolute, hcreate, hopen, hstat] at h
          | ok metadata =>
            cases hcheck : check metadata caller.uid true with
            | error error => simp [habsolute, hcreate, hopen, hstat, hcheck, Except.map] at h
            | ok =>
              simp only [habsolute, hcreate, hopen, hstat, hcheck, Except.map] at h
              obtain ⟨hdirectory, rfl⟩ := Prod.mk.inj h
              cases hdirectory
              exact ⟨created, metadata, rfl, rfl, Unix.Disk.stat_eq_ok_iff.mp hstat, hcheck⟩

/-! ## Runs that nobody disturbs -/

section Quiet

variable {caller : Unix.Caller} {disk : Unix.Disk Name}

theorem symlinkMetadata_quiet {path : Components} (hnul : path.any hasNul = false) :
    symlinkMetadata caller path (.quiet disk) =
      ((disk.lstat caller path).mapError lastOsError, .quiet disk) := by
  simp [symlinkMetadata, hnul]

theorem createDirectories_of_directory {path : Components} {metadata : Unix.Inode Name}
    (hnul : path.any hasNul = false) (h : disk.lstat caller path = .ok metadata)
    (hdirectory : metadata.node.isDirectory = true) :
    createDirectories caller path.reverse (.quiet disk) = (.ok (), .quiet disk) := by
  unfold createDirectories
  rw [List.reverse_reverse, symlinkMetadata_quiet hnul, h]
  simp [Except.mapError, hdirectory]

theorem createDirectories_of_missing {path : Components} {last : Unix.Component Name}
    (hnul : (path ++ [last]).any hasNul = false)
    (h : disk.lstat caller (path ++ [last]) = .error .noEntry) :
    createDirectories caller (path ++ [last]).reverse (.quiet disk) =
      match createDirectories caller path.reverse (.quiet disk) with
      | (.error error, session) => (.error error, session)
      | (.ok (), session) => createDirectory caller (path ++ [last]).reverse session := by
  conv_lhs => unfold createDirectories
  rw [List.reverse_reverse, symlinkMetadata_quiet hnul, h]
  simp [Except.mapError, lastOsError]

variable {known : Components} {left dir : ℕ} {inode : Unix.Inode Name} {first : Name}

theorem createDirectory_vacant (hvacant : disk.Vacant caller known left dir inode first) :
    createDirectory caller (known ++ [Unix.Component.normal first]).reverse (.quiet disk) =
      (if caller.may .read inode then .ok () else .error (lastOsError .access),
        .quiet (disk.addDirectory dir first caller.uid (caller.groupIn inode)
          (caller.modeIn inode 0o700#12))) := by
  have hmkdir := hvacant.mkdir 0o700#12
  have hopen := hvacant.openRead_addDirectory caller.uid (caller.groupIn inode)
    (caller.modeIn inode 0o700#12)
  rw [List.reverse_append, List.reverse_singleton, List.singleton_append, createDirectory]
  simp only [List.reverse_cons, List.reverse_reverse, Unix.Session.turn_quiet,
    Unix.Session.quiet_disk, hmkdir]
  change syncDirectory caller known (.quiet _) = _
  simp only [syncDirectory, Unix.Session.turn_quiet, Unix.Session.quiet_disk, hopen]
  cases caller.may .read inode <;> rfl

/-- The components `names` behind the path `known`. -/
def below (known : Components) (names : List Name) : Components := known ++ names.map .normal

theorem below_cons (known : Components) (name : Name) (names : List Name) :
    below known (name :: names) = below (known ++ [.normal name]) names := by
  simp [below]

theorem below_concat (known : Components) (names : List Name) (name : Name) :
    below known (names ++ [name]) = below known names ++ [.normal name] := by
  simp [below]

theorem below_singleton (known : Components) (name : Name) :
    below known [name] = known ++ [.normal name] := rfl

theorem lstat_below (hvacant : disk.Vacant caller known left dir inode first)
    (rest : List Name) : disk.lstat caller (below known (first :: rest)) = .error .noEntry :=
  hvacant.lstat (rest.map .normal)

/-- When the missing directories below `known`, the directory `inode`, are created. -/
structure Creatable (caller : Unix.Caller) (disk : Unix.Disk Name) (known : Components)
    (inode : Unix.Inode Name) : Prop where
  /-- The path up to there does not end at a symbolic link. -/
  direct : disk.lstat caller known = .ok inode
  readable : caller.may .read inode = true
  umask : caller.umask &&& 0o700#12 = 0#12
  setgid : caller.inherits inode = false

namespace Creatable

theorem modeIn_eq (h : Creatable caller disk known inode) :
    caller.modeIn inode 0o700#12 = 0o700#12 :=
  (caller.modeIn_eq_self_iff inode (by decide)).mpr ⟨h.umask, h.setgid⟩

theorem addDirectory (h : Creatable caller disk known inode)
    (hvacant : disk.Vacant caller known left dir inode first) (group : ℕ) :
    Creatable caller (disk.addDirectory dir first caller.uid group 0o700#12)
      (known ++ [.normal first]) ⟨.directory dir fun _ ↦ none, caller.uid, group, 0o700#12⟩ where
  direct := Unix.Disk.lstat_eq_ok_iff.mpr ⟨_, hvacant.walk_addDirectory caller.uid group 0o700#12
    false, Unix.Disk.addDirectory_inodes_fresh ..⟩
  readable := Unix.Caller.may_of_owner rfl rfl _
  umask := h.umask
  setgid := by simp [Unix.Caller.inherits]

end Creatable

/-- Creating all is creating the first, and then the others. -/
theorem createDirectories_vacant (hvacant : disk.Vacant caller known left dir inode first)
    (hcreatable : Creatable caller disk known inode) {rest : List Name}
    (hnul : (below known (first :: rest)).any hasNul = false) :
    createDirectories caller (below known (first :: rest)).reverse (.quiet disk) =
      createDirectories caller (below known (first :: rest)).reverse
        (.quiet (disk.addDirectory dir first caller.uid (caller.groupIn inode) 0o700#12)) := by
  induction rest using List.reverseRecOn with
  | nil =>
    have hnew := hcreatable.addDirectory hvacant (caller.groupIn inode)
    have hknown : known.any hasNul = false := by simp_all [below]
    have hdirectory := (Unix.Disk.enter_eq_ok_iff.mp hvacant.enter).2.1
    rw [below_singleton] at hnul ⊢
    rw [createDirectories_of_directory hnul hnew.direct rfl,
      createDirectories_of_missing hnul (hvacant.lstat []),
      createDirectories_of_directory hknown hcreatable.direct hdirectory]
    change createDirectory caller _ (.quiet disk) = _
    rw [createDirectory_vacant hvacant, hcreatable.modeIn_eq, hcreatable.readable]
    rfl
  | append_singleton names last ih =>
    rw [← List.cons_append, below_concat] at hnul ⊢
    have hmissing := lstat_below hvacant (names ++ [last])
    rw [← List.cons_append, below_concat] at hmissing
    have hmissing' : (disk.addDirectory dir first caller.uid (caller.groupIn inode)
        0o700#12).lstat caller (below known (first :: names) ++ [.normal last]) =
        .error .noEntry := by
      rw [← below_concat, List.cons_append, below_cons]
      obtain _ | ⟨second, names⟩ := names
      · exact lstat_below (hvacant.addDirectory _ last) []
      · exact lstat_below (hvacant.addDirectory _ second) (names ++ [last])
    rw [createDirectories_of_missing hnul hmissing, createDirectories_of_missing hnul hmissing',
      ih (by simp_all)]

/-! ### What a creation makes -/

/-- The disk on which the user has made the missing directories beforehand. -/
def made (caller : Unix.Caller) (disk : Unix.Disk Name) (dir : ℕ) (inode : Unix.Inode Name)
    (names : List Name) : Unix.Disk Name :=
  disk.addDirectories caller 0o700#12 dir inode names

theorem le_made (hvacant : disk.Vacant caller known left dir inode first) (rest : List Name) :
    disk ≤ made caller disk dir inode (first :: rest) :=
  Unix.Disk.le_addDirectories hvacant.inodes fun _ h ↦ by
    cases h
    exact hvacant.absent

/-- The path leads to a directory that is the user's alone. -/
theorem exists_made (hvacant : disk.Vacant caller known left dir inode first) (rest : List Name) :
    ∃ i up group,
      (made caller disk dir inode (first :: rest)).walk caller false caller.maxLinks
        (made caller disk dir inode (first :: rest)).root (below known (first :: rest)) =
          .ok (i, left) ∧
      (made caller disk dir inode (first :: rest)).inodes i =
        some ⟨.directory up fun _ ↦ none, caller.uid, group, 0o700#12⟩ := by
  induction rest generalizing disk known dir inode first with
  | nil => exact ⟨_, _, _, hvacant.walk_addDirectory .., Unix.Disk.addDirectory_inodes_fresh ..⟩
  | cons second rest ih =>
    rw [below_cons]
    exact ih (hvacant.addDirectory (caller.groupIn inode) second)

theorem createDirectories_made (hvacant : disk.Vacant caller known left dir inode first)
    (hcreatable : Creatable caller disk known inode) {rest : List Name}
    (hnul : (below known (first :: rest)).any hasNul = false) :
    createDirectories caller (below known (first :: rest)).reverse (.quiet disk) =
      createDirectories caller (below known (first :: rest)).reverse
        (.quiet (made caller disk dir inode (first :: rest))) := by
  rw [createDirectories_vacant hvacant hcreatable hnul]
  induction rest generalizing disk known dir inode first with
  | nil => rfl
  | cons second rest ih =>
    have hvacant' := hvacant.addDirectory (caller.groupIn inode) second
    have hcreatable' := hcreatable.addDirectory hvacant (caller.groupIn inode)
    rw [below_cons] at hnul ⊢
    rw [createDirectories_vacant hvacant' hcreatable' hnul]
    exact ih hvacant' hcreatable' hnul

theorem openDirectory_of_private {path : Text.UnixPath} {i up group : ℕ}
    {entries : Name → Option ℕ} (habsolute : isAbsolute path = true)
    (hnul : (components path).any hasNul = false)
    (hwalk : disk.walk caller false caller.maxLinks disk.root (components path) = .ok (i, left))
    (hi : disk.inodes i = some ⟨.directory up entries, caller.uid, group, 0o700#12⟩) :
    openDirectory caller path (.quiet disk) = (.ok ⟨i, caller.uid⟩, .quiet disk) := by
  have hlstat := Unix.Disk.lstat_eq_ok_iff.mpr ⟨_, hwalk, hi⟩
  have hopen : disk.openRead caller (components path) false true = .ok i :=
    Unix.Disk.openRead_eq_ok_iff.mpr
      ⟨left, _, hwalk, hi, fun _ ↦ rfl, rfl, Unix.Caller.may_of_owner rfl rfl _⟩
  simp [openDirectory, habsolute, createDirectories_of_directory hnul hlstat rfl, hopen,
    Unix.Disk.stat_eq_ok_iff.mpr hi, check, Except.map]

/-! ### What a run leaves alone -/

/-- `session` is undisturbed, and its disk is no smaller than `disk`. -/
def Grown (disk : Unix.Disk Name) (session : Session) : Prop :=
  ∃ disk', session = .quiet disk' ∧ disk ≤ disk'

theorem Grown.refl (disk : Unix.Disk Name) : Grown disk (.quiet disk) := ⟨disk, rfl, le_refl disk⟩

theorem Grown.trans {disk' : Unix.Disk Name} {session : Session} (hle : disk ≤ disk')
    (h : Grown disk' session) : Grown disk session := by
  obtain ⟨disk'', rfl, hle'⟩ := h
  exact ⟨disk'', rfl, le_trans hle hle'⟩

theorem exists_symlinkMetadata (caller : Unix.Caller) (disk : Unix.Disk Name)
    (path : Components) :
    ∃ metadata, symlinkMetadata caller path (.quiet disk) = (metadata, .quiet disk) := by
  unfold symlinkMetadata
  split <;> exact ⟨_, rfl⟩

theorem grown_createDirectory (caller : Unix.Caller) (disk : Unix.Disk Name)
    (path : Components) :
    Grown disk (createDirectory caller path (.quiet disk)).2 := by
  obtain ⟨metadata, hmetadata⟩ :=
    exists_symlinkMetadata caller disk path.reverse
  unfold createDirectory
  simp only [Unix.Session.turn_quiet, Unix.Session.quiet_disk, validateDirectory, hmetadata]
  cases hmkdir : disk.mkdir caller path.reverse 0o700#12 with
  | error errno =>
    dsimp only
    split <;> exact .refl disk
  | ok disk' => cases path <;> exact ⟨disk', rfl, Unix.Disk.le_mkdir hmkdir⟩

/-- Either nothing is done, or the path is missing: then the directories above it are created, and
behind them the last one. -/
theorem createDirectories_cases (caller : Unix.Caller) (disk : Unix.Disk Name)
    (path : Components) :
    (∃ result, createDirectories caller path (.quiet disk) = (result, .quiet disk)) ∨
      createDirectories caller path (.quiet disk) =
        match path with
        | [] => createDirectory caller [] (.quiet disk)
        | last :: parent =>
          match createDirectories caller parent (.quiet disk) with
          | (.error error, session) => (.error error, session)
          | (.ok (), session) => createDirectory caller (last :: parent) session := by
  obtain ⟨metadata, hmetadata⟩ := exists_symlinkMetadata caller disk path.reverse
  rw [createDirectories.eq_def caller path (.quiet disk)]
  simp only [hmetadata]
  cases metadata with
  | ok metadata =>
    dsimp only
    split <;> exact .inl ⟨_, rfl⟩
  | error error =>
    dsimp only
    split
    case isTrue => exact .inr (by cases path <;> rfl)
    case isFalse => exact .inl ⟨_, rfl⟩

theorem grown_createDirectories (caller : Unix.Caller) (disk : Unix.Disk Name)
    (path : Components) : Grown disk (createDirectories caller path (.quiet disk)).2 := by
  induction path with
  | nil =>
    rcases createDirectories_cases caller disk [] with ⟨result, h⟩ | h
    · exact h ▸ .refl disk
    · exact h ▸ grown_createDirectory caller disk []
  | cons last parent ih =>
    rcases createDirectories_cases caller disk (last :: parent) with ⟨result, h⟩ | h
    · exact h ▸ .refl disk
    · rw [h]
      dsimp only
      obtain ⟨disk', hsession, hle⟩ := ih
      cases hparent : createDirectories caller parent (.quiet disk) with
      | mk result session =>
        obtain rfl : session = .quiet disk' := by rw [← hsession, hparent]
        cases result with
        | error error => exact ⟨disk', rfl, hle⟩
        | ok => exact .trans hle (grown_createDirectory caller disk' (last :: parent))

theorem grown_openDirectory (path : Text.UnixPath) :
    Grown disk (openDirectory caller path (.quiet disk)).2 := by
  unfold openDirectory
  cases isAbsolute path with
  | false => exact .refl disk
  | true =>
    obtain ⟨disk', hsession, hle⟩ := grown_createDirectories caller disk
      (components path).reverse
    cases hcreate : createDirectories caller (components path).reverse (.quiet disk) with
    | mk result created =>
      obtain rfl : created = .quiet disk' := by rw [← hsession, hcreate]
      simp only [hcreate, Bool.not_true, Bool.false_eq_true, if_false]
      cases result with
      | error error => exact ⟨disk', rfl, hle⟩
      | ok =>
        dsimp only
        split
        case h_1 => exact ⟨disk', rfl, hle⟩
        case h_2 => split <;> exact ⟨disk', rfl, hle⟩

/-! ### When the directories are created -/

/-- No system call takes such a path. -/
theorem createDirectories_of_nul {path : Components} (hnul : path.any hasNul = true)
    (session : Session) : (createDirectories caller path.reverse session).1 ≠ .ok () := by
  unfold createDirectories
  rw [List.reverse_reverse]
  simp [symlinkMetadata, hnul]

theorem createDirectories_of_file {path : Components} {metadata : Unix.Inode Name}
    (hnul : path.any hasNul = false) (h : disk.lstat caller path = .ok metadata)
    (hdirectory : metadata.node.isDirectory = false) :
    createDirectories caller path.reverse (.quiet disk) =
      (.error ⟨.permissionDenied, "application directory is not a directory or is a symlink"⟩,
        .quiet disk) := by
  unfold createDirectories
  rw [List.reverse_reverse, symlinkMetadata_quiet hnul, h]
  simp [Except.mapError, hdirectory]

/-- A creation that succeeds has made the first directory, and could read the one it is in. -/
theorem first_created (hvacant : disk.Vacant caller known left dir inode first) {rest : List Name}
    (hnul : (below known (first :: rest)).any hasNul = false) {session : Session}
    (h : createDirectories caller (below known (first :: rest)).reverse (.quiet disk) =
      (.ok (), session)) :
    disk.lstat caller known = .ok inode ∧ caller.may .read inode = true ∧
      Grown (disk.addDirectory dir first caller.uid (caller.groupIn inode)
        (caller.modeIn inode 0o700#12)) session := by
  induction rest using List.reverseRecOn generalizing session with
  | nil =>
    have hknown : known.any hasNul = false := by simp_all [below]
    have hdirectory := (Unix.Disk.enter_eq_ok_iff.mp hvacant.enter).2.1
    rw [below_singleton] at hnul h
    rw [createDirectories_of_missing hnul (hvacant.lstat [])] at h
    rcases hvacant.lstat_path with hdirect | ⟨link, hlink, hfile⟩
    · rw [createDirectories_of_directory hknown hdirect hdirectory] at h
      change createDirectory caller _ (.quiet disk) = _ at h
      rw [createDirectory_vacant hvacant] at h
      cases hread : caller.may .read inode with
      | false => simp [hread] at h
      | true =>
        obtain ⟨-, rfl⟩ := Prod.mk.inj h
        exact ⟨hdirect, rfl, .refl _⟩
    · rw [createDirectories_of_file hknown hlink hfile] at h
      cases h
  | append_singleton names last ih =>
    rw [← List.cons_append, below_concat] at hnul h
    have hmissing := lstat_below hvacant (names ++ [last])
    rw [← List.cons_append, below_concat] at hmissing
    rw [createDirectories_of_missing hnul hmissing] at h
    cases hrun : createDirectories caller (below known (first :: names)).reverse (.quiet disk) with
    | mk result after =>
      cases result with
      | error error => simp [hrun] at h
      | ok =>
        obtain ⟨hdirect, hread, disk', rfl, hle⟩ := ih (by simp_all) hrun
        simp only [hrun] at h
        refine ⟨hdirect, hread, .trans hle ?_⟩
        have hgrown := grown_createDirectory caller disk'
          (below known (first :: names) ++ [Unix.Component.normal last]).reverse
        rwa [h] at hgrown

/-- Opening `path` creates its components `names`, which are missing in the directory `dir`. -/
structure CreatesMissing (caller : Unix.Caller) (disk : Unix.Disk Name) (path : Text.UnixPath)
    (dir : ℕ) (inode : Unix.Inode Name) (names : List Name) : Prop where
  /-- It succeeds, and the disk has got just those directories. -/
  creates : ∃ directory, openDirectory caller path (.quiet disk) =
    (.ok directory, .quiet (made caller disk dir inode names))
  /-- Nothing that was there has changed. -/
  keeps : disk ≤ made caller disk dir inode names
  /-- As if the user had made them before. -/
  asIf : openDirectory caller path (.quiet disk) =
    openDirectory caller path (.quiet (made caller disk dir inode names))

theorem createsMissing_of_creatable {path : Text.UnixPath} {rest : List Name}
    (habsolute : isAbsolute path = true) (hpath : components path = below known (first :: rest))
    (hvacant : disk.Vacant caller known left dir inode first)
    (hnul : (components path).any hasNul = false) (hcreatable : Creatable caller disk known inode) :
    CreatesMissing caller disk path dir inode (first :: rest) := by
  obtain ⟨i, up, group, hwalk, hi⟩ := exists_made hvacant rest
  have hasIf : openDirectory caller path (.quiet disk) =
      openDirectory caller path (.quiet (made caller disk dir inode (first :: rest))) := by
    unfold openDirectory
    simp only [habsolute, hpath, createDirectories_made hvacant hcreatable (hpath ▸ hnul)]
    rfl
  have hopen := openDirectory_of_private habsolute hnul (hpath ▸ hwalk) hi
  exact ⟨⟨_, hasIf.trans hopen⟩, le_made hvacant rest, hasIf⟩

theorem creatable_of_createsMissing {path : Text.UnixPath} {rest : List Name}
    (hpath : components path = below known (first :: rest))
    (hvacant : disk.Vacant caller known left dir inode first)
    (h : CreatesMissing caller disk path dir inode (first :: rest)) :
    (components path).any hasNul = false ∧ Creatable caller disk known inode := by
  obtain ⟨directory, hopen⟩ := h.creates
  obtain ⟨created, metadata, hcreate, hsession, -, -⟩ := openDirectory_eq_ok hopen
  have hnul : (components path).any hasNul = false := by
    by_contra hnul
    exact createDirectories_of_nul (by simpa using hnul) _ (by rw [hcreate])
  rw [hpath] at hcreate
  obtain ⟨hdirect, hread, disk', rfl, hle⟩ := first_created hvacant (hpath ▸ hnul) hcreate
  obtain rfl : made caller disk dir inode (first :: rest) = disk' :=
    congrArg Unix.Session.disk hsession
  have hmode : caller.modeIn inode 0o700#12 = 0o700#12 := by
    have hmade : disk.addDirectory dir first caller.uid (caller.groupIn inode) 0o700#12 ≤
        made caller disk dir inode (first :: rest) :=
      Unix.Disk.le_addDirectories (Unix.Disk.addDirectory_inodes_fresh ..) fun _ _ ↦ rfl
    obtain ⟨node, hnode, -⟩ := hle.2 _ _ (Unix.Disk.addDirectory_inodes_fresh ..)
    obtain ⟨node', hnode', -⟩ := hmade.2 _ _ (Unix.Disk.addDirectory_inodes_fresh ..)
    exact congrArg Unix.Inode.mode (Option.some.inj (hnode.symm.trans hnode'))
  obtain ⟨humask, hsetgid⟩ := (caller.modeIn_eq_self_iff inode (by decide)).mp hmode
  exact ⟨hnul, hdirect, hread, humask, hsetgid⟩

end Quiet

/-- The missing directories of an absolute path are created just if the last component of the
existing ones is no symbolic link, the directory there is readable and hands on no set-group-ID bit,
the umask leaves the owner's bits alone, and the path is a C string. Whatever other processes do
meanwhile, what is opened is a directory that is the user's alone. -/
theorem openDirectory_creates_iff {caller : Unix.Caller} {disk : Unix.Disk Name}
    {path : Text.UnixPath} {known : Components} {left dir : ℕ} {inode : Unix.Inode Name}
    {first : Name} {rest : List Name} (habsolute : isAbsolute path = true)
    (hpath : components path = below known (first :: rest))
    (hvacant : disk.Vacant caller known left dir inode first) :
    (CreatesMissing caller disk path dir inode (first :: rest) ↔
      (components path).any hasNul = false ∧ Creatable caller disk known inode) ∧
    ∀ path' session directory session',
      openDirectory caller path' session = (.ok directory, session') →
        ∃ metadata, session'.disk.inodes directory.file = some metadata ∧
          metadata.node.isDirectory = true ∧ metadata.owner = caller.uid ∧
          metadata.mode = 0o700#12 := by
  refine ⟨⟨creatable_of_createsMissing hpath hvacant, fun ⟨hnul, hcreatable⟩ ↦
    createsMissing_of_creatable habsolute hpath hvacant hnul hcreatable⟩, ?_⟩
  intro path' session directory session' h
  obtain ⟨-, metadata, -, -, hfile, hcheck⟩ := openDirectory_eq_ok h
  exact ⟨metadata, hfile, check_directory_eq_ok_iff.mp hcheck⟩

/-! ### A configuration directory behind a link -/

def exampleName (text : String) : Name := Text.UnixPath.ofText text.toList

/-- The user's home holds the directory `dots` and the link `.config` to it. -/
def exampleInodes : List (Unix.Inode Name) :=
  [⟨.directory 0 fun name ↦ if name = exampleName "home" then some 1 else none, 0, 0, 0o755#12⟩,
    ⟨.directory 0 fun name ↦
      if name = exampleName ".config" then some 2
      else if name = exampleName "dots" then some 3
      else none, 1000, 1000, 0o700#12⟩,
    ⟨.symlink false [.normal (exampleName "dots")], 1000, 1000, 0o777#12⟩,
    ⟨.directory 1 fun _ ↦ none, 1000, 1000, 0o755#12⟩]

def exampleDisk : Unix.Disk Name where
  inodes i := exampleInodes[i]?
  root := 0
  fresh := exampleInodes.length
  unused _ h := List.getElem?_eq_none h

def exampleCaller : Unix.Caller := ⟨1000, 1000, [], 0o022#12, 40, true⟩

/-- The directory `dots`. -/
def exampleDots : Unix.Inode Name := ⟨.directory 1 fun _ ↦ none, 1000, 1000, 0o755#12⟩

/-- The components of a path in the user's home. -/
def exampleKnown (name : String) : Components := below [] [exampleName "home", exampleName name]

theorem exampleDisk_vacant {name : String} {left : ℕ}
    (hwalk : exampleDisk.walk exampleCaller true 40 0 (exampleKnown name) = .ok (3, left)) :
    exampleDisk.Vacant exampleCaller (exampleKnown name) left 3 exampleDots
      (exampleName "tunnel-deck") where
  walk := hwalk
  enter := rfl
  write := by decide
  absent := rfl

theorem openDirectory_creates_iff_exampleDots :
    CreatesMissing exampleCaller exampleDisk (exampleName "/home/dots/tunnel-deck") 3 exampleDots
      [exampleName "tunnel-deck"] := by
  have hpath : components (exampleName "/home/dots/tunnel-deck") =
      below (exampleKnown "dots") [exampleName "tunnel-deck"] := by decide
  have hwalk : exampleDisk.walk exampleCaller true 40 0 (exampleKnown "dots") = .ok (3, 40) := rfl
  exact (openDirectory_creates_iff (by decide) hpath (exampleDisk_vacant hwalk)).1.mpr
    ⟨by decide, rfl, by decide, by decide, by decide⟩

/-- Behind the link `.config` to `dots` nothing is created, though a directory that the user has
made there is opened. -/
theorem exampleConfig_not_created :
    isAbsolute (exampleName "/home/.config/tunnel-deck") = true ∧
    components (exampleName "/home/.config/tunnel-deck") =
      below (exampleKnown ".config") [exampleName "tunnel-deck"] ∧
    exampleDisk.Vacant exampleCaller (exampleKnown ".config") 39 3 exampleDots
      (exampleName "tunnel-deck") ∧
    ¬CreatesMissing exampleCaller exampleDisk (exampleName "/home/.config/tunnel-deck") 3
      exampleDots [exampleName "tunnel-deck"] ∧
    openDirectory exampleCaller (exampleName "/home/.config/tunnel-deck") (.quiet exampleDisk) =
      (.error ⟨.permissionDenied, "application directory is not a directory or is a symlink"⟩,
        .quiet exampleDisk) ∧
    ∃ directory, openDirectory exampleCaller (exampleName "/home/.config/tunnel-deck") (.quiet
      (made exampleCaller exampleDisk 3 exampleDots [exampleName "tunnel-deck"])) =
        (.ok directory,
          .quiet (made exampleCaller exampleDisk 3 exampleDots [exampleName "tunnel-deck"])) := by
  have habsolute : isAbsolute (exampleName "/home/.config/tunnel-deck") = true := by decide
  have hpath : components (exampleName "/home/.config/tunnel-deck") =
      below (exampleKnown ".config") [exampleName "tunnel-deck"] := by decide
  have hnul : (below (exampleKnown ".config") [exampleName "tunnel-deck"]).any hasNul = false := by
    decide
  have hvacant : exampleDisk.Vacant exampleCaller (exampleKnown ".config") 39 3 exampleDots
      (exampleName "tunnel-deck") := exampleDisk_vacant rfl
  have hlink : exampleDisk.lstat exampleCaller (exampleKnown ".config") =
      .ok ⟨.symlink false [.normal (exampleName "dots")], 1000, 1000, 0o777#12⟩ := rfl
  have hfails : openDirectory exampleCaller (exampleName "/home/.config/tunnel-deck")
      (.quiet exampleDisk) = (.error ⟨.permissionDenied,
        "application directory is not a directory or is a symlink"⟩, .quiet exampleDisk) := by
    unfold openDirectory
    simp only [habsolute, hpath]
    rw [below_singleton] at hnul ⊢
    rw [createDirectories_of_missing hnul (hvacant.lstat []),
      createDirectories_of_file (by decide) hlink rfl]
    rfl
  refine ⟨habsolute, hpath, hvacant, fun h ↦ ?_, hfails, ?_⟩
  · obtain ⟨directory, hopen⟩ := h.creates
    cases hfails.symm.trans hopen
  · obtain ⟨i, up, group, hwalk, hi⟩ := exists_made hvacant []
    exact ⟨_, openDirectory_of_private habsolute (hpath ▸ hnul) (hpath ▸ hwalk) hi⟩

end TunnelDeck.PrivateFs
