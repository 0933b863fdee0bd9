import TunnelDeck.Unix.Calls

/-!
# Files of a directory

The calls that open, make, rename and remove the files of an open directory, and what is in the
files. A rename or a removal changes the directory and a link count. What is in a file changes by
writing to it only.

## Main results

* `entry_addFile`, `entry_removed`, `entry_moved`: the entries after each call.
* `Tidy.addFile`, `Tidy.removed`, `Tidy.moved`: the entries go on to lead somewhere, and a file with
  one link goes on to have one name.
-/

namespace Unix

variable {ν : Type*}

/-- The errors of the calls that must not meet a directory. -/
inductive FileErrno where
  | errno (e : Errno)
  | isDirectory

/-! ## Changing inodes -/

namespace Node

/-- A directory with its entry `name` put in, changed or taken away. -/
def setEntry [DecidableEq ν] (node : Node ν) (name : ν) (i : Option ℕ) : Node ν :=
  match node with
  | directory parent entries => directory parent (Function.update entries name i)
  | node => node

def unlinked : Node ν → Node ν
  | file links => file (links - 1)
  | node => node

theorem child_setEntry [DecidableEq ν] {node : Node ν} (h : node.isDirectory = true) (name : ν)
    (i : Option ℕ) : (fun other ↦ (node.setEntry name i).child (.normal other)) =
      Function.update (fun other ↦ node.child (.normal other)) name i := by
  cases node with
  | directory parent entries => rfl
  | _ => cases h

theorem isDirectory_setEntry [DecidableEq ν] (node : Node ν) (name : ν) (i : Option ℕ) :
    (node.setEntry name i).isDirectory = node.isDirectory := by
  cases node <;> rfl

theorem child_unlinked (node : Node ν) (c : Component ν) :
    node.unlinked.child c = node.child c := by
  cases node <;> rfl

end Node

namespace Disk

/-- The inode `i` with another type or other entries. -/
def modify (disk : Disk ν) (i : ℕ) (f : Node ν → Node ν) : Disk ν where
  inodes := Function.update disk.inodes i
    ((disk.inodes i).map fun inode ↦ { inode with node := f inode.node })
  root := disk.root
  fresh := disk.fresh
  unused := by
    intro j hj
    by_cases h : j = i
    · rw [h, Function.update_self, disk.unused i (h ▸ hj), Option.map_none]
    · rw [Function.update_of_ne h, disk.unused j hj]

/-- Where the entry `name` of the directory `dir` leads. -/
def entry (disk : Disk ν) (dir : ℕ) (name : ν) : Option ℕ :=
  (disk.inodes dir).bind fun inode ↦ inode.node.child (.normal name)

section Modify

variable {disk : Disk ν} {i j : ℕ} {f : Node ν → Node ν} {inode : Inode ν}

theorem modify_inodes : (disk.modify i f).inodes = Function.update disk.inodes i
    ((disk.inodes i).map fun inode ↦ { inode with node := f inode.node }) := rfl

theorem modify_inodes_self (h : disk.inodes i = some inode) :
    (disk.modify i f).inodes i = some { inode with node := f inode.node } := by
  rw [modify_inodes, Function.update_self, h, Option.map_some]

theorem modify_inodes_of_ne (h : j ≠ i) : (disk.modify i f).inodes j = disk.inodes j :=
  Function.update_of_ne h ..

@[simp] theorem modify_fresh : (disk.modify i f).fresh = disk.fresh := rfl

theorem entry_eq {dir : ℕ} (h : disk.inodes dir = some inode) :
    disk.entry dir = fun name ↦ inode.node.child (.normal name) := by
  funext name
  rw [entry, h, Option.bind_some]

theorem entry_eq_child {dir : ℕ} (h : disk.inodes dir = some inode) (name : ν) :
    disk.entry dir name = inode.node.child (.normal name) :=
  congrFun (entry_eq h) name

theorem entry_congr {disk' : Disk ν} {dir : ℕ} (h : disk'.inodes dir = disk.inodes dir) :
    disk'.entry dir = disk.entry dir := by
  funext name
  rw [entry, entry, h]

theorem entry_unlinked (dir : ℕ) : (disk.modify i Node.unlinked).entry dir = disk.entry dir := by
  by_cases h : dir = i
  · subst h
    cases hdir : disk.inodes dir with
    | none =>
      apply entry_congr
      rw [modify_inodes, Function.update_self, hdir, Option.map_none]
    | some inode =>
      rw [entry_eq hdir, entry_eq (modify_inodes_self hdir)]
      funext name
      exact Node.child_unlinked ..
  · exact entry_congr (modify_inodes_of_ne h)

variable [DecidableEq ν]

theorem entry_setEntry {dir : ℕ} (hdir : disk.inodes dir = some inode)
    (hdirectory : inode.node.isDirectory = true) (name : ν) (i : Option ℕ) :
    (disk.modify dir (·.setEntry name i)).entry dir = Function.update (disk.entry dir) name i := by
  rw [entry_eq hdir, entry_eq (modify_inodes_self hdir)]
  exact Node.child_setEntry hdirectory name i

end Modify

/-! ## Tidy directories -/

/-- The directory is one, its entries lead somewhere, and a file with one link has one name in
it. -/
structure Tidy (disk : Disk ν) (dir : ℕ) : Prop where
  directory : ∃ inode, disk.inodes dir = some inode ∧ inode.node.isDirectory = true
  used : ∀ name i, disk.entry dir name = some i → ∃ inode, disk.inodes i = some inode
  single : ∀ name name' i inode, disk.entry dir name = some i → disk.entry dir name' = some i →
    disk.inodes i = some inode → inode.node = .file 1 → name = name'

section Tidy

variable {disk disk' : Disk ν} {dir i : ℕ} {inode : Inode ν}

theorem Tidy.ne_of_file (h : disk.Tidy dir) (hi : disk.inodes i = some inode)
    (hfile : inode.node.isDirectory = false) : i ≠ dir := by
  rintro rfl
  obtain ⟨up, hdir, hdirectory⟩ := h.directory
  obtain rfl := Option.some.inj (hdir.symm.trans hi)
  rw [hfile] at hdirectory
  cases hdirectory

theorem Tidy.ne_fresh {name : ν} (h : disk.Tidy dir) (hi : disk.entry dir name = some i) :
    i ≠ disk.fresh := by
  obtain ⟨inode, hinode⟩ := h.used name i hi
  exact Disk.ne_fresh hinode

/-- A directory stays tidy if its entries lead where they led, save that `name` may be the only one
to lead to `j`. -/
theorem Tidy.of_entries (h : disk.Tidy dir) (name : ν) (j : ℕ)
    (hdir : ∃ inode, disk'.inodes dir = some inode ∧ inode.node.isDirectory = true)
    (hj : ∃ inode, disk'.inodes j = some inode)
    (hentries : ∀ other i, disk'.entry dir other = some i → other = name ∧ i = j ∨
      i ≠ j ∧ disk.entry dir other = some i ∧ (i ≠ dir → disk'.inodes i = disk.inodes i)) :
    disk'.Tidy dir where
  directory := hdir
  used other i hi := by
    rcases hentries other i hi with ⟨-, rfl⟩ | ⟨-, hold, hsame⟩
    · exact hj
    · by_cases hidir : i = dir
      · obtain ⟨inode, hinode, -⟩ := hdir
        exact ⟨inode, hidir ▸ hinode⟩
      · rw [hsame hidir]
        exact h.used other i hold
  single other other' i inode hi hi' hinode hfile := by
    have hidir : i ≠ dir := by
      rintro rfl
      obtain ⟨up, hup, hdirectory⟩ := hdir
      obtain rfl := Option.some.inj (hup.symm.trans hinode)
      rw [hfile] at hdirectory
      cases hdirectory
    rcases hentries other i hi with ⟨rfl, hij⟩ | ⟨hij, hold, hsame⟩ <;>
      rcases hentries other' i hi' with ⟨rfl, hij'⟩ | ⟨hij', hold', -⟩
    · rfl
    · exact absurd hij hij'
    · exact absurd hij' hij
    · exact h.single other other' i inode hold hold' (hsame hidir ▸ hinode) hfile

end Tidy

/-! ## What the calls do -/

theorem unused_update {disk : Disk ν} (inode : Inode ν) {i : ℕ} (hi : disk.fresh + 1 ≤ i) :
    Function.update disk.inodes disk.fresh (some inode) i = none := by
  rw [Function.update_of_ne (by omega), disk.unused i (by omega)]

section Effects

variable [DecidableEq ν]

/-- A new file, the entry `name` of the directory `dir`. -/
def addFile (disk : Disk ν) (dir : ℕ) (name : ν) (owner group : ℕ) (mode : BitVec 12) :
    Disk ν where
  inodes := Function.update (disk.modify dir (·.setEntry name (some disk.fresh))).inodes disk.fresh
    (some ⟨.file 1, owner, group, mode⟩)
  root := disk.root
  fresh := disk.fresh + 1
  unused _ hi := unused_update _ hi

/-- The entry `name`, which leads to `i`, is taken away. -/
def removed (disk : Disk ν) (dir : ℕ) (name : ν) (i : ℕ) : Disk ν :=
  (disk.modify dir (·.setEntry name none)).modify i Node.unlinked

/-- The entry `source`, which leads to `i`, gets the name `target`, of which there may be a file
`replaced`. -/
def moved (disk : Disk ν) (dir : ℕ) (source target : ν) (i : ℕ) (replaced : Option ℕ) : Disk ν :=
  let linked := disk.modify dir fun node ↦ (node.setEntry target (some i)).setEntry source none
  match replaced with
  | none => linked
  | some j => linked.modify j Node.unlinked

variable {disk : Disk ν} {dir i j : ℕ} {inode child : Inode ν} {name source target : ν}

section AddFile

variable {owner group : ℕ} {mode : BitVec 12}

theorem addFile_inodes : (disk.addFile dir name owner group mode).inodes =
    Function.update (disk.modify dir (·.setEntry name (some disk.fresh))).inodes disk.fresh
      (some ⟨.file 1, owner, group, mode⟩) := rfl

@[simp] theorem addFile_fresh :
    (disk.addFile dir name owner group mode).fresh = disk.fresh + 1 := rfl

@[simp] theorem addFile_inodes_fresh :
    (disk.addFile dir name owner group mode).inodes disk.fresh =
      some ⟨.file 1, owner, group, mode⟩ :=
  Function.update_self ..

theorem addFile_inodes_of_ne (hfresh : i ≠ disk.fresh) (hdir : i ≠ dir) :
    (disk.addFile dir name owner group mode).inodes i = disk.inodes i := by
  rw [addFile_inodes, Function.update_of_ne hfresh, modify_inodes_of_ne hdir]

theorem addFile_inodes_dir (hdir : disk.inodes dir = some inode) :
    (disk.addFile dir name owner group mode).inodes dir =
      some { inode with node := inode.node.setEntry name (some disk.fresh) } := by
  rw [addFile_inodes, Function.update_of_ne (ne_fresh hdir), modify_inodes_self hdir]

theorem entry_addFile (h : disk.Tidy dir) :
    (disk.addFile dir name owner group mode).entry dir =
      Function.update (disk.entry dir) name (some disk.fresh) := by
  obtain ⟨inode, hdir, hdirectory⟩ := h.directory
  rw [← entry_setEntry hdir hdirectory]
  apply entry_congr
  rw [addFile_inodes_dir hdir, modify_inodes_self hdir]

theorem Tidy.addFile (h : disk.Tidy dir) : (disk.addFile dir name owner group mode).Tidy dir := by
  obtain ⟨inode, hdir, hdirectory⟩ := h.directory
  refine h.of_entries name disk.fresh
    ⟨_, addFile_inodes_dir hdir, (Node.isDirectory_setEntry ..).trans hdirectory⟩
    ⟨_, addFile_inodes_fresh⟩ fun other i hi ↦ ?_
  rw [entry_addFile h, Function.update_apply] at hi
  split at hi
  case isTrue heq => exact .inl ⟨heq, (Option.some.inj hi).symm⟩
  case isFalse =>
    exact .inr ⟨h.ne_fresh hi, hi, fun hidir ↦ addFile_inodes_of_ne (h.ne_fresh hi) hidir⟩

end AddFile

theorem entry_removed (h : disk.Tidy dir) :
    (disk.removed dir name i).entry dir = Function.update (disk.entry dir) name none := by
  obtain ⟨inode, hdir, hdirectory⟩ := h.directory
  rw [removed, entry_unlinked, entry_setEntry hdir hdirectory]

theorem removed_inodes_of_ne (hdir : j ≠ dir) (hi : j ≠ i) :
    (disk.removed dir name i).inodes j = disk.inodes j := by
  rw [removed, modify_inodes_of_ne hi, modify_inodes_of_ne hdir]

theorem removed_inodes_self (hi : disk.inodes i = some child) (hdir : i ≠ dir) :
    (disk.removed dir name i).inodes i = some { child with node := child.node.unlinked } := by
  rw [removed, modify_inodes_self]
  rwa [modify_inodes_of_ne hdir]

theorem removed_inodes_dir (hdir : disk.inodes dir = some inode) (hi : dir ≠ i) :
    (disk.removed dir name i).inodes dir =
      some { inode with node := inode.node.setEntry name none } := by
  rw [removed, modify_inodes_of_ne hi, modify_inodes_self hdir]

/-- Removing a file that has no other name. -/
theorem Tidy.removed (h : disk.Tidy dir) (hentry : disk.entry dir name = some i)
    (hi : disk.inodes i = some child) (hfile : child.node = .file 1) :
    (disk.removed dir name i).Tidy dir := by
  have hne : i ≠ dir := h.ne_of_file hi (by rw [hfile]; rfl)
  obtain ⟨inode, hdir, hdirectory⟩ := h.directory
  refine h.of_entries name i
    ⟨_, removed_inodes_dir hdir hne.symm, (Node.isDirectory_setEntry ..).trans hdirectory⟩
    ⟨_, removed_inodes_self hi hne⟩ fun other j hj ↦ .inr ?_
  rw [entry_removed h, Function.update_apply] at hj
  split at hj
  case isTrue => cases hj
  case isFalse hother =>
    have hji : j ≠ i := by
      rintro rfl
      exact hother (h.single other name j child hj hentry hi hfile)
    exact ⟨hji, hj, fun hjdir ↦ removed_inodes_of_ne hjdir hji⟩

section Moved

variable {replaced : Option ℕ}

theorem entry_moved (h : disk.Tidy dir) :
    (disk.moved dir source target i replaced).entry dir =
      Function.update (Function.update (disk.entry dir) target (some i)) source none := by
  obtain ⟨inode, hdir, hdirectory⟩ := h.directory
  have hlinked : (disk.modify dir fun node ↦
      (node.setEntry target (some i)).setEntry source none).entry dir =
        Function.update (Function.update (disk.entry dir) target (some i)) source none := by
    rw [entry_eq hdir, entry_eq (modify_inodes_self hdir), Node.child_setEntry,
      Node.child_setEntry hdirectory]
    rwa [Node.isDirectory_setEntry]
  cases replaced with
  | none => exact hlinked
  | some j => exact (entry_unlinked dir).trans hlinked

theorem moved_inodes_of_ne (hdir : j ≠ dir) (hj : replaced ≠ some j) :
    (disk.moved dir source target i replaced).inodes j = disk.inodes j := by
  unfold moved
  cases replaced with
  | none => exact modify_inodes_of_ne hdir
  | some k =>
    exact (modify_inodes_of_ne fun hjk ↦ hj (congrArg some hjk.symm)).trans
      (modify_inodes_of_ne hdir)

theorem moved_inodes_dir (hdir : disk.inodes dir = some inode) (hreplaced : replaced ≠ some dir) :
    (disk.moved dir source target i replaced).inodes dir =
      some { inode with node := (inode.node.setEntry target (some i)).setEntry source none } := by
  unfold moved
  cases replaced with
  | none => exact modify_inodes_self hdir
  | some j =>
    exact (modify_inodes_of_ne fun hj ↦ hreplaced (congrArg some hj.symm)).trans
      (modify_inodes_self hdir)

/-- Renaming a file that has no other name to a name that no other file has, or that is the only one
of a file. -/
theorem Tidy.moved (h : disk.Tidy dir) (hne : source ≠ target)
    (hsource : disk.entry dir source = some i) (hi : disk.inodes i = some child)
    (hfile : child.node = .file 1) (htarget : ∀ j, disk.entry dir target = some j →
      ∃ other, disk.inodes j = some other ∧ other.node = .file 1) :
    (disk.moved dir source target i (disk.entry dir target)).Tidy dir := by
  have hidir : i ≠ dir := h.ne_of_file hi (by rw [hfile]; rfl)
  have hreplaced : disk.entry dir target ≠ some dir := fun hdir ↦ by
    obtain ⟨other, hother, hlinks⟩ := htarget dir hdir
    exact h.ne_of_file hother (by rw [hlinks]; rfl) rfl
  have hsingle {other : ν} (hother : disk.entry dir other = some i) : other = source :=
    h.single other source i child hother hsource hi hfile
  obtain ⟨inode, hdir, hdirectory⟩ := h.directory
  refine h.of_entries target i ⟨_, moved_inodes_dir hdir hreplaced, ?_⟩
    ⟨child, ?_⟩ fun other j hj ↦ ?_
  · rw [Node.isDirectory_setEntry, Node.isDirectory_setEntry, hdirectory]
  · rw [moved_inodes_of_ne hidir fun hti ↦ hne (hsingle hti).symm, hi]
  · rw [entry_moved h, Function.update_apply] at hj
    split at hj
    case isTrue => cases hj
    case isFalse hnesource =>
      rw [Function.update_apply] at hj
      split at hj
      case isTrue heq => exact .inl ⟨heq, (Option.some.inj hj).symm⟩
      case isFalse hnetarget =>
        refine .inr ⟨?_, hj, fun hjdir ↦ moved_inodes_of_ne hjdir fun htj ↦ ?_⟩
        · rintro rfl
          exact hnesource (hsingle hj)
        · obtain ⟨child', hother, hlinks⟩ := htarget j htj
          exact hnetarget (h.single other target j child' hj htj hother hlinks)

end Moved

end Effects

/-! ## Calls -/

section Calls

variable (caller : Caller) (disk : Disk ν) (dir : ℕ)

/-- `openat` for reading, with `O_NOFOLLOW` and `O_NONBLOCK`: the number of the open inode. -/
def openReadAt (name : ν) : Except Errno ℕ :=
  (disk.lookup caller dir (.normal name)).bind fun found ↦
    (disk.stat found.1).bind fun inode ↦
      if inode.node.link.isSome then .error .loop
      else if caller.may .read inode then .ok found.1
      else .error .access

section OpenReadAt

variable {caller disk dir}

theorem openReadAt_eq_ok_iff {name : ν} {i : ℕ} :
    disk.openReadAt caller dir name = .ok i ↔
      ∃ up inode, disk.enter caller dir = .ok up ∧ disk.entry dir name = some i ∧
        disk.inodes i = some inode ∧ inode.node.link = none ∧ caller.may .read inode = true := by
  simp only [openReadAt, bind_eq_ok_iff, stat_eq_ok_iff]
  constructor
  · rintro ⟨⟨j, node⟩, hfound, inode, hinode, h⟩
    obtain ⟨up, child, hup, hchild, hj, -⟩ := lookup_eq_ok_iff.mp hfound
    obtain rfl := Option.some.inj (hj.symm.trans hinode)
    simp only [Option.isSome_iff_ne_none] at h
    split_ifs at h with hlink hread
    obtain rfl := Except.ok.inj h
    refine ⟨up, child, hup, ?_, hj, not_not.mp hlink, hread⟩
    rw [entry_eq_child (enter_eq_ok_iff.mp hup).1, hchild]
  · rintro ⟨up, inode, hup, hentry, hi, hlink, hread⟩
    rw [entry_eq_child (enter_eq_ok_iff.mp hup).1] at hentry
    exact ⟨(i, inode.node), lookup_eq_ok_iff.mpr ⟨up, inode, hup, hentry, hi, rfl⟩, inode, hi, by
      simp [hlink, hread]⟩

theorem enter_ne_noEntry : disk.enter caller dir ≠ .error .noEntry := by
  unfold enter stat
  cases disk.inodes dir with
  | none => simp [Except.bind]
  | some inode =>
    simp only [Except.bind]
    split_ifs <;> simp

/-- Opening says that there is no entry only where there is none. -/
theorem entry_of_openReadAt {name : ν}
    (h : disk.openReadAt caller dir name = .error .noEntry) : disk.entry dir name = none := by
  rw [openReadAt, lookup] at h
  cases henter : disk.enter caller dir with
  | error e =>
    rw [henter] at h
    cases h
    exact absurd henter enter_ne_noEntry
  | ok up =>
    rw [entry_eq_child (enter_eq_ok_iff.mp henter).1]
    simp only [henter, Except.bind] at h
    cases hchild : up.node.child (.normal name) with
    | none => rfl
    | some i =>
      simp only [hchild, stat] at h
      cases hi : disk.inodes i with
      | none => simp [hi] at h
      | some inode =>
        simp only [hi] at h
        split_ifs at h <;> cases h

end OpenReadAt

variable [DecidableEq ν]

/-- `openat` for writing, with `O_CREAT` and `O_EXCL`. The number of the open inode is that of the
next one. -/
def createAt (name : ν) (mode : BitVec 12) : Except Errno (Disk ν) :=
  (disk.enter caller dir).bind fun inode ↦
    if (inode.node.child (.normal name)).isSome then .error .exists
    else if !caller.may .write inode then .error .access
    else .ok (disk.addFile dir name caller.uid (caller.groupIn inode)
      (mode &&& 0o777#12 &&& ~~~caller.umask))

/-- `unlinkat`. -/
def unlinkAt (name : ν) : Except FileErrno (Disk ν) :=
  ((disk.enter caller dir).mapError .errno).bind fun inode ↦
    match inode.node.child (.normal name) with
    | none => .error (.errno .noEntry)
    | some i =>
      if !caller.may .write inode then .error (.errno .access)
      else
        ((disk.stat i).mapError .errno).bind fun child ↦
          if child.node.isDirectory then .error .isDirectory
          else .ok (disk.removed dir name i)

/-- `renameat` within the directory, of an entry that is no directory. -/
def renameAt (source target : ν) : Except FileErrno (Disk ν) :=
  ((disk.enter caller dir).mapError .errno).bind fun inode ↦
    match inode.node.child (.normal source), inode.node.child (.normal target) with
    | none, _ => .error (.errno .noEntry)
    | some i, none =>
      if !caller.may .write inode then .error (.errno .access)
      else .ok (disk.moved dir source target i none)
    | some i, some j =>
      -- two names of one file stay as they are
      if i = j then .ok disk
      else if !caller.may .write inode then .error (.errno .access)
      else
        ((disk.stat j).mapError .errno).bind fun child ↦
          if child.node.isDirectory then .error .isDirectory
          else .ok (disk.moved dir source target i (some j))

variable {caller disk dir}

theorem mapError_eq_ok_iff {ε ε' α : Type*} {x : Except ε α} {f : ε → ε'} {a : α} :
    x.mapError f = .ok a ↔ x = .ok a := by
  cases x <;> simp [Except.mapError]

theorem createAt_eq_ok {name : ν} {mode : BitVec 12} {disk' : Disk ν}
    (h : disk.createAt caller dir name mode = .ok disk') : disk.entry dir name = none ∧
      ∃ up, disk.inodes dir = some up ∧ disk' = disk.addFile dir name caller.uid
        (caller.groupIn up) (mode &&& 0o777#12 &&& ~~~caller.umask) := by
  obtain ⟨up, hup, h⟩ := bind_eq_ok_iff.mp h
  have hdir := (enter_eq_ok_iff.mp hup).1
  split_ifs at h with hentry hwrite
  rw [entry_eq_child hdir]
  exact ⟨Option.not_isSome_iff_eq_none.mp hentry, up, hdir, (Except.ok.inj h).symm⟩

theorem unlinkAt_eq_ok {name : ν} {disk' : Disk ν}
    (h : disk.unlinkAt caller dir name = .ok disk') :
    ∃ i, disk.entry dir name = some i ∧ disk' = disk.removed dir name i := by
  obtain ⟨up, hup, h⟩ := bind_eq_ok_iff.mp h
  rw [entry_eq_child (enter_eq_ok_iff.mp (mapError_eq_ok_iff.mp hup)).1]
  split at h
  · cases h
  · split_ifs at h
    obtain ⟨child, -, h⟩ := bind_eq_ok_iff.mp h
    split_ifs at h
    exact ⟨_, ‹_›, (Except.ok.inj h).symm⟩

theorem renameAt_eq_ok {source target : ν} {disk' : Disk ν}
    (h : disk.renameAt caller dir source target = .ok disk') :
    ∃ i, disk.entry dir source = some i ∧
      (disk.entry dir target = some i ∧ disk' = disk ∨
        disk.entry dir target ≠ some i ∧
          disk' = disk.moved dir source target i (disk.entry dir target)) := by
  obtain ⟨up, hup, h⟩ := bind_eq_ok_iff.mp h
  have hdir := (enter_eq_ok_iff.mp (mapError_eq_ok_iff.mp hup)).1
  rw [entry_eq_child hdir, entry_eq_child hdir]
  split at h
  · cases h
  · rename_i i hsource htarget
    split_ifs at h
    rw [htarget]
    exact ⟨i, hsource, .inr ⟨Option.some_ne_none i |>.symm, (Except.ok.inj h).symm⟩⟩
  · rename_i i j hsource htarget
    by_cases hij : i = j
    · rw [if_pos hij] at h
      exact ⟨i, hsource, .inl ⟨hij ▸ htarget, (Except.ok.inj h).symm⟩⟩
    · rw [if_neg hij] at h
      split_ifs at h
      obtain ⟨child, -, h⟩ := bind_eq_ok_iff.mp h
      split_ifs at h
      rw [htarget]
      exact ⟨i, hsource, .inr ⟨fun heq ↦ hij (Option.some.inj heq).symm, (Except.ok.inj h).symm⟩⟩

end Calls

end Disk

end Unix
