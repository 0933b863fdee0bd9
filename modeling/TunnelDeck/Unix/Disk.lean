import Mathlib.Data.Nat.Notation
import Mathlib.Logic.Function.Basic
import Mathlib.Order.Defs.PartialOrder

/-!
# A Unix file system

Inodes are numbered, and a directory names the inodes of its entries. Names are of any type `ν`. A
`Caller` is the process whose system calls are looked at, with what its kernel lets it do.

Disks are ordered: `disk ≤ disk'` when everything on `disk` is on `disk'` as it was, save that
directories may have got entries.
-/

namespace Unix

/-! ## Inodes -/

/-- What stands between two slashes of a path. -/
inductive Component (ν : Type*) where
  | parentDir
  | normal (name : ν)
  deriving DecidableEq

/-- An inode, by its type. -/
inductive Node (ν : Type*) where
  /-- The number of the directory above, and the numbers of the entries. -/
  | directory (parent : ℕ) (entries : ν → Option ℕ)
  | symlink (absolute : Bool) (target : List (Component ν))
  | file (links : ℕ)
  /-- A pipe, a socket or a device. -/
  | special

structure Inode (ν : Type*) where
  node : Node ν
  owner : ℕ
  group : ℕ
  /-- The permission bits, below set-user-ID, set-group-ID and the sticky bit. -/
  mode : BitVec 12

variable {ν : Type*}

namespace Node

def isDirectory : Node ν → Bool
  | directory .. => true
  | _ => false

/-- Where a symbolic link leads: whether from the root, and along which path. -/
def link : Node ν → Option (Bool × List (Component ν))
  | symlink absolute target => some (absolute, target)
  | _ => none

def child : Node ν → Component ν → Option ℕ
  | directory parent _, .parentDir => some parent
  | directory _ entries, .normal name => entries name
  | _, _ => none

def addEntry [DecidableEq ν] (node : Node ν) (name : ν) (i : ℕ) : Node ν :=
  match node with
  | directory parent entries => directory parent (Function.update entries name (some i))
  | node => node

/-- `node'` is `node`, save that a directory may have got entries. -/
def Extends (node' : Node ν) : Node ν → Prop
  | directory parent entries => ∃ entries', node' = directory parent entries' ∧
      ∀ name i, entries name = some i → entries' name = some i
  | node => node' = node

theorem Extends.refl (node : Node ν) : node.Extends node := by
  cases node with
  | directory parent entries => exact ⟨entries, rfl, fun _ _ h ↦ h⟩
  | _ => rfl

theorem Extends.trans {node₁ node₂ node₃ : Node ν} (h₂ : node₃.Extends node₂)
    (h₁ : node₂.Extends node₁) : node₃.Extends node₁ := by
  cases node₁ with
  | directory parent entries =>
    obtain ⟨entries₂, rfl, hentries₂⟩ := h₁
    obtain ⟨entries₃, rfl, hentries₃⟩ := h₂
    exact ⟨entries₃, rfl, fun name i h ↦ hentries₃ name i (hentries₂ name i h)⟩
  | symlink | file | special =>
    obtain rfl : node₂ = _ := h₁
    exact h₂

theorem Extends.isDirectory_eq {node' node : Node ν} (h : node'.Extends node) :
    node'.isDirectory = node.isDirectory := by
  cases node with
  | directory parent entries =>
    obtain ⟨entries', rfl, -⟩ := h
    rfl
  | _ => rw [show node' = _ from h]

theorem Extends.link_eq {node' node : Node ν} (h : node'.Extends node) :
    node'.link = node.link := by
  cases node with
  | directory parent entries =>
    obtain ⟨entries', rfl, -⟩ := h
    rfl
  | _ => rw [show node' = _ from h]

theorem Extends.child_eq {node' node : Node ν} (h : node'.Extends node) {c : Component ν} {i : ℕ}
    (hi : node.child c = some i) : node'.child c = some i := by
  cases node with
  | directory parent entries =>
    obtain ⟨entries', rfl, hentries⟩ := h
    cases c with
    | parentDir => exact hi
    | normal name => exact hentries name i hi
  | _ => cases hi

theorem extends_addEntry [DecidableEq ν] {node : Node ν} {name : ν} (i : ℕ)
    (h : node.child (.normal name) = none) : (node.addEntry name i).Extends node := by
  cases node with
  | directory parent entries =>
    refine ⟨_, rfl, fun name' j hj ↦ ?_⟩
    have hne : name' ≠ name := fun heq ↦ by
      rw [heq, show entries name = none from h] at hj
      cases hj
    rw [Function.update_of_ne hne, hj]
  | _ => rfl

theorem child_addEntry [DecidableEq ν] {node : Node ν} (name : ν) (i : ℕ)
    (h : node.isDirectory = true) : (node.addEntry name i).child (.normal name) = some i := by
  cases node with
  | directory parent entries => exact Function.update_self ..
  | _ => cases h

end Node

/-! ## Permissions -/

inductive Access where
  | read
  | write
  | search

/-- The place of an access among the three bits of a class. -/
def Access.bit : Access → ℕ
  | read => 2
  | write => 1
  | search => 0

/-- A process and the kernel it runs on. -/
structure Caller where
  /-- The effective user. -/
  uid : ℕ
  gid : ℕ
  groups : List ℕ
  umask : BitVec 12
  /-- How many symbolic links one path may go through. -/
  maxLinks : ℕ
  /-- Whether new directories get their set-group-ID bit from the one they are in, as on Linux. On
  a BSD they get the group instead. -/
  passesSetgid : Bool

namespace Caller

/-- Whether the permission bits of an inode let the caller access it. -/
def may (caller : Caller) (access : Access) (inode : Inode ν) : Bool :=
  caller.uid = 0 ||
    if caller.uid = inode.owner then inode.mode.getLsbD (access.bit + 6)
    else if inode.group = caller.gid ∨ inode.group ∈ caller.groups then
      inode.mode.getLsbD (access.bit + 3)
    else inode.mode.getLsbD access.bit

/-- Whether a directory hands its set-group-ID bit to a new one in it. -/
def inherits (caller : Caller) (above : Inode ν) : Bool :=
  caller.passesSetgid && above.mode.getLsbD 10

/-- The group of a new directory. -/
def groupIn (caller : Caller) (above : Inode ν) : ℕ :=
  if !caller.passesSetgid || caller.inherits above then above.group else caller.gid

/-- The mode of a new directory. -/
def modeIn (caller : Caller) (above : Inode ν) (mode : BitVec 12) : BitVec 12 :=
  (mode &&& 0o777#12 &&& ~~~caller.umask) ||| if caller.inherits above then 0o2000#12 else 0#12

end Caller

theorem and_not_eq_self_iff {w : ℕ} (x u : BitVec w) : x &&& ~~~u = x ↔ u &&& x = 0#w := by
  constructor
  · intro h
    rw [← h, BitVec.and_comm, BitVec.and_assoc, BitVec.not_and_self]
    simp
  · intro h
    ext i hi
    have hbit := congrArg (·.getLsbD i) h
    simp at hbit ⊢
    grind

/-- A new directory gets the mode asked for just if the umask leaves it alone and the directory it
is in does not add to it. -/
theorem Caller.modeIn_eq_self_iff (caller : Caller) (above : Inode ν) {mode : BitVec 12}
    (hmode : mode &&& 0o777#12 = mode) :
    caller.modeIn above mode = mode ↔
      caller.umask &&& mode = 0#12 ∧ caller.inherits above = false := by
  have hbit : mode.getLsbD 10 = false := by
    rw [← hmode, BitVec.getLsbD_and]
    simp
  rw [modeIn, hmode]
  cases caller.inherits above with
  | true =>
    have hne : mode &&& ~~~caller.umask ||| 0o2000#12 ≠ mode := fun h ↦ by
      rw [← h, BitVec.getLsbD_or] at hbit
      simp at hbit
    simpa using hne
  | false => simpa using and_not_eq_self_iff mode caller.umask

/-- A directory that is the caller's alone is open to it in every way. -/
theorem Caller.may_of_owner {caller : Caller} {inode : Inode ν} (hmode : inode.mode = 0o700#12)
    (howner : inode.owner = caller.uid) (access : Access) : caller.may access inode = true := by
  cases access <;> simp [may, howner, hmode, Access.bit]

/-! ## Disks -/

structure Disk (ν : Type*) where
  inodes : ℕ → Option (Inode ν)
  root : ℕ
  /-- The number of the next inode. -/
  fresh : ℕ
  unused : ∀ i, fresh ≤ i → inodes i = none

namespace Disk

/-- `inode` is on `disk` as it was, save that a directory may have got entries. -/
def Has (disk : Disk ν) (i : ℕ) (inode : Inode ν) : Prop :=
  ∃ node, disk.inodes i = some { inode with node } ∧ node.Extends inode.node

instance : LE (Disk ν) where
  le disk disk' := disk'.root = disk.root ∧
    ∀ i inode, disk.inodes i = some inode → disk'.Has i inode

instance : Preorder (Disk ν) where
  le_refl disk := ⟨rfl, fun _ inode h ↦ ⟨inode.node, h, .refl _⟩⟩
  le_trans _ _ _ h₁ h₂ := by
    refine ⟨h₂.1.trans h₁.1, fun i inode hi ↦ ?_⟩
    obtain ⟨node₂, hnode₂, hext₂⟩ := h₁.2 i inode hi
    obtain ⟨node₃, hnode₃, hext₃⟩ := h₂.2 i _ hnode₂
    exact ⟨node₃, hnode₃, hext₃.trans hext₂⟩

theorem ne_fresh {disk : Disk ν} {i : ℕ} {inode : Inode ν} (hi : disk.inodes i = some inode) :
    i ≠ disk.fresh := by
  rintro rfl
  simp [disk.unused _ (Nat.le_refl _)] at hi

variable [DecidableEq ν]

/-- A new directory, the entry `name` of the directory `dir`. -/
def addDirectory (disk : Disk ν) (dir : ℕ) (name : ν) (owner group : ℕ) (mode : BitVec 12) :
    Disk ν where
  inodes := Function.update
    (Function.update disk.inodes dir ((disk.inodes dir).map fun inode ↦
      { inode with node := inode.node.addEntry name disk.fresh }))
    disk.fresh (some ⟨.directory dir fun _ ↦ none, owner, group, mode⟩)
  root := disk.root
  fresh := disk.fresh + 1
  unused := by
    intro i hi
    rw [Function.update_of_ne (by omega)]
    by_cases hdir : i = dir
    · rw [hdir, Function.update_self, disk.unused dir (by omega), Option.map_none]
    · rw [Function.update_of_ne hdir, disk.unused i (by omega)]

section AddDirectory

variable (disk : Disk ν) (dir : ℕ) (name : ν) (owner group : ℕ) (mode : BitVec 12)

theorem addDirectory_inodes : (disk.addDirectory dir name owner group mode).inodes =
    Function.update
      (Function.update disk.inodes dir ((disk.inodes dir).map fun inode ↦
        { inode with node := inode.node.addEntry name disk.fresh }))
      disk.fresh (some ⟨.directory dir fun _ ↦ none, owner, group, mode⟩) := rfl

@[simp] theorem addDirectory_root :
    (disk.addDirectory dir name owner group mode).root = disk.root := rfl

@[simp] theorem addDirectory_fresh :
    (disk.addDirectory dir name owner group mode).fresh = disk.fresh + 1 := rfl

@[simp] theorem addDirectory_inodes_fresh :
    (disk.addDirectory dir name owner group mode).inodes disk.fresh =
      some ⟨.directory dir fun _ ↦ none, owner, group, mode⟩ :=
  Function.update_self ..

variable {disk dir}

theorem addDirectory_inodes_self {inode : Inode ν} (hdir : disk.inodes dir = some inode) :
    (disk.addDirectory dir name owner group mode).inodes dir =
      some { inode with node := inode.node.addEntry name disk.fresh } := by
  rw [addDirectory_inodes, Function.update_of_ne (ne_fresh hdir), Function.update_self, hdir,
    Option.map_some]

theorem addDirectory_inodes_of_ne {i : ℕ} {inode : Inode ν} (hi : disk.inodes i = some inode)
    (hdir : i ≠ dir) :
    (disk.addDirectory dir name owner group mode).inodes i = some inode := by
  rw [addDirectory_inodes, Function.update_of_ne (ne_fresh hi), Function.update_of_ne hdir, hi]

theorem le_addDirectory {inode : Inode ν} (hdir : disk.inodes dir = some inode)
    (habsent : inode.node.child (.normal name) = none) :
    disk ≤ disk.addDirectory dir name owner group mode := by
  refine ⟨rfl, fun i inode' hi ↦ ?_⟩
  by_cases h : i = dir
  · obtain rfl : inode = inode' := Option.some.inj (hdir.symm.trans (h ▸ hi))
    rw [h]
    exact ⟨_, addDirectory_inodes_self name owner group mode hdir, Node.extends_addEntry _ habsent⟩
  · exact ⟨inode'.node, addDirectory_inodes_of_ne name owner group mode hi h, .refl _⟩

end AddDirectory

/-- The directories `names`, each an entry of the one before, the first one of `dir`. -/
def addDirectories (caller : Caller) (mode : BitVec 12) :
    Disk ν → ℕ → Inode ν → List ν → Disk ν
  | disk, _, _, [] => disk
  | disk, dir, above, name :: names =>
    addDirectories caller mode
      (disk.addDirectory dir name caller.uid (caller.groupIn above) mode) disk.fresh
      ⟨.directory dir fun _ ↦ none, caller.uid, caller.groupIn above, mode⟩ names

theorem le_addDirectories {caller : Caller} {mode : BitVec 12} {disk : Disk ν} {dir : ℕ}
    {above : Inode ν} {names : List ν} (hdir : disk.inodes dir = some above)
    (habsent : ∀ name ∈ names.head?, above.node.child (.normal name) = none) :
    disk ≤ disk.addDirectories caller mode dir above names := by
  induction names generalizing disk dir above with
  | nil => exact le_refl disk
  | cons name names ih =>
    exact le_trans (le_addDirectory name _ _ _ hdir (habsent name rfl))
      (ih (addDirectory_inodes_fresh ..) fun _ _ ↦ rfl)

end Disk

end Unix
