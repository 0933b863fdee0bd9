import Mathlib.Data.List.Basic
import Mathlib.Tactic.Set
import TunnelDeck.Unix.Disk

/-!
# Paths and system calls

A path is walked component by component. A symbolic link on the way is replaced by its target; one
at the end is followed only if the call says so.

## Main results

* `walk_append`: a walk along two paths is a walk along the first, through all its links, and from
  there along the second.
* `walk_mono`: a walk that succeeds ends at the same inode on every larger disk.
* `le_mkdir`: `mkdir` makes the disk larger.
-/

namespace Unix

inductive Errno where
  | noEntry
  | exists
  | access
  | notDirectory
  | loop
  /-- A damaged disk. -/
  | io
  deriving DecidableEq

theorem bind_eq_ok_iff {ε α β : Type*} {x : Except ε α} {f : α → Except ε β} {b : β} :
    x.bind f = .ok b ↔ ∃ a, x = .ok a ∧ f a = .ok b := by
  cases x <;> simp [Except.bind]

namespace Disk

variable {ν : Type*}

/-! ## Walking -/

section Walk

variable (caller : Caller) (disk : Disk ν)

/-- The inode with the number `i`. -/
def stat (i : ℕ) : Except Errno (Inode ν) :=
  match disk.inodes i with
  | none => .error .io
  | some inode => .ok inode

/-- A directory in which the caller looks for an entry. -/
def enter (dir : ℕ) : Except Errno (Inode ν) :=
  (disk.stat dir).bind fun inode ↦
    if !inode.node.isDirectory then .error .notDirectory
    else if !caller.may .search inode then .error .access
    else .ok inode

/-- The number and the type of what a component leads to from `dir`. -/
def lookup (dir : ℕ) (c : Component ν) : Except Errno (ℕ × Node ν) :=
  (disk.enter caller dir).bind fun inode ↦
    match inode.node.child c with
    | none => .error .noEntry
    | some i => (disk.stat i).bind fun child ↦ .ok (i, child.node)

/-- Where the target of a link in `dir` begins. -/
def start (dir : ℕ) (absolute : Bool) : ℕ := if absolute then disk.root else dir

/-- A walk that gives the target of a link, with what comes behind it, to `jump`. -/
def walkWith (follow : Bool) (links : ℕ)
    (jump : ℕ → List (Component ν) → Except Errno (ℕ × ℕ)) :
    ℕ → List (Component ν) → Except Errno (ℕ × ℕ)
  | dir, [] => .ok (dir, links)
  | dir, c :: rest =>
    match disk.lookup caller dir c with
    | .error e => .error e
    | .ok (i, node) =>
      match node.link with
      | none => walkWith follow links jump i rest
      | some (absolute, target) =>
        if rest.isEmpty && !follow then .ok (i, links)
        else jump (disk.start dir absolute) (target ++ rest)

/-- The number of the inode at the end of a path from `dir` that goes through at most `links`
symbolic links, and how many more there might have been. -/
def walk (follow : Bool) : ℕ → ℕ → List (Component ν) → Except Errno (ℕ × ℕ)
  | 0 => disk.walkWith caller follow 0 fun _ _ ↦ .error .loop
  | links + 1 => disk.walkWith caller follow (links + 1) (walk follow links)

/-- Going on at a link. -/
def jump (follow : Bool) (links dir : ℕ) (path : List (Component ν)) : Except Errno (ℕ × ℕ) :=
  match links with
  | 0 => .error .loop
  | links + 1 => disk.walk caller follow links dir path

variable {caller disk} {follow : Bool} {links dir : ℕ}

@[simp] theorem walk_nil : disk.walk caller follow links dir [] = .ok (dir, links) := by
  cases links <;> rfl

theorem walk_cons (c : Component ν) (rest : List (Component ν)) :
    disk.walk caller follow links dir (c :: rest) =
      (disk.lookup caller dir c).bind fun found ↦
        match found.2.link with
        | none => disk.walk caller follow links found.1 rest
        | some (absolute, target) =>
          if rest.isEmpty && !follow then .ok (found.1, links)
          else disk.jump caller follow links (disk.start dir absolute) (target ++ rest) := by
  cases links with
  | zero => rw [walk, walkWith]; cases disk.lookup caller dir c <;> rfl
  | succ links => rw [walk, walkWith]; cases disk.lookup caller dir c <;> rfl

/-- Induction along a walk: over the rest of the path, and over shorter supplies of links for every
path. -/
theorem walk_induction {motive : ℕ → ℕ → List (Component ν) → Prop}
    (nil : ∀ links dir, motive links dir [])
    (cons : ∀ links dir c rest, (∀ i, motive links i rest) →
      (∀ links' < links, ∀ dir path, motive links' dir path) → motive links dir (c :: rest))
    (links dir : ℕ) (path : List (Component ν)) : motive links dir path := by
  induction links using Nat.strongRecOn generalizing dir path with
  | ind links ihlinks =>
    induction path generalizing dir with
    | nil => exact nil links dir
    | cons c rest ih => exact cons links dir c rest ih ihlinks

theorem walk_append (path : List (Component ν)) {rest : List (Component ν)} (hrest : rest ≠ []) :
    disk.walk caller follow links dir (path ++ rest) =
      (disk.walk caller true links dir path).bind fun reached ↦
        disk.walk caller follow reached.2 reached.1 rest := by
  induction links, dir, path using walk_induction with
  | nil links dir =>
    rw [walk_nil]
    rfl
  | cons links dir c path ih ihlinks =>
    rw [List.cons_append, walk_cons, walk_cons]
    cases disk.lookup caller dir c with
    | error e => rfl
    | ok found =>
      simp only [Except.bind]
      cases found.2.link with
      | none => exact ih found.1
      | some link =>
        have hempty : (path ++ rest).isEmpty = false := by simp [hrest]
        simp only [hempty, Bool.false_and, Bool.not_true, Bool.and_false, Bool.false_eq_true,
          if_false, ← List.append_assoc]
        cases links with
        | zero => rfl
        | succ links => exact ihlinks links (Nat.lt_succ_self links) _ _

theorem stat_eq_ok_iff {i : ℕ} {inode : Inode ν} :
    disk.stat i = .ok inode ↔ disk.inodes i = some inode := by
  unfold stat
  cases disk.inodes i <;> simp

theorem enter_eq_ok_iff {inode : Inode ν} :
    disk.enter caller dir = .ok inode ↔ disk.inodes dir = some inode ∧
      inode.node.isDirectory = true ∧ caller.may .search inode = true := by
  rw [enter, bind_eq_ok_iff]
  simp only [stat_eq_ok_iff]
  grind

theorem lookup_eq_ok_iff {c : Component ν} {i : ℕ} {node : Node ν} :
    disk.lookup caller dir c = .ok (i, node) ↔
      ∃ inode child, disk.enter caller dir = .ok inode ∧ inode.node.child c = some i ∧
        disk.inodes i = some child ∧ child.node = node := by
  simp only [lookup, bind_eq_ok_iff]
  constructor
  · rintro ⟨inode, henter, h⟩
    cases hchild : inode.node.child c with
    | none => simp [hchild] at h
    | some j =>
      obtain ⟨child, hj, hfound⟩ := bind_eq_ok_iff.mp (by simpa only [hchild] using h)
      cases hfound
      exact ⟨inode, child, henter, hchild, stat_eq_ok_iff.mp hj, rfl⟩
  · rintro ⟨inode, child, henter, hchild, hi, rfl⟩
    refine ⟨inode, henter, ?_⟩
    simp only [hchild]
    exact bind_eq_ok_iff.mpr ⟨child, stat_eq_ok_iff.mpr hi, rfl⟩

/-- Where a link at the end is not followed, the walk ends at the link. -/
theorem walk_nofollow {path : List (Component ν)} {reached : ℕ × ℕ}
    (h : disk.walk caller true links dir path = .ok reached) :
    disk.walk caller false links dir path = .ok reached ∨
      ∃ i left inode, disk.walk caller false links dir path = .ok (i, left) ∧
        disk.inodes i = some inode ∧ inode.node.link.isSome = true := by
  obtain rfl | ⟨front, c, rfl⟩ := path.eq_nil_or_concat'
  · exact .inl (by simpa using h)
  · rw [walk_append front (List.cons_ne_nil c [])] at h ⊢
    cases hfront : disk.walk caller true links dir front with
    | error e => simp [hfront, Except.bind] at h
    | ok up =>
      simp only [hfront, Except.bind, walk_cons] at h ⊢
      cases hfound : disk.lookup caller up.1 c with
      | error e => simp [hfound] at h
      | ok found =>
        obtain ⟨-, child, -, -, hi, hnode⟩ := lookup_eq_ok_iff.mp hfound
        simp only [hfound] at h ⊢
        cases hlink : found.2.link with
        | none => exact .inl (by simpa [hlink] using h)
        | some link => exact .inr ⟨found.1, up.2, child, by simp, hi, by rw [hnode, hlink]; rfl⟩

section Order

variable {disk' : Disk ν}

theorem enter_mono (hle : disk ≤ disk') {inode : Inode ν}
    (h : disk.enter caller dir = .ok inode) :
    ∃ node, disk'.enter caller dir = .ok { inode with node } ∧ node.Extends inode.node := by
  obtain ⟨hdir, hdirectory, hsearch⟩ := enter_eq_ok_iff.mp h
  obtain ⟨node, hnode, hext⟩ := hle.2 dir inode hdir
  exact ⟨node, enter_eq_ok_iff.mpr ⟨hnode, hext.isDirectory_eq.trans hdirectory, hsearch⟩, hext⟩

theorem lookup_mono (hle : disk ≤ disk') {c : Component ν} {i : ℕ} {node : Node ν}
    (h : disk.lookup caller dir c = .ok (i, node)) :
    ∃ node', disk'.lookup caller dir c = .ok (i, node') ∧ node'.Extends node := by
  obtain ⟨inode, child, henter, hchild, hi, rfl⟩ := lookup_eq_ok_iff.mp h
  obtain ⟨up, hup, hextup⟩ := enter_mono hle henter
  obtain ⟨down, hdown, hextdown⟩ := hle.2 i child hi
  exact ⟨down, lookup_eq_ok_iff.mpr ⟨_, _, hup, hextup.child_eq hchild, hdown, rfl⟩, hextdown⟩

theorem walk_mono (hle : disk ≤ disk') {path : List (Component ν)} {reached : ℕ × ℕ}
    (h : disk.walk caller follow links dir path = .ok reached) :
    disk'.walk caller follow links dir path = .ok reached := by
  induction links, dir, path using walk_induction with
  | nil links dir => simpa using h
  | cons links dir c rest ih ihlinks =>
    rw [walk_cons] at h ⊢
    cases hfound : disk.lookup caller dir c with
    | error e => simp [hfound, Except.bind] at h
    | ok found =>
      obtain ⟨node', hfound', hext⟩ := lookup_mono hle hfound
      have hstart (absolute : Bool) : disk'.start dir absolute = disk.start dir absolute := by
        rw [start, start, hle.1]
      simp only [hfound, hfound', Except.bind, hext.link_eq, hstart] at h ⊢
      cases hlink : found.2.link with
      | none =>
        rw [hlink] at h
        exact ih found.1 h
      | some link =>
        simp only [hlink] at h ⊢
        split
        case isTrue hlast => rwa [if_pos hlast] at h
        case isFalse hlast =>
          rw [if_neg hlast] at h
          cases links with
          | zero => cases h
          | succ links => exact ihlinks links (Nat.lt_succ_self links) _ _ h

end Order

end Walk

/-! ## Calls -/

section Calls

variable (caller : Caller) (disk : Disk ν) (path : List (Component ν))

/-- `lstat`. -/
def lstat : Except Errno (Inode ν) :=
  (disk.walk caller false caller.maxLinks disk.root path).bind fun reached ↦ disk.stat reached.1

/-- `open` for reading, with `O_NOFOLLOW` unless `follow` and with `O_DIRECTORY` if `directory`: the
number of the open inode. -/
def openRead (follow directory : Bool) : Except Errno ℕ :=
  (disk.walk caller follow caller.maxLinks disk.root path).bind fun reached ↦
    (disk.stat reached.1).bind fun inode ↦
      if directory && !inode.node.isDirectory then .error .notDirectory
      else if inode.node.link.isSome then .error .loop
      else if caller.may .read inode then .ok reached.1
      else .error .access

variable {caller disk path}

theorem lstat_eq_ok_iff {inode : Inode ν} :
    disk.lstat caller path = .ok inode ↔
      ∃ reached, disk.walk caller false caller.maxLinks disk.root path = .ok reached ∧
        disk.inodes reached.1 = some inode := by
  simp [lstat, bind_eq_ok_iff, stat_eq_ok_iff]

theorem openRead_eq_ok_iff {follow directory : Bool} {i : ℕ} :
    disk.openRead caller path follow directory = .ok i ↔
      ∃ left inode, disk.walk caller follow caller.maxLinks disk.root path = .ok (i, left) ∧
        disk.inodes i = some inode ∧ (directory = true → inode.node.isDirectory = true) ∧
        inode.node.link = none ∧ caller.may .read inode = true := by
  simp only [openRead, bind_eq_ok_iff, stat_eq_ok_iff]
  constructor
  · rintro ⟨⟨j, left⟩, hwalk, inode, hj, h⟩
    simp only [Option.isSome_iff_ne_none] at h
    grind
  · rintro ⟨left, inode, hwalk, hi, hdirectory, hlink, hread⟩
    exact ⟨(i, left), hwalk, inode, hi, by simp [hlink, hread]; simpa using hdirectory⟩

end Calls

section Mkdir

variable [DecidableEq ν] (caller : Caller) (disk : Disk ν) (path : List (Component ν))

/-- Making a directory as the entry `last` of the directory `dir`. -/
def mkdirAt (dir : ℕ) (last : Component ν) (mode : BitVec 12) : Except Errno (Disk ν) :=
  (disk.enter caller dir).bind fun inode ↦
    match last with
    | .parentDir => .error .exists
    | .normal name =>
      if (inode.node.child (.normal name)).isSome then .error .exists
      else if !caller.may .write inode then .error .access
      else .ok (disk.addDirectory dir name caller.uid (caller.groupIn inode)
        (caller.modeIn inode mode))

/-- `mkdir`. -/
def mkdir (mode : BitVec 12) : Except Errno (Disk ν) :=
  match path.getLast? with
  | none => .error .exists
  | some last =>
    (disk.walk caller true caller.maxLinks disk.root path.dropLast).bind fun reached ↦
      disk.mkdirAt caller reached.1 last mode

variable {caller disk path} {mode : BitVec 12} {disk' : Disk ν}

theorem mkdirAt_eq_ok_iff {dir : ℕ} {last : Component ν} :
    disk.mkdirAt caller dir last mode = .ok disk' ↔
      ∃ inode name, disk.enter caller dir = .ok inode ∧ caller.may .write inode = true ∧
        last = .normal name ∧ inode.node.child (.normal name) = none ∧
        disk' = disk.addDirectory dir name caller.uid (caller.groupIn inode)
          (caller.modeIn inode mode) := by
  rw [mkdirAt, bind_eq_ok_iff]
  constructor
  · rintro ⟨inode, henter, h⟩
    cases last with
    | parentDir => cases h
    | normal name =>
      simp only [Option.isSome_iff_ne_none] at h
      grind
  · rintro ⟨inode, name, henter, hwrite, rfl, habsent, rfl⟩
    exact ⟨inode, henter, by simp [habsent, hwrite]⟩

theorem mkdir_concat_eq_ok_iff {last : Component ν} :
    disk.mkdir caller (path ++ [last]) mode = .ok disk' ↔
      ∃ reached, disk.walk caller true caller.maxLinks disk.root path = .ok reached ∧
        disk.mkdirAt caller reached.1 last mode = .ok disk' := by
  simp [mkdir, bind_eq_ok_iff]

theorem le_mkdir (h : disk.mkdir caller path mode = .ok disk') : disk ≤ disk' := by
  obtain rfl | ⟨front, last, rfl⟩ := path.eq_nil_or_concat'
  · cases h
  · obtain ⟨reached, -, hat⟩ := mkdir_concat_eq_ok_iff.mp h
    obtain ⟨inode, name, henter, -, -, habsent, rfl⟩ := mkdirAt_eq_ok_iff.mp hat
    exact le_addDirectory name _ _ _ (enter_eq_ok_iff.mp henter).1 habsent

end Mkdir

/-! ## Places for a new entry -/

/-- `path` leads, through any links, to the directory `dir`, in which the caller may make the entry
`name` and there is none. -/
structure Vacant (caller : Caller) (disk : Disk ν) (path : List (Component ν)) (left dir : ℕ)
    (inode : Inode ν) (name : ν) : Prop where
  walk : disk.walk caller true caller.maxLinks disk.root path = .ok (dir, left)
  enter : disk.enter caller dir = .ok inode
  write : caller.may .write inode = true
  absent : inode.node.child (.normal name) = none

namespace Vacant

variable {caller : Caller} {disk : Disk ν} {path : List (Component ν)} {left dir : ℕ}
  {inode : Inode ν} {name : ν}

theorem inodes (h : disk.Vacant caller path left dir inode name) : disk.inodes dir = some inode :=
  (enter_eq_ok_iff.mp h.enter).1

/-- Nothing is there, nor below. -/
theorem lstat (h : disk.Vacant caller path left dir inode name) (rest : List (Component ν)) :
    disk.lstat caller (path ++ .normal name :: rest) = .error .noEntry := by
  have hlookup : disk.lookup caller dir (.normal name) = .error .noEntry := by
    simp [lookup, h.enter, h.absent, Except.bind]
  rw [Disk.lstat, walk_append path (List.cons_ne_nil _ _), h.walk]
  simp [Except.bind, walk_cons, hlookup]

theorem lstat_path (h : disk.Vacant caller path left dir inode name) :
    disk.lstat caller path = .ok inode ∨
      ∃ inode', disk.lstat caller path = .ok inode' ∧ inode'.node.isDirectory = false := by
  rcases walk_nofollow h.walk with hwalk | ⟨i, left', inode', hwalk, hi, hlink⟩
  · exact .inl (lstat_eq_ok_iff.mpr ⟨_, hwalk, h.inodes⟩)
  · refine .inr ⟨inode', lstat_eq_ok_iff.mpr ⟨_, hwalk, hi⟩, ?_⟩
    cases hnode : inode'.node <;> simp_all [Node.link, Node.isDirectory]

variable [DecidableEq ν]

theorem mkdir (h : disk.Vacant caller path left dir inode name) (mode : BitVec 12) :
    disk.mkdir caller (path ++ [.normal name]) mode =
      .ok (disk.addDirectory dir name caller.uid (caller.groupIn inode)
        (caller.modeIn inode mode)) :=
  mkdir_concat_eq_ok_iff.mpr ⟨_, h.walk,
    mkdirAt_eq_ok_iff.mpr ⟨inode, name, h.enter, h.write, rfl, h.absent, rfl⟩⟩

theorem le_addDirectory (h : disk.Vacant caller path left dir inode name) (owner group : ℕ)
    (mode : BitVec 12) : disk ≤ disk.addDirectory dir name owner group mode :=
  Disk.le_addDirectory name owner group mode h.inodes h.absent

theorem walk_addDirectory (h : disk.Vacant caller path left dir inode name) (owner group : ℕ)
    (mode : BitVec 12) (follow : Bool) :
    (disk.addDirectory dir name owner group mode).walk caller follow caller.maxLinks disk.root
      (path ++ [.normal name]) = .ok (disk.fresh, left) := by
  set disk' := disk.addDirectory dir name owner group mode with hdisk'
  obtain ⟨hdir, hdirectory, hsearch⟩ := enter_eq_ok_iff.mp h.enter
  have hdir' := addDirectory_inodes_self name owner group mode hdir
  have henter : disk'.enter caller dir =
      .ok { inode with node := inode.node.addEntry name disk.fresh } :=
    enter_eq_ok_iff.mpr ⟨hdir',
      (Node.extends_addEntry disk.fresh h.absent).isDirectory_eq.trans hdirectory, hsearch⟩
  have hlookup : disk'.lookup caller dir (.normal name) =
      .ok (disk.fresh, .directory dir fun _ ↦ none) :=
    lookup_eq_ok_iff.mpr ⟨_, _, henter, Node.child_addEntry name disk.fresh hdirectory,
      addDirectory_inodes_fresh .., rfl⟩
  rw [walk_append path (List.cons_ne_nil _ _), walk_mono (h.le_addDirectory ..) h.walk]
  simp [Except.bind, walk_cons, hlookup, Node.link]

theorem openRead_addDirectory (h : disk.Vacant caller path left dir inode name) (owner group : ℕ)
    (mode : BitVec 12) :
    (disk.addDirectory dir name owner group mode).openRead caller path true false =
      if caller.may .read inode then .ok dir else .error .access := by
  obtain ⟨hdir, hdirectory, -⟩ := enter_eq_ok_iff.mp h.enter
  have hdir' := addDirectory_inodes_self name owner group mode hdir
  have hlink : (inode.node.addEntry name disk.fresh).link = none := by
    cases hnode : inode.node <;> simp_all [Node.isDirectory, Node.addEntry, Node.link]
  rw [openRead, addDirectory_root, walk_mono (h.le_addDirectory ..) h.walk]
  simp only [Except.bind, stat_eq_ok_iff.mpr hdir', Bool.false_and, Bool.false_eq_true, if_false,
    hlink, Option.isSome_none]
  rfl

/-- A new directory that is the caller's alone is such a place for every name. -/
theorem addDirectory (h : disk.Vacant caller path left dir inode name) (group : ℕ) (next : ν) :
    (disk.addDirectory dir name caller.uid group 0o700#12).Vacant caller (path ++ [.normal name])
      left disk.fresh ⟨.directory dir fun _ ↦ none, caller.uid, group, 0o700#12⟩ next where
  walk := h.walk_addDirectory caller.uid group 0o700#12 true
  enter := enter_eq_ok_iff.mpr ⟨addDirectory_inodes_fresh .., rfl, Caller.may_of_owner rfl rfl _⟩
  write := Caller.may_of_owner rfl rfl _
  absent := rfl

end Vacant

end Disk

/-! ## Other processes -/

/-- A disk that other processes change. -/
structure Session (ν : Type*) where
  disk : Disk ν
  /-- What the others do before each of the calls to come. -/
  others : List (Disk ν → Disk ν)

namespace Session

variable {ν : Type*}

/-- A disk that nobody else changes. -/
def quiet (disk : Disk ν) : Session ν := ⟨disk, []⟩

/-- The others have their turn. -/
def turn (session : Session ν) : Session ν :=
  match session.others with
  | [] => session
  | change :: others => ⟨change session.disk, others⟩

@[simp] theorem turn_quiet (disk : Disk ν) : (quiet disk).turn = quiet disk := rfl

@[simp] theorem quiet_disk (disk : Disk ν) : (quiet disk).disk = disk := rfl

end Session

end Unix
