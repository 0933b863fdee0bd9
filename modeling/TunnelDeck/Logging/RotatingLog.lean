import Std.Data.String.ToNat
import TunnelDeck.Combinatorics.Generations
import TunnelDeck.Concurrency.Run
import TunnelDeck.Config.Store

/-!
# The rotating log

`RotatingLog::write` appends one line to the active file. A line that would make the file too large
is preceded by a rotation: the oldest backup is removed, every other one gets the next number and
the active file becomes the first. A rotation is a chain of renames that can stop at any of them,
and the next write begins another one on what is there, with a gap in the numbers.

Every step on the file system can fail. One that fails has no effect, and a file is reported as
missing exactly when it is.

## Main results

* `Kept`: the files hold a list of records in generations.
* `Kept.write`: what a write does to that list, however its steps go.
* `log_is_suffix`: what the files hold after any writes, and what one more write does to it.
-/

namespace TunnelDeck.Logging

open Concurrency Generations

/-! ## Files -/

abbrev OsString := List UInt8

def utf8 (s : String) : OsString := s.toByteArray.data.toList

/-- The private directory of the log, where every entry is a regular file of the user. -/
abbrev Files := OsString → Option String

/-- A failure that is not the absence of a file. -/
structure Fault where
  error : IoError
  present : error.kind ≠ .notFound

def noSuchFile : IoError := ⟨.notFound, "No such file or directory (os error 2)"⟩

namespace Files

/-- `PrivateDirectory::read`. -/
def read (files : Files) (fault : Option Fault) (name : OsString) : Except IoError String :=
  match fault, files name with
  | some fault, _ => .error fault.error
  | none, some contents => .ok contents
  | none, none => .error noSuchFile

/-- `PrivateDirectory::remove`. -/
def remove (files : Files) (fault : Option Fault) (name : OsString) : Except IoError Files :=
  match fault, files name with
  | some fault, _ => .error fault.error
  | none, some _ => .ok (Function.update files name none)
  | none, none => .error noSuchFile

/-- `PrivateDirectory::rename`, which replaces the target. -/
def rename (files : Files) (fault : Option Fault) (source target : OsString) :
    Except IoError Files :=
  match fault, files source with
  | some fault, _ => .error fault.error
  | none, some contents =>
    .ok (Function.update (Function.update files target (some contents)) source none)
  | none, none => .error noSuchFile

/-- The match on a removal or a rename: a missing file is as good as one that was there. -/
def unlessMissing (files : Files) : Except IoError Files → Except IoError Files
  | .ok files => .ok files
  | .error error => if error.kind = .notFound then .ok files else .error error

end Files

/-! ## The log -/

structure RotatingLog where
  name : OsString
  maxBytes : ℕ
  backups : ℕ

/-- The steps of a write on the file system. -/
inductive Call where
  | validate (index : ℕ)
  | read
  | metadata
  | remove
  /-- The rename of the file with this number, where 0 is the active file. -/
  | rename (index : ℕ)
  | sync
  | append
  | write
  | flush
  deriving DecidableEq

abbrev Faults := Call → Option Fault

/-- How a write ends: its result, the files, and the line if `write_all` has appended it. -/
structure Written where
  result : Except IoError Unit
  files : Files
  appended : List String

def rotatedName (name : OsString) (index : ℕ) : OsString :=
  name ++ utf8 ("." ++ toString index)

def singleLine (value : String) : String :=
  value.map fun c ↦ if c = '\n' ∨ c = '\r' ∨ c = '\t' then ' ' else c

def record (level message : String) : String :=
  singleLine level ++ "\t" ++ singleLine message ++ "\n"

def tooLong : IoError := ⟨.other, "log record exceeds the configured size limit"⟩

/-- `validate_log`. -/
def validateLog (files : Files) (fault : Option Fault) (name : OsString) : Except IoError Unit :=
  match files.read fault name with
  | .ok _ => .ok ()
  | .error error => if error.kind = .notFound then .ok () else .error error

namespace RotatingLog

variable (log : RotatingLog) (faults : Faults)

/-- The file with a number, where 0 is the active file. -/
def generation : ℕ → OsString
  | 0 => log.name
  | index + 1 => rotatedName log.name (index + 1)

def validate (files : Files) : Except IoError Unit :=
  (List.range (log.backups + 1)).forM fun index ↦
    validateLog files (faults (.validate index)) (log.generation index)

def shouldRotate (line : String) (files : Files) : Except IoError Bool :=
  match files.read (faults .read) log.name with
  | .ok contents =>
    match faults .metadata with
    | some fault => .error fault.error
    | none => .ok (log.maxBytes < contents.utf8ByteSize + line.utf8ByteSize)
  | .error error => if error.kind = .notFound then .ok false else .error error

/-- The loop of `rotate`, which renames the backups with the numbers `index` to 1. -/
def shift : ℕ → Files → Except IoError Unit × Files
  | 0, files => (.ok (), files)
  | index + 1, files =>
    match files.unlessMissing (files.rename (faults (.rename (index + 1)))
      (rotatedName log.name (index + 1)) (rotatedName log.name (index + 2))) with
    | .error error => (.error error, files)
    | .ok files => shift index files

def rotate (files : Files) : Except IoError Unit × Files :=
  if log.backups = 0 then
    match files.unlessMissing (files.remove (faults .remove) log.name) with
    | .error error => (.error error, files)
    | .ok files => (.ok (), files)
  else
    match files.unlessMissing (files.remove (faults .remove)
      (rotatedName log.name log.backups)) with
    | .error error => (.error error, files)
    | .ok files =>
      match log.shift faults (log.backups - 1) files with
      | (.error error, files) => (.error error, files)
      | (.ok (), files) =>
        match files.unlessMissing (files.rename (faults (.rename 0)) log.name
          (rotatedName log.name 1)) with
        | .error error => (.error error, files)
        | .ok files =>
          match faults .sync with
          | some fault => (.error fault.error, files)
          | none => (.ok (), files)

/-- The end of `write`. Opening the file creates it. -/
def appendLine (line : String) (files : Files) : Written :=
  match faults .append with
  | some fault => ⟨.error fault.error, files, []⟩
  | none =>
    let contents := (files log.name).getD ""
    match faults .write with
    | some fault => ⟨.error fault.error, Function.update files log.name (some contents), []⟩
    | none =>
      let files := Function.update files log.name (some (contents ++ line))
      match faults .flush with
      | some fault => ⟨.error fault.error, files, [line]⟩
      | none => ⟨.ok (), files, [line]⟩

/-- `RotatingLog::write`. A file has fewer than `2 ^ 63` bytes, so that the sum of the sizes does
not overflow. -/
def write (level message : String) (files : Files) : Written :=
  let line := record level message
  if log.maxBytes < line.utf8ByteSize then ⟨.error tooLong, files, []⟩
  else
    match log.validate faults files with
    | .error error => ⟨.error error, files, []⟩
    | .ok () =>
      match log.shouldRotate faults line files with
      | .error error => ⟨.error error, files, []⟩
      | .ok false => log.appendLine faults line files
      | .ok true =>
        match log.rotate faults files with
        | (.error error, files) => ⟨.error error, files, []⟩
        | (.ok (), files) => log.appendLine faults line files

/-- What the files hold, from the oldest on. -/
def contents (files : Files) : String :=
  String.join ((List.range (log.backups + 1)).reverse.map fun index ↦
    (files (log.generation index)).getD "")

end RotatingLog

/-- The files, with the records that were appended so far. -/
structure Logged where
  files : Files
  records : List String

/-- A call of `write`. -/
structure Writing where
  level : String
  message : String
  faults : Faults

def RotatingLog.step (log : RotatingLog) (s : Logged) (w : Writing) : Logged :=
  let written := log.write w.faults w.level w.message s.files
  ⟨written.files, s.records ++ written.appended⟩

/-! ## Names -/

theorem utf8_injective : Function.Injective utf8 := by
  intro s t h
  exact String.toByteArray_inj.mp (ByteArray.ext (Array.toList_inj.mp h))

theorem rotatedName_injective (name : OsString) : Function.Injective (rotatedName name) := by
  intro i j h
  have hsuffix := utf8_injective (List.append_cancel_left h)
  have hlist := congrArg String.toList hsuffix
  rw [String.toList_append, String.toList_append] at hlist
  exact Nat.repr_injective (String.toList_inj.mp (List.append_cancel_left hlist))

theorem rotatedName_ne (name : OsString) (index : ℕ) : rotatedName name index ≠ name := by
  intro h
  have hempty : utf8 ("." ++ toString index) = utf8 "" := by
    have hnil : utf8 ("." ++ toString index) = [] := List.append_right_eq_self.mp h
    rw [hnil]
    rfl
  have hlist := congrArg String.toList (utf8_injective hempty)
  rw [String.toList_append] at hlist
  exact absurd hlist (by simp)

theorem RotatingLog.generation_injective (log : RotatingLog) :
    Function.Injective log.generation := by
  intro i j h
  cases i with
  | zero =>
    cases j with
    | zero => rfl
    | succ j => exact absurd h.symm (rotatedName_ne log.name (j + 1))
  | succ i =>
    cases j with
    | zero => exact absurd h (rotatedName_ne log.name (i + 1))
    | succ j => exact rotatedName_injective log.name h

/-! ## Records -/

/-- One line whose only tab separates two texts. -/
def IsRecord (r : String) : Prop :=
  ∃ level message : List Char, r.toList = level ++ '\t' :: message ++ ['\n'] ∧
    ∀ c ∈ level ++ message, c ≠ '\t' ∧ c ≠ '\n' ∧ c ≠ '\r'

theorem singleLine_plain {value : String} {c : Char} (hc : c ∈ (singleLine value).toList) :
    c ≠ '\t' ∧ c ≠ '\n' ∧ c ≠ '\r' := by
  rw [singleLine, String.toList_map, List.mem_map] at hc
  obtain ⟨d, -, rfl⟩ := hc
  split
  · decide
  · rename_i hd
    rw [not_or, not_or] at hd
    exact ⟨hd.2.2, hd.1, hd.2.1⟩

theorem isRecord_record (level message : String) : IsRecord (record level message) := by
  refine ⟨(singleLine level).toList, (singleLine message).toList, ?_, fun c hc ↦ ?_⟩
  · simp [record]
  · rcases List.mem_append.mp hc with hc | hc
    · exact singleLine_plain hc
    · exact singleLine_plain hc

/-! ## The history in the files -/

/-- The file holds these records. -/
def Holds (file : Option String) (part : List String) : Prop :=
  match file with
  | none => part = []
  | some contents => contents = String.join part

theorem Holds.getD {file : Option String} {part : List String} (h : Holds file part) :
    file.getD "" = String.join part := by
  cases file with
  | none =>
    have hpart : part = [] := h
    rw [hpart, String.join_nil, Option.getD_none]
  | some contents => exact h

/-- What holds of the files of the log between the steps of its writes: they hold the records in
generations, none is too large, and there is none with a larger number. -/
structure Kept (log : RotatingLog) (records : List String) (files : Files) : Prop where
  history : ∃ parts : ℕ → List String, Generations.history parts log.backups = records ∧
    ∀ i ≤ log.backups, Holds (files (log.generation i)) (parts i)
  bounded : ∀ i contents, files (log.generation i) = some contents →
    contents.utf8ByteSize ≤ log.maxBytes
  beyond : ∀ i, log.backups < i → files (log.generation i) = none

section Kept

variable {log : RotatingLog} {records : List String} {files : Files}

theorem generation_ne (log : RotatingLog) {i j : ℕ} (h : i ≠ j) :
    log.generation i ≠ log.generation j :=
  fun heq ↦ h (log.generation_injective heq)

theorem generation_ne_name (log : RotatingLog) {i : ℕ} (h : i ≠ 0) :
    log.generation i ≠ log.name :=
  generation_ne log h

theorem Kept.start (hempty : ∀ i, files (log.generation i) = none) : Kept log [] files := by
  refine ⟨⟨fun _ ↦ [], ?_, fun i _ ↦ ?_⟩, fun i contents h ↦ ?_, fun i _ ↦ hempty i⟩
  · have hnil : ∀ n, Generations.history (fun _ ↦ ([] : List String)) n = [] := by
      intro n
      induction n with
      | zero => rfl
      | succ n ih => rw [Generations.history, ih, List.append_nil]
    rw [hnil]
  · rw [hempty]
    rfl
  · rw [hempty] at h
    cases h

theorem Kept.contents (h : Kept log records files) : log.contents files = String.join records := by
  obtain ⟨parts, rfl, hholds⟩ := h.history
  have hjoin : ∀ n ≤ log.backups, String.join ((List.range (n + 1)).reverse.map fun index ↦
      (files (log.generation index)).getD "") = String.join (Generations.history parts n) := by
    intro n hn
    induction n with
    | zero =>
      rw [Generations.history, ← (hholds 0 (Nat.zero_le _)).getD]
      simp
    | succ n ih =>
      rw [Generations.history, List.range_succ, List.reverse_append, List.reverse_singleton,
        List.singleton_append, List.map_cons, String.join_cons, String.join_append,
        ih (Nat.le_of_succ_le hn), (hholds _ hn).getD]
  exact hjoin log.backups le_rfl

/-- What goes with the oldest file: nothing, or the records it holds. -/
def Dropped (log : RotatingLog) (files : Files) (dropped : List String) : Prop :=
  dropped = [] ∨ files (log.generation log.backups) = some (String.join dropped)

theorem Kept.drop (h : Kept log records files) :
    ∃ dropped rest, records = dropped ++ rest ∧ Dropped log files dropped ∧
      Kept log rest (Function.update files (log.generation log.backups) none) := by
  obtain ⟨parts, rfl, hholds⟩ := h.history
  refine ⟨_, _, history_drop parts log.backups, ?_,
    ⟨Function.update parts log.backups [], rfl, fun i hi ↦ ?_⟩, fun i contents hi ↦ ?_,
    fun i hi ↦ ?_⟩
  · have holdest := hholds log.backups le_rfl
    rcases hfile : files (log.generation log.backups) with _ | contents
    · rw [hfile] at holdest
      exact Or.inl holdest
    · rw [hfile] at holdest
      exact Or.inr (hfile.trans (congrArg some holdest))
  · by_cases hlast : i = log.backups
    · rw [hlast, Function.update_self, Function.update_self]
      rfl
    · rw [Function.update_of_ne (generation_ne log hlast), Function.update_of_ne hlast]
      exact hholds i hi
  · by_cases hlast : i = log.backups
    · rw [hlast, Function.update_self] at hi
      cases hi
    · rw [Function.update_of_ne (generation_ne log hlast)] at hi
      exact h.bounded i contents hi
  · rw [Function.update_of_ne (generation_ne log (Nat.ne_of_gt hi))]
    exact h.beyond i hi

theorem Kept.move (h : Kept log records files) {i : ℕ} (hi : i < log.backups)
    (hempty : files (log.generation (i + 1)) = none) {contents : String}
    (hfile : files (log.generation i) = some contents) :
    Kept log records (Function.update (Function.update files (log.generation (i + 1))
      (some contents)) (log.generation i) none) := by
  obtain ⟨parts, hrecords, hholds⟩ := h.history
  have hpart : parts (i + 1) = [] := by
    have hholds := hholds (i + 1) hi
    rw [hempty] at hholds
    exact hholds
  -- what is under a number afterwards
  have hafter : ∀ j, Function.update (Function.update files (log.generation (i + 1))
      (some contents)) (log.generation i) none (log.generation j) =
        if j = i then none else if j = i + 1 then some contents else files (log.generation j) := by
    intro j
    by_cases hji : j = i
    · rw [if_pos hji, hji, Function.update_self]
    · rw [if_neg hji, Function.update_of_ne (generation_ne log hji)]
      by_cases hjs : j = i + 1
      · rw [if_pos hjs, hjs, Function.update_self]
      · rw [if_neg hjs, Function.update_of_ne (generation_ne log hjs)]
  refine ⟨⟨Function.update (Function.update parts (i + 1) (parts i)) i [], ?_, fun j hj ↦ ?_⟩,
    fun j text hj ↦ ?_, fun j hj ↦ ?_⟩
  · rw [history_move hpart hi]
    exact hrecords
  · rw [hafter]
    by_cases hji : j = i
    · rw [if_pos hji, hji, Function.update_self]
      rfl
    · rw [if_neg hji, Function.update_of_ne hji]
      by_cases hjs : j = i + 1
      · rw [if_pos hjs, hjs, Function.update_self, ← hfile]
        exact hholds i (Nat.le_of_lt hi)
      · rw [if_neg hjs, Function.update_of_ne hjs]
        exact hholds j hj
  · rw [hafter] at hj
    split at hj
    · cases hj
    · split at hj
      · exact h.bounded i text (hfile.trans hj)
      · exact h.bounded j text hj
  · rw [hafter, if_neg (by omega), if_neg (by omega)]
    exact h.beyond j hj

theorem Kept.extend (h : Kept log records files) (new : List String)
    (hsize : ((files log.name).getD "" ++ String.join new).utf8ByteSize ≤ log.maxBytes) :
    Kept log (records ++ new)
      (Function.update files log.name (some ((files log.name).getD "" ++ String.join new))) := by
  obtain ⟨parts, rfl, hholds⟩ := h.history
  refine ⟨⟨Function.update parts 0 (parts 0 ++ new), history_push new log.backups,
    fun i hi ↦ ?_⟩, fun i contents hi ↦ ?_, fun i hi ↦ ?_⟩
  · by_cases hzero : i = 0
    · have hactive := (hholds 0 (Nat.zero_le _)).getD
      rw [hzero, RotatingLog.generation, Function.update_self, Function.update_self, Holds,
        String.join_append, ← hactive, RotatingLog.generation]
    · rw [Function.update_of_ne (generation_ne_name log hzero), Function.update_of_ne hzero]
      exact hholds i hi
  · by_cases hzero : i = 0
    · rw [hzero, RotatingLog.generation, Function.update_self] at hi
      rw [← Option.some.inj hi]
      exact hsize
    · rw [Function.update_of_ne (generation_ne_name log hzero)] at hi
      exact h.bounded i contents hi
  · have hne : i ≠ 0 := by omega
    rw [Function.update_of_ne (generation_ne_name log hne)]
    exact h.beyond i hi

theorem Kept.active (h : Kept log records files) :
    ((files log.name).getD "").utf8ByteSize ≤ log.maxBytes := by
  cases hfile : files log.name with
  | none => exact Nat.zero_le _
  | some contents => exact h.bounded 0 contents hfile

theorem Kept.appendLine (h : Kept log records files) (faults : Faults) {line : String}
    (hroom : ((files log.name).getD "").utf8ByteSize + line.utf8ByteSize ≤ log.maxBytes) :
    Kept log (records ++ (log.appendLine faults line files).appended)
      (log.appendLine faults line files).files := by
  have hline := h.extend [line]
  have hcreated := h.extend []
  rw [String.join_cons, String.join_nil, String.append_empty, String.utf8ByteSize_append] at hline
  rw [String.join_nil, String.append_empty] at hcreated
  unfold RotatingLog.appendLine
  split
  · rw [List.append_nil]
    exact h
  · simp only
    split
    · exact hcreated h.active
    · split <;> exact hline hroom

end Kept

/-! ## Rotation -/

section Rotation

variable {log : RotatingLog} {records : List String} {files files' : Files}

theorem unlessMissing_remove {fault : Option Fault} {name : OsString}
    (h : files.unlessMissing (files.remove fault name) = .ok files') :
    files' = Function.update files name none := by
  rcases fault with _ | fault
  · cases hfile : files name with
    | none =>
      simp only [Files.remove, hfile] at h
      obtain rfl : files = files' := Except.ok.inj h
      rw [← hfile, Function.update_eq_self]
    | some contents =>
      simp only [Files.remove, hfile] at h
      exact (Except.ok.inj h).symm
  · simp only [Files.remove, Files.unlessMissing, if_neg fault.present] at h
    cases h

theorem unlessMissing_rename {fault : Option Fault} {source target : OsString}
    (h : files.unlessMissing (files.rename fault source target) = .ok files') :
    (files source = none ∧ files' = files) ∨ ∃ contents, files source = some contents ∧
      files' = Function.update (Function.update files target (some contents)) source none := by
  rcases fault with _ | fault
  · cases hfile : files source with
    | none =>
      simp only [Files.rename, hfile] at h
      exact Or.inl ⟨rfl, (Except.ok.inj h).symm⟩
    | some contents =>
      simp only [Files.rename, hfile] at h
      exact Or.inr ⟨contents, rfl, (Except.ok.inj h).symm⟩
  · simp only [Files.rename, Files.unlessMissing, if_neg fault.present] at h
    cases h

/-- A rename to the next number, under which there is no file, leaves none under the old one. -/
theorem Kept.rename (h : Kept log records files) {i : ℕ} (hi : i < log.backups)
    (hempty : files (log.generation (i + 1)) = none) {fault : Option Fault}
    (hrename : files.unlessMissing
      (files.rename fault (log.generation i) (log.generation (i + 1))) = .ok files') :
    Kept log records files' ∧ files' (log.generation i) = none := by
  rcases unlessMissing_rename hrename with ⟨hnone, rfl⟩ | ⟨contents, hfile, rfl⟩
  · exact ⟨h, hnone⟩
  · exact ⟨h.move hi hempty hfile, Function.update_self ..⟩

/-- The loop moves the backups up, from the highest number down. -/
theorem Kept.shift (faults : Faults) {k : ℕ} (hk : k < log.backups) (h : Kept log records files)
    (hempty : files (log.generation (k + 1)) = none) :
    Kept log records (log.shift faults k files).2 ∧
      ((log.shift faults k files).1 = .ok () →
        (log.shift faults k files).2 (log.generation 1) = none) := by
  induction k generalizing files with
  | zero => exact ⟨h, fun _ ↦ hempty⟩
  | succ k ih =>
    rw [RotatingLog.shift]
    split
    · exact ⟨h, nofun⟩
    · rename_i moved hrename
      obtain ⟨hkept, hnone⟩ := h.rename (i := k + 1) hk hempty hrename
      exact ih (Nat.lt_of_succ_lt hk) hkept hnone

/-- **A rotation drops the oldest file at most**, and when it succeeds there is no active file. -/
theorem Kept.rotate (h : Kept log records files) (faults : Faults) :
    ∃ dropped rest, records = dropped ++ rest ∧ Dropped log files dropped ∧
      Kept log rest (log.rotate faults files).2 ∧
      ((log.rotate faults files).1 = .ok () → (log.rotate faults files).2 log.name = none) := by
  have hsame : ∃ dropped rest, records = dropped ++ rest ∧ Dropped log files dropped ∧
      Kept log rest files := ⟨[], records, rfl, Or.inl rfl, h⟩
  unfold RotatingLog.rotate
  split
  · rename_i hbackups
    split
    · obtain ⟨dropped, rest, hrecords, hdropped, hkept⟩ := hsame
      exact ⟨dropped, rest, hrecords, hdropped, hkept, nofun⟩
    · rename_i removed hremove
      -- without backups the active file is the oldest one
      rw [unlessMissing_remove hremove]
      obtain ⟨dropped, rest, hrecords, hdropped, hkept⟩ := h.drop
      rw [hbackups] at hkept
      exact ⟨dropped, rest, hrecords, hdropped, hkept, fun _ ↦ Function.update_self ..⟩
  · rename_i hbackups
    obtain ⟨k, hk⟩ := Nat.exists_eq_succ_of_ne_zero hbackups
    have holdest : rotatedName log.name log.backups = log.generation (k + 1) := by
      rw [hk]
      rfl
    split
    · obtain ⟨dropped, rest, hrecords, hdropped, hkept⟩ := hsame
      exact ⟨dropped, rest, hrecords, hdropped, hkept, nofun⟩
    · rename_i removed hremove
      have hremoved := unlessMissing_remove hremove
      obtain ⟨dropped, rest, hrecords, hdropped, hkept⟩ := h.drop
      refine ⟨dropped, rest, hrecords, hdropped, ?_⟩
      rw [hk] at hkept
      rw [holdest] at hremoved
      rw [← hremoved] at hkept
      have hnone : removed (log.generation (k + 1)) = none := by
        rw [hremoved, Function.update_self]
      have hlast : log.backups - 1 = k := by omega
      rw [hlast]
      obtain ⟨hshift, hfirst⟩ := hkept.shift faults (by omega) hnone
      split
      · rename_i hresult
        rw [hresult] at hshift
        exact ⟨hshift, nofun⟩
      · rename_i shifted hresult
        rw [hresult] at hshift hfirst
        split
        · exact ⟨hshift, nofun⟩
        · rename_i renamed hrename
          obtain ⟨hmoved, hactive⟩ := hshift.rename (i := 0) (by omega) (hfirst rfl) hrename
          split
          · exact ⟨hmoved, nofun⟩
          · exact ⟨hmoved, fun _ ↦ hactive⟩

theorem shouldRotate_room {faults : Faults} {line : String}
    (hline : line.utf8ByteSize ≤ log.maxBytes)
    (h : log.shouldRotate faults line files = .ok false) :
    ((files log.name).getD "").utf8ByteSize + line.utf8ByteSize ≤ log.maxBytes := by
  unfold RotatingLog.shouldRotate at h
  split at h
  · rename_i contents hread
    have hfile : files log.name = some contents := by
      unfold Files.read at hread
      split at hread <;> cases hread
      assumption
    split at h
    · cases h
    · rw [hfile, Option.getD_some]
      have hfits := of_decide_eq_false (Except.ok.inj h)
      omega
  · rename_i error hread
    split at h
    · -- an injected failure is not `NotFound`, so the file is missing
      rename_i hmissing
      have hfile : files log.name = none := by
        unfold Files.read at hread
        split at hread
        · rename_i fault _
          rw [← Except.error.inj hread] at hmissing
          exact absurd hmissing fault.present
        · cases hread
        · assumption
      rw [hfile, Option.getD_none, String.utf8ByteSize_empty, Nat.zero_add]
      exact hline
    · cases h

/-- **A write drops the oldest file at most and appends its record**, however its steps go. -/
theorem Kept.write (h : Kept log records files) (faults : Faults) (level message : String) :
    ∃ dropped rest, records = dropped ++ rest ∧ Dropped log files dropped ∧
      Kept log (rest ++ (log.write faults level message files).appended)
        (log.write faults level message files).files := by
  have hsame : ∃ dropped rest, records = dropped ++ rest ∧ Dropped log files dropped ∧
      Kept log (rest ++ []) files :=
    ⟨[], records, rfl, Or.inl rfl, (List.append_nil records).symm ▸ h⟩
  simp only [RotatingLog.write]
  split
  · exact hsame
  · rename_i hline
    split
    · exact hsame
    · split
      · exact hsame
      · rename_i hrotate
        exact ⟨[], records, rfl, Or.inl rfl,
          h.appendLine faults (shouldRotate_room (Nat.le_of_not_lt hline) hrotate)⟩
      · obtain ⟨dropped, rest, hrecords, hdropped, hrotated, hactive⟩ := h.rotate faults
        refine ⟨dropped, rest, hrecords, hdropped, ?_⟩
        split
        · -- a rotation that stopped appends nothing
          rename_i hresult
          rw [hresult] at hrotated
          rw [List.append_nil]
          exact hrotated
        · rename_i rotated hresult
          rw [hresult] at hrotated hactive
          have hkept : Kept log rest rotated := hrotated
          refine hkept.appendLine faults ?_
          have hnone : rotated log.name = none := hactive rfl
          rw [hnone, Option.getD_none, String.utf8ByteSize_empty, Nat.zero_add]
          exact Nat.le_of_not_lt hline

/-! ## Writes without a failing step -/

theorem unlessMissing_remove_ok (files : Files) (name : OsString) :
    ∃ files', files.unlessMissing (files.remove none name) = .ok files' := by
  cases hfile : files name with
  | none => exact ⟨files, by simp [Files.remove, hfile, Files.unlessMissing, noSuchFile]⟩
  | some contents =>
    simp only [Files.remove, hfile, Files.unlessMissing]
    exact ⟨_, rfl⟩

theorem unlessMissing_rename_ok (files : Files) (source target : OsString) :
    ∃ files', files.unlessMissing (files.rename none source target) = .ok files' := by
  cases hfile : files source with
  | none => exact ⟨files, by simp [Files.rename, hfile, Files.unlessMissing, noSuchFile]⟩
  | some contents =>
    simp only [Files.rename, hfile, Files.unlessMissing]
    exact ⟨_, rfl⟩

section Working

variable (log) {faults : Faults} (hfaults : ∀ call, faults call = none)

include hfaults

theorem shift_ok (k : ℕ) (files : Files) : (log.shift faults k files).1 = .ok () := by
  induction k generalizing files with
  | zero => rfl
  | succ k ih =>
    obtain ⟨files', hrename⟩ := unlessMissing_rename_ok files (rotatedName log.name (k + 1))
      (rotatedName log.name (k + 2))
    rw [RotatingLog.shift, hfaults, hrename]
    exact ih files'

theorem rotate_ok (files : Files) : (log.rotate faults files).1 = .ok () := by
  unfold RotatingLog.rotate
  split
  · obtain ⟨removed, hremove⟩ := unlessMissing_remove_ok files log.name
    rw [hfaults, hremove]
  · obtain ⟨removed, hremove⟩ := unlessMissing_remove_ok files (rotatedName log.name log.backups)
    simp only [hfaults, hremove]
    have hshift := shift_ok log hfaults (log.backups - 1) removed
    split
    · rename_i hresult
      rw [hresult] at hshift
      cases hshift
    · rename_i shifted _
      obtain ⟨renamed, hrename⟩ := unlessMissing_rename_ok shifted log.name
        (rotatedName log.name 1)
      rw [hrename]

theorem validate_ok (files : Files) : log.validate faults files = .ok () := by
  have hlog : ∀ index, validateLog files (faults (.validate index)) (log.generation index) =
      .ok () := by
    intro index
    cases hfile : files (log.generation index) with
    | none => simp [hfaults, validateLog, Files.read, hfile, noSuchFile]
    | some contents => simp [hfaults, validateLog, Files.read, hfile]
  rw [RotatingLog.validate]
  induction List.range (log.backups + 1) with
  | nil => rfl
  | cons index indices ih =>
    show (validateLog files _ _ >>= fun _ ↦ indices.forM _) = .ok ()
    rw [hlog]
    exact ih

theorem shouldRotate_ok (line : String) (files : Files) :
    ∃ full, log.shouldRotate faults line files = .ok full := by
  cases hfile : files log.name with
  | none =>
    exact ⟨false, by simp [RotatingLog.shouldRotate, hfaults, Files.read, hfile, noSuchFile]⟩
  | some contents =>
    simp only [RotatingLog.shouldRotate, hfaults, Files.read, hfile]
    exact ⟨_, rfl⟩

theorem appendLine_ok (line : String) (files : Files) :
    (log.appendLine faults line files).result = .ok () := by
  simp only [RotatingLog.appendLine, hfaults]

/-- A record that fits a file is written unless a step fails. -/
theorem write_ok {level message : String} (hfits : (record level message).utf8ByteSize ≤
    log.maxBytes) (files : Files) : (log.write faults level message files).result = .ok () := by
  obtain ⟨full, hfull⟩ := shouldRotate_ok log hfaults (record level message) files
  have hrotate := rotate_ok log hfaults files
  simp only [RotatingLog.write, if_neg (Nat.not_lt.mpr hfits), validate_ok log hfaults, hfull]
  cases full with
  | false => exact appendLine_ok log hfaults _ _
  | true =>
    rcases hresult : log.rotate faults files with ⟨result, rotated⟩
    rw [hresult] at hrotate
    cases hrotate
    exact appendLine_ok log hfaults _ _

end Working

/-- A write appends nothing but its record, and it has appended that when it succeeds. -/
theorem appended_write (faults : Faults) (level message : String) (files : Files) :
    ((log.write faults level message files).appended = [record level message] ∨
      (log.write faults level message files).appended = []) ∧
    ((log.write faults level message files).result = .ok () →
      (log.write faults level message files).appended = [record level message]) := by
  have hline : ∀ line files, ((log.appendLine faults line files).appended = [line] ∨
      (log.appendLine faults line files).appended = []) ∧
      ((log.appendLine faults line files).result = .ok () →
        (log.appendLine faults line files).appended = [line]) := by
    intro line files
    unfold RotatingLog.appendLine
    split
    · exact ⟨Or.inr rfl, fun h ↦ by cases h⟩
    · simp only
      split
      · exact ⟨Or.inr rfl, fun h ↦ by cases h⟩
      · split <;> exact ⟨Or.inl rfl, fun _ ↦ rfl⟩
  simp only [RotatingLog.write]
  split
  · exact ⟨Or.inr rfl, fun h ↦ by cases h⟩
  · split
    · exact ⟨Or.inr rfl, fun h ↦ by cases h⟩
    · split
      · exact ⟨Or.inr rfl, fun h ↦ by cases h⟩
      · exact hline _ _
      · split
        · exact ⟨Or.inr rfl, fun h ↦ by cases h⟩
        · exact hline _ _

end Rotation

/-! ## Runs -/

variable (log : RotatingLog)

/-- The files hold an end of the records that were appended, and these are lines. -/
structure Sound (s : Logged) : Prop where
  history : ∃ kept, kept <:+ s.records ∧ Kept log kept s.files
  lines : ∀ r ∈ s.records, IsRecord r

variable {log} in
theorem Sound.start {files : Files} (hempty : ∀ i, files (log.generation i) = none) :
    Sound log ⟨files, []⟩ :=
  ⟨⟨[], List.suffix_rfl, Kept.start hempty⟩, fun _ hr ↦ absurd hr List.not_mem_nil⟩

variable {log} in
theorem Sound.step {s : Logged} (h : Sound log s) (w : Writing) : Sound log (log.step s w) := by
  refine ⟨?_, fun r hr ↦ ?_⟩
  · obtain ⟨kept, ⟨gone, hgone⟩, hkept⟩ := h.history
    obtain ⟨dropped, rest, rfl, -, hafter⟩ := hkept.write w.faults w.level w.message
    refine ⟨_, ⟨gone ++ dropped, ?_⟩, hafter⟩
    rw [RotatingLog.step, ← hgone]
    simp only [List.append_assoc]
  · rcases List.mem_append.mp hr with hr | hr
    · exact h.lines r hr
    · rcases (appended_write w.faults w.level w.message s.files).1 with happ | happ
      · rw [happ, List.mem_singleton] at hr
        rw [hr]
        exact isRecord_record w.level w.message
      · rw [happ] at hr
        exact absurd hr List.not_mem_nil

/-- One more write on the log: it drops the oldest file at most and appends its record. A write that
fails appends it or nothing, and one whose record fits a file fails only when one of its steps
does. -/
def Extends (kept : List String) (files : Files) (w : Writing) : Prop :=
  ∃ dropped rest, kept = dropped ++ rest ∧ Dropped log files dropped ∧
    log.contents (log.write w.faults w.level w.message files).files =
      String.join (rest ++ (log.write w.faults w.level w.message files).appended) ∧
    ((log.write w.faults w.level w.message files).appended = [record w.level w.message] ∨
      (log.write w.faults w.level w.message files).appended = []) ∧
    ((log.write w.faults w.level w.message files).result = .ok () →
      (log.write w.faults w.level w.message files).appended = [record w.level w.message]) ∧
    ((∀ call, w.faults call = none) → (record w.level w.message).utf8ByteSize ≤ log.maxBytes →
      (log.write w.faults w.level w.message files).result = .ok ())

/-- **What the files hold.** After any calls of `write` on a log without files, where any step on
the file system may fail without effect: the files, from the oldest backup to the active one, hold
an end of the records that were appended. A further write leaves its record there if it succeeds, as
the last one, and whether it succeeds or not it takes nothing away but what the oldest file holds.
Each record is one line whose only tab separates the level from the message, no file is larger than
allowed, and none has a number beyond the last one. -/
theorem log_is_suffix {files : Files} (hempty : ∀ i, files (log.generation i) = none)
    (writes : List Writing) :
    (∃ kept, kept <:+ (run log.step ⟨files, []⟩ writes).records ∧
      log.contents (run log.step ⟨files, []⟩ writes).files = String.join kept ∧
      ∀ w, Extends log kept (run log.step ⟨files, []⟩ writes).files w) ∧
    (∀ r ∈ (run log.step ⟨files, []⟩ writes).records, IsRecord r) ∧
    (∀ i contents, (run log.step ⟨files, []⟩ writes).files (log.generation i) = some contents →
      contents.utf8ByteSize ≤ log.maxBytes) ∧
    ∀ i, log.backups < i →
      (run log.step ⟨files, []⟩ writes).files (log.generation i) = none := by
  obtain ⟨⟨kept, hsuffix, hkept⟩, hrecords⟩ := invariant_run log.step (I := Sound log)
    (fun _ w h ↦ h.step w) (Sound.start hempty) writes
  refine ⟨⟨kept, hsuffix, hkept.contents, fun w ↦ ?_⟩, hrecords, hkept.bounded, hkept.beyond⟩
  obtain ⟨dropped, rest, hrest, hdropped, hafter⟩ := hkept.write w.faults w.level w.message
  obtain ⟨happended, hok⟩ := appended_write w.faults w.level w.message
    (run log.step ⟨files, []⟩ writes).files
  exact ⟨dropped, rest, hrest, hdropped, hafter.contents, happended, hok,
    fun hfaults hfits ↦ write_ok log hfaults hfits _⟩

/-- A log of 20 bytes with two backups. -/
def exampleLog : RotatingLog := ⟨utf8 "app.log", 20, 2⟩

/-- Each line needs a file of its own. The rotation of the fourth write stops at a rename, and that
of the last one begins again. -/
def exampleWrites : List Writing :=
  [⟨"info", "first", fun _ ↦ none⟩, ⟨"in\nfo", "two\tx", fun _ ↦ none⟩,
    ⟨"info", "third", fun _ ↦ none⟩,
    ⟨"info", "lost", fun call ↦
      if call = .rename 1 then some ⟨⟨.other, "Input/output error"⟩, nofun⟩ else none⟩,
    ⟨"info", "fourth", fun _ ↦ none⟩]

theorem log_is_suffix_exampleWrites :
    (run exampleLog.step ⟨fun _ ↦ none, []⟩ exampleWrites).records =
        ["info\tfirst\n", "in fo\ttwo x\n", "info\tthird\n", "info\tfourth\n"] ∧
      ∃ kept, kept <:+ (run exampleLog.step ⟨fun _ ↦ none, []⟩ exampleWrites).records ∧
        exampleLog.contents (run exampleLog.step ⟨fun _ ↦ none, []⟩ exampleWrites).files =
          String.join kept ∧
        ∀ w, Extends exampleLog kept
          (run exampleLog.step ⟨fun _ ↦ none, []⟩ exampleWrites).files w :=
  ⟨by decide +kernel, (log_is_suffix exampleLog (fun _ ↦ rfl) exampleWrites).1⟩

end TunnelDeck.Logging
