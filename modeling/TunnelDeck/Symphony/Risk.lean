import TunnelDeck.Symphony.Manifest
import TunnelDeck.Symphony.Review

/-!
# Changes that a person has to review

Before it merges anything, the review driver asks `risk_reason` whether the changed files of the
pull request are a risk. It looks at the names of the files as they are after the change, and
searches the patches for a few dangerous texts. What a renamed file was called before is part of
what GitHub reports, and is not looked at.

## Main result

`risk_of_rename`: a change of a protected path is always a risk exactly when no file is renamed away
from a protected path alone.
-/

namespace TunnelDeck.Symphony

open Json (Value)
open Text.Python

/-! ## Cargo files -/

/-- What identifies a package of `Cargo.lock`. -/
structure Package where
  name : List Char
  version : List Char
  source : Option (List Char)
  checksum : Option (List Char)
  deriving DecidableEq

/-- The packages of `Cargo.lock`, each with what it depends on. -/
abbrev PackageGraph := List (Package × List (List Char))

/-- The files of the repository at a commit, and the packages of a `Cargo.lock`. A text stands for
an exception. -/
structure CargoFiles where
  repositoryFile : String → String → Except String (List Char)
  lockPackages : List Char → Except String PackageGraph

def sameMembers {α : Type*} [DecidableEq α] (as bs : List α) : Bool :=
  as.all (· ∈ bs) && bs.all (· ∈ as)

/-- `cargo_risk`. -/
def cargoRisk (cargo : CargoFiles) (baseSha headSha : String) (names : List String) :
    Except String (Option String) := do
  let baseLock ← cargo.repositoryFile "Cargo.lock" baseSha
  let headLock ← cargo.repositoryFile "Cargo.lock" headSha
  let basePackages ← cargo.lockPackages baseLock
  let headPackages ← cargo.lockPackages headLock
  if !sameMembers (basePackages.map Prod.fst) (headPackages.map Prod.fst) then
    return some "Cargo.lock package identities changed"
  if !sameMembers basePackages headPackages then
    return some "Cargo.lock dependency graph changed"
  if "Cargo.toml" ∈ names then
    let base ← cargo.repositoryFile "Cargo.toml" baseSha
    let head ← cargo.repositoryFile "Cargo.toml" headSha
    match manifestDependencyAdditions base head with
    | none => return some "Cargo.toml changed outside simple dependency additions"
    | some additions =>
      let lockedNames := headPackages.map fun package ↦ package.1.name
      if additions.any fun addition ↦ addition.1 ∉ lockedNames then
        return some "Cargo.toml dependency addition is absent from Cargo.lock"
  return none

/-! ## Dangerous texts -/

/-- The characters that a character of a pattern stands for where case is ignored: for a small
letter these are its capital and a few characters that have it as their small or capital letter. -/
def foldsTo (p c : Char) : Bool :=
  c = p || (p.isLower && c.toLower = p) || (p = 'i' && (c.toNat = 0x130 || c.toNat = 0x131)) ||
    (p = 's' && c.toNat = 0x17F) || (p = 'k' && c.toNat = 0x212A)

def afterWord : List Char → List Char → Option (List Char)
  | [], cs => some cs
  | _ :: _, [] => none
  | p :: word, c :: cs => if foldsTo p c then afterWord word cs else none

/-- `StrictHostKeyChecking\s*=\s*no`, at the beginning. -/
def disablesHostKeys (cs : List Char) : Bool :=
  match (afterWord "stricthostkeychecking".toList cs).map (·.dropWhile isSpace) with
  | some ('=' :: rest) => (afterWord "no".toList (rest.dropWhile isSpace)).isSome
  | _ => false

/-- The search for a high-risk text. -/
def isHighRisk (patches : List Char) : Bool :=
  patches.tails.any fun cs ↦
    disablesHostKeys cs || (afterWord "force push".toList cs).isSome ||
      (afterWord "destructive migration".toList cs).isSome

example : isHighRisk "+ STRICTHOSTKEYCHECKING =no".toList = true := by decide

/-! ## The decision -/

def protectedPrefixes : List String :=
  ["src/ipc/", "src/config/", "src/daemon/process", "src/platform/private_fs"]

def startsWithProtected (name : String) : Bool :=
  protectedPrefixes.any fun front ↦ front.toList.isPrefixOf name.toList

/-- The patches of the files that have one, one behind the other. -/
def patches (files : List Value) : List Char :=
  ['\n'].intercalate (files.filterMap fun item ↦ (item.get "patch").asStr.map String.toList)

/-- `risk_reason`. A text stands for an exception. -/
def riskReason (cargo : CargoFiles) (baseSha headSha : String) (files : List Value) :
    Except String (Option String) :=
  match files.mapM fun item ↦ (item.get "filename").asStr with
  | none => .error "GitHub returned invalid changed-file data"
  | some names =>
    if "docs/architecture.md" ∈ names then .ok (some "architecture-boundary files changed")
    else do
      let reason ← if "Cargo.toml" ∈ names ∨ "Cargo.lock" ∈ names then
        cargoRisk cargo baseSha headSha names else .ok none
      if reason.isSome then .ok reason
      else if names.any startsWithProtected then
        .ok (some "storage, IPC, authentication, or process-policy files changed")
      else if isHighRisk (patches files) then
        .ok (some "high-risk policy or destructive behavior detected")
      else .ok none

/-! ## Changed files -/

/-- What a pull request does to a file. -/
inductive Change where
  | added
  | removed
  | modified
  | changed
  | unchanged
  | renamed (previousFilename : String)
  | copied (previousFilename : String)
  deriving DecidableEq

/-- A file in the answer of GitHub. A binary or a very large change has no patch. -/
structure ChangedFile where
  filename : String
  change : Change
  patch : Option String

def Change.status : Change → String
  | added => "added"
  | removed => "removed"
  | modified => "modified"
  | changed => "changed"
  | unchanged => "unchanged"
  | renamed _ => "renamed"
  | copied _ => "copied"

def Change.previousFilename : Change → Option String
  | renamed previous | copied previous => some previous
  | _ => none

def ChangedFile.value (file : ChangedFile) : Value :=
  .object ([("filename", .string file.filename), ("status", .string file.change.status)] ++
    (file.patch.toList.map fun patch ↦ ("patch", .string patch)) ++
    (file.change.previousFilename.toList.map fun previous ↦
      ("previous_filename", .string previous)))

/-- The paths that a file is added, edited, deleted or renamed at. -/
def ChangedFile.touched (file : ChangedFile) : List String :=
  match file.change with
  | .unchanged => []
  | .renamed previous => [previous, file.filename]
  | _ => [file.filename]

/-- A path that a person has to look at. -/
def Protected (path : String) : Prop :=
  path = "docs/architecture.md" ∨ ∃ front ∈ protectedPrefixes, front.toList <+: path.toList

/-- Some entry touches a protected path. -/
def TouchesProtected (files : List ChangedFile) : Prop :=
  ∃ file ∈ files, ∃ path ∈ file.touched, Protected path

/-- The Cargo files are unchanged, or there is nothing wrong with them. -/
def CargoPasses (cargo : CargoFiles) (baseSha headSha : String) (files : List ChangedFile) : Prop :=
  "Cargo.toml" ∈ files.map ChangedFile.filename ∨ "Cargo.lock" ∈ files.map ChangedFile.filename →
    cargoRisk cargo baseSha headSha (files.map ChangedFile.filename) = .ok none

/-- A reason is returned, and no round of the driver goes on with it. -/
def SentToReview (cargo : CargoFiles) (baseSha headSha : String) (files : List ChangedFile) :
    Prop :=
  let risk := riskReason cargo baseSha headSha (files.map ChangedFile.value)
  (∃ reason, risk = .ok (some reason)) ∧
    ∀ python limits durable (o : Observation) verdict, o.risk = risk →
      review python limits durable o ≠ .ok verdict

/-! ## What the reason depends on -/

theorem startsWithProtected_iff {name : String} :
    startsWithProtected name = true ↔
      ∃ front ∈ protectedPrefixes, front.toList <+: name.toList := by
  simp only [startsWithProtected, List.any_eq_true, List.isPrefixOf_iff_prefix]

@[simp] theorem ChangedFile.get_filename (file : ChangedFile) :
    (file.value.get "filename").asStr = some file.filename := rfl

theorem mapM_filename (files : List ChangedFile) :
    ((files.map ChangedFile.value).mapM fun item ↦ (item.get "filename").asStr) =
      some (files.map ChangedFile.filename) := by
  induction files with
  | nil => rfl
  | cons file files ih =>
    rw [List.map_cons, List.mapM_cons, ih]
    rfl

/-- **When a reason is returned**, the Cargo files being in order. -/
theorem riskReason_isSome_iff {cargo : CargoFiles} {baseSha headSha : String}
    {files : List ChangedFile} (hcargo : CargoPasses cargo baseSha headSha files) :
    (∃ reason, riskReason cargo baseSha headSha (files.map ChangedFile.value) =
        .ok (some reason)) ↔
      (∃ file ∈ files, Protected file.filename) ∨
        isHighRisk (patches (files.map ChangedFile.value)) = true := by
  have hprotected : (∃ file ∈ files, Protected file.filename) ↔
      "docs/architecture.md" ∈ files.map ChangedFile.filename ∨
        (files.map ChangedFile.filename).any startsWithProtected = true := by
    simp only [Protected, List.any_eq_true, List.mem_map, startsWithProtected_iff]
    grind
  rw [hprotected, riskReason, mapM_filename]
  generalize isHighRisk (patches (files.map ChangedFile.value)) = risky
  generalize hnames : files.map ChangedFile.filename = names at hcargo ⊢
  by_cases harchitecture : "docs/architecture.md" ∈ names
  · simp [harchitecture]
  · rw [CargoPasses, hnames] at hcargo
    simp only [harchitecture, false_or]
    by_cases hfiles : "Cargo.toml" ∈ names ∨ "Cargo.lock" ∈ names
    · cases names.any startsWithProtected <;> cases risky <;>
        simp [hfiles, hcargo hfiles, bind, Except.bind]
    · cases names.any startsWithProtected <;> cases risky <;> simp [hfiles, bind, Except.bind]

theorem review_of_reason {python : Python} {limits : Limits} {durable : Durable} {o : Observation}
    {reason : String} (h : o.risk = .ok (some reason)) (verdict : Verdict) :
    review python limits durable o ≠ .ok verdict := by
  rw [review]
  split
  · rintro ⟨⟩
  · rw [h]
    cases o.pr with
    | error e => rintro ⟨⟩
    | ok heads => rintro ⟨⟩

/-- **Exactly when every change of a protected path is sent to review**: nothing is renamed away
from one, except beside another change that gives a reason. -/
theorem risk_of_rename (cargo : CargoFiles) (baseSha headSha : String) (files : List ChangedFile)
    (hcargo : CargoPasses cargo baseSha headSha files) :
    (TouchesProtected files → SentToReview cargo baseSha headSha files) ↔
      ∀ file ∈ files, ∀ previous, file.change = .renamed previous → Protected previous →
        (∃ other ∈ files, Protected other.filename) ∨
          isHighRisk (patches (files.map ChangedFile.value)) = true := by
  have hsent : SentToReview cargo baseSha headSha files ↔
      (∃ other ∈ files, Protected other.filename) ∨
        isHighRisk (patches (files.map ChangedFile.value)) = true := by
    rw [← riskReason_isSome_iff hcargo]
    refine and_iff_left_of_imp ?_
    rintro ⟨reason, hreason⟩ python limits durable o verdict ho
    exact review_of_reason (ho.trans hreason) verdict
  rw [hsent]
  constructor
  · intro h file hfile previous hrenamed hprevious
    refine h ⟨file, hfile, previous, ?_, hprevious⟩
    simp [ChangedFile.touched, hrenamed]
  · rintro h ⟨file, hfile, path, hpath, hprotected⟩
    rcases hchange : file.change with _ | _ | _ | _ | _ | previous | _
    case renamed =>
      simp only [ChangedFile.touched, hchange, List.mem_cons, List.not_mem_nil, or_false] at hpath
      rcases hpath with rfl | rfl
      · exact h file hfile path hchange hprotected
      · exact Or.inl ⟨file, hfile, hprotected⟩
    case unchanged =>
      simp [ChangedFile.touched, hchange] at hpath
    all_goals
      -- the path is the one that the file has now
      simp only [ChangedFile.touched, hchange, List.mem_singleton] at hpath
      exact Or.inl ⟨file, hfile, hpath ▸ hprotected⟩

/-! ## A protected file that is moved -/

/-- The message types of the daemon are moved out of the protected directory, unchanged. -/
def exampleMove : ChangedFile :=
  ⟨"src/transport/mod.rs", .renamed "src/ipc/mod.rs", none⟩

/-- Nothing is known of the Cargo files. -/
def exampleCargo : CargoFiles :=
  ⟨fun _ _ ↦ .error "Cargo file response is missing, oversized, or invalid",
    fun _ ↦ .error "Cargo.lock is invalid or ambiguous"⟩

/-- Another file of the directory is edited in the same pull request. -/
def exampleEdit : ChangedFile := ⟨"src/ipc/frames.rs", .modified, some "+ // moved"⟩

theorem exampleMove_touches : TouchesProtected [exampleMove] :=
  ⟨exampleMove, List.mem_singleton_self _, "src/ipc/mod.rs", List.mem_cons_self,
    Or.inr ⟨"src/ipc/", by decide, by decide⟩⟩

/-- The move alone is no risk. -/
theorem exampleMove_not_sent :
    ¬ (TouchesProtected [exampleMove] → SentToReview exampleCargo "base" "head" [exampleMove]) := by
  intro h
  obtain ⟨⟨reason, hreason⟩, -⟩ := h exampleMove_touches
  have hnone : riskReason exampleCargo "base" "head" ([exampleMove].map ChangedFile.value) =
      .ok none := by decide
  rw [hnone] at hreason
  cases hreason

/-- With the edit beside it, the move is sent to review. -/
theorem risk_of_rename_exampleEdit :
    SentToReview exampleCargo "base" "head" [exampleMove, exampleEdit] := by
  have hcargo : CargoPasses exampleCargo "base" "head" [exampleMove, exampleEdit] :=
    fun h ↦ absurd h (by decide)
  have htouches : TouchesProtected [exampleMove, exampleEdit] :=
    ⟨exampleMove, List.mem_cons_self, "src/ipc/mod.rs", List.mem_cons_self,
      Or.inr ⟨"src/ipc/", by decide, by decide⟩⟩
  refine (risk_of_rename exampleCargo "base" "head" _ hcargo).mpr
    (fun file hfile previous h h' ↦ ?_) htouches
  exact Or.inl ⟨exampleEdit, by simp, Or.inr ⟨"src/ipc/", by decide, by decide⟩⟩

end TunnelDeck.Symphony
