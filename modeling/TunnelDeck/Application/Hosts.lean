import Mathlib.Data.String.Basic
import TunnelDeck.Application.ConfigLines
import TunnelDeck.Combinatorics.Traversal
import TunnelDeck.Domain.Rule
import TunnelDeck.Text.UnixPath

/-!
# Discovering the hosts of a configuration

`discover_hosts` walks over a configuration file and the files that it includes, and collects the
concrete aliases of their `Host` lines. A file is known by its canonical path. The walk skips a file
that it has seen, notes a file that it cannot read or a pattern it cannot expand as a warning, and
fails when includes are nested too deep or name too many files.

The walk is the depth-first walk of a graph: the nodes are canonical paths, and the lines of a file
say what it yields and where it points. `walks_visit` says that the walker follows it, and what it
collects is then what the reachable files yield.
-/

namespace TunnelDeck

open Text (UnixPath)

/-- `MAX_CONFIG_FILES`. -/
def maxConfigFiles : ℕ := 256

/-- `MAX_INCLUDE_DEPTH`. -/
def maxIncludeDepth : ℕ := 32

/-! ## The file system -/

/-- The error kinds of `io::Error` that the walker tells apart. -/
inductive CanonicalizeError where
  | notFound
  | other
  deriving DecidableEq

/-- What the walker asks of the file system and of the `glob` crate. -/
structure FileSystem where
  /-- `fs::canonicalize`. -/
  canonicalize : UnixPath → Except CanonicalizeError UnixPath
  /-- `fs::read_to_string`, which fails on a text that is not UTF-8 too. -/
  readToString : UnixPath → Option (List Char)
  /-- `glob_with`: the paths that match, some of which may be errors. A bad pattern is refused. -/
  globWith : List Char → Option (List (Option UnixPath))

/-! ## The walker -/

inductive DiscoveryWarningKind where
  | missing
  | unreadable
  | invalidIncludePattern
  deriving DecidableEq

structure DiscoveryWarning where
  path : UnixPath
  kind : DiscoveryWarningKind
  deriving DecidableEq

/-- `HostError::TraversalLimit`. -/
structure TraversalLimit where
  kind : String
  limit : ℕ
  deriving DecidableEq

structure HostDiscovery where
  aliases : List String
  warnings : List DiscoveryWarning
  deriving DecidableEq

/-- `BTreeSet::insert`, for a set that is given by its elements in order. -/
def insertSorted (a : String) : List String → List String
  | [] => [a]
  | b :: rest =>
    if a < b then a :: b :: rest else if a = b then b :: rest else b :: insertSorted a rest

/-- `ConfigWalker`, and the files it has read. -/
structure ConfigWalker where
  visited : Finset UnixPath
  aliases : List String
  warnings : List DiscoveryWarning
  filesRead : List UnixPath

namespace ConfigWalker

def start : ConfigWalker := ⟨∅, [], [], []⟩

def warn (w : ConfigWalker) (path : UnixPath) (kind : DiscoveryWarningKind) : ConfigWalker :=
  { w with warnings := w.warnings ++ [⟨path, kind⟩] }

/-- How a call of the walker ends, and the walker after it. -/
abbrev Outcome := Except TraversalLimit Unit × ConfigWalker

/-- A loop over items that stops at the first error. -/
def forEach {α : Type} (body : α → ConfigWalker → Outcome) : List α → ConfigWalker → Outcome
  | [], w => (.ok (), w)
  | a :: rest, w =>
    match body a w with
    | (.ok (), w) => forEach body rest w
    | (.error limit, w) => (.error limit, w)

/-- `eq_ignore_ascii_case`. -/
def eqIgnoreAsciiCase (word other : List Char) : Bool :=
  word.map Text.toAsciiLowercase = other.map Text.toAsciiLowercase

def isPattern (value : List Char) : Bool := value.any fun c ↦ c = '*' ∨ c = '?' ∨ c = '['

/-- A token of a `Host` line that is an alias. -/
def isConcrete (value : List Char) : Bool :=
  value.head? ≠ some '!' && !isPattern value &&
    (Checked.new checkHostAlias (String.ofList value)).isOk

/-- The path that an `Include` value stands for. -/
def expand (sshHome : UnixPath) (value : List Char) : UnixPath :=
  let home := (UnixPath.parent sshHome).getD sshHome
  if value = ['~'] then home
  else
    match value with
    | '~' :: '/' :: rest => home.join (.ofText rest)
    | _ =>
      if UnixPath.isAbsolute (.ofText value) then .ofText value else sshHome.join (.ofText value)

/-- `include`. -/
def includeValue (fs : FileSystem) (sshHome : UnixPath)
    (visit : UnixPath → ConfigWalker → Outcome) (value : List Char) (w : ConfigWalker) : Outcome :=
  let expanded := expand sshHome value
  match fs.globWith expanded.toStringLossy with
  | none => (.ok (), w.warn expanded .invalidIncludePattern)
  | some paths =>
    let paths := paths.filterMap id
    match forEach visit paths w with
    | (.error limit, w) => (.error limit, w)
    | (.ok (), w) =>
      if paths = [] ∧ ¬ isPattern value then visit expanded w else (.ok (), w)

/-- One logical line. -/
def visitWords (fs : FileSystem) (sshHome : UnixPath)
    (visit : UnixPath → ConfigWalker → Outcome) (words : List (List Char)) (w : ConfigWalker) :
    Outcome :=
  match words with
  | [] => (.ok (), w)
  | keyword :: values =>
    if eqIgnoreAsciiCase keyword "host".toList then
      forEach (fun value w ↦
        (.ok (), if isConcrete value then
          { w with aliases := insertSorted (String.ofList value) w.aliases } else w)) values w
    else if eqIgnoreAsciiCase keyword "include".toList then
      forEach (includeValue fs sshHome visit) values w
    else (.ok (), w)

/-- `visit`, where `levels` is how many levels the depth of the call is below the first one that is
refused. -/
def visit (fs : FileSystem) (sshHome : UnixPath) : ℕ → UnixPath → ConfigWalker → Outcome
  | 0, _, w => (.error ⟨"include-depth", maxIncludeDepth⟩, w)
  | levels + 1, path, w =>
    match fs.canonicalize path with
    | .error error =>
      (.ok (), w.warn path (if error = .notFound then .missing else .unreadable))
    | .ok canonical =>
      if canonical ∈ w.visited then (.ok (), w)
      else
        let w := { w with visited := insert canonical w.visited }
        if maxConfigFiles < w.visited.card then (.error ⟨"file-count", maxConfigFiles⟩, w)
        else
          let w := { w with filesRead := w.filesRead ++ [canonical] }
          match fs.readToString canonical with
          | none => (.ok (), w.warn canonical .unreadable)
          | some text =>
            forEach (visitWords fs sshHome (visit fs sshHome levels))
              ((logicalLines text).map splitWords) w

end ConfigWalker

open ConfigWalker

/-- The walk of `discover_hosts`. The depths up to the limit are visited. -/
def walkHosts (fs : FileSystem) (configPath sshHome : UnixPath) : Outcome :=
  visit fs sshHome (maxIncludeDepth + 1) configPath .start

/-- `discover_hosts`. -/
def discoverHosts (fs : FileSystem) (configPath sshHome : UnixPath) :
    Except TraversalLimit HostDiscovery :=
  match walkHosts fs configPath sshHome with
  | (.ok (), w) => .ok ⟨w.aliases, w.warnings⟩
  | (.error limit, _) => .error limit

/-! ## Sorted sets -/

theorem mem_insertSorted (a b : String) (l : List String) :
    b ∈ insertSorted a l ↔ b = a ∨ b ∈ l := by
  induction l with
  | nil => simp [insertSorted]
  | cons c rest ih =>
    rw [insertSorted]
    split
    · simp
    split
    · next heq => simp [heq]
    · rw [List.mem_cons, ih, List.mem_cons, or_left_comm]

theorem sorted_insertSorted (a : String) {l : List String} (h : l.Pairwise (· < ·)) :
    (insertSorted a l).Pairwise (· < ·) := by
  induction l with
  | nil => simp [insertSorted]
  | cons c rest ih =>
    rw [List.pairwise_cons] at h
    rw [insertSorted]
    split
    · next hlt =>
      refine List.pairwise_cons.mpr ⟨fun b hb ↦ ?_, List.pairwise_cons.mpr h⟩
      rcases List.mem_cons.mp hb with rfl | hb
      · exact hlt
      · exact lt_trans hlt (h.1 b hb)
    split
    · exact List.pairwise_cons.mpr h
    · next hlt hne =>
      refine List.pairwise_cons.mpr ⟨fun b hb ↦ ?_, ih h.2⟩
      rcases (mem_insertSorted a b rest).mp hb with rfl | hb
      · exact lt_of_le_of_ne (not_lt.mp hlt) (Ne.symm hne)
      · exact h.1 b hb

/-! ## The graph of the files -/

/-- The paths that an `Include` value leads to. -/
def includeTargets (fs : FileSystem) (sshHome : UnixPath) (value : List Char) : List UnixPath :=
  let expanded := expand sshHome value
  match fs.globWith expanded.toStringLossy with
  | none => []
  | some paths =>
    if paths.filterMap id = [] ∧ ¬ isPattern value then [expanded] else paths.filterMap id

/-- What a logical line yields and where it points. -/
def lineSteps (fs : FileSystem) (sshHome : UnixPath) :
    List (List Char) → List (String ⊕ UnixPath)
  | [] => []
  | keyword :: values =>
    if eqIgnoreAsciiCase keyword "host".toList then
      values.flatMap fun value ↦ if isConcrete value then [.inl (String.ofList value)] else []
    else if eqIgnoreAsciiCase keyword "include".toList then
      values.flatMap fun value ↦ (includeTargets fs sshHome value).map .inr
    else []

def hostGraph (fs : FileSystem) (sshHome : UnixPath) :
    Traversal.Graph UnixPath UnixPath String where
  resolve path := (fs.canonicalize path).toOption
  steps file :=
    match fs.readToString file with
    | none => []
    | some text => ((logicalLines text).map splitWords).flatMap (lineSteps fs sshHome)

/-! ## The walker follows the walk -/

/-- The limit that a walk ran into. -/
def limitOf : Traversal.Limit → TraversalLimit
  | .depth => ⟨"include-depth", maxIncludeDepth⟩
  | .count => ⟨"file-count", maxConfigFiles⟩

/-- The walker stands where the walk stands. -/
structure Walks (w : ConfigWalker) (s : Traversal.State UnixPath String) : Prop where
  visited : w.visited = s.seen
  filesRead : w.filesRead = s.expanded
  aliases : ∀ a, a ∈ w.aliases ↔ a ∈ s.found
  sorted : w.aliases.Pairwise (· < ·)

/-- The two end alike. -/
structure Matches (o : Outcome) (t : Traversal.Outcome UnixPath String) : Prop where
  result : o.1 = t.1.mapError limitOf
  walks : Walks o.2 t.2

theorem Walks.warn {w : ConfigWalker} {s : Traversal.State UnixPath String} (h : Walks w s)
    (path : UnixPath) (kind : DiscoveryWarningKind) : Walks (w.warn path kind) s :=
  ⟨h.visited, h.filesRead, h.aliases, h.sorted⟩

theorem Walks.ok {w : ConfigWalker} {s : Traversal.State UnixPath String} (h : Walks w s) :
    Matches (.ok (), w) (.ok (), s) :=
  ⟨rfl, h⟩

variable {fs : FileSystem} {sshHome : UnixPath}
  {visitPath : UnixPath → ConfigWalker → Outcome}
  {visitNode : UnixPath → Traversal.State UnixPath String → Traversal.Outcome UnixPath String}

/-- A loop whose turns follow some steps each follows all of them. -/
theorem matches_forEach {β : Type} {body : β → ConfigWalker → Outcome}
    {steps : β → List (String ⊕ UnixPath)}
    (hbody : ∀ b w s, Walks w s → Matches (body b w) (Traversal.follow visitNode (steps b) s))
    (items : List β) {w : ConfigWalker} {s : Traversal.State UnixPath String} (h : Walks w s) :
    Matches (forEach body items w) (Traversal.follow visitNode (items.flatMap steps) s) := by
  induction items generalizing w s with
  | nil => exact h.ok
  | cons item rest ih =>
    have hfirst := hbody item w s h
    rw [forEach, List.flatMap_cons, Traversal.follow_append]
    rcases hw : body item w with ⟨result, w₁⟩
    rcases hs : Traversal.follow visitNode (steps item) s with ⟨result', s₁⟩
    rw [hw, hs] at hfirst
    obtain ⟨hresult, hwalks⟩ := hfirst
    cases result' with
    | ok => cases (show result = .ok () from hresult); exact ih hwalks
    | error limit =>
      cases (show result = .error (limitOf limit) from hresult)
      exact ⟨rfl, hwalks⟩

theorem matches_paths
    (hvisit : ∀ path w s, Walks w s → Matches (visitPath path w) (visitNode path s))
    (paths : List UnixPath) {w : ConfigWalker} {s : Traversal.State UnixPath String}
    (h : Walks w s) :
    Matches (forEach visitPath paths w) (Traversal.follow visitNode (paths.map .inr) s) := by
  have hbody : ∀ path w s, Walks w s →
      Matches (visitPath path w) (Traversal.follow visitNode [.inr path] s) := by
    intro path w s hw
    have hpath := hvisit path w s hw
    rw [Traversal.follow]
    split
    · next s₁ hs => rwa [hs] at hpath
    · next limit s₁ hs => rwa [hs] at hpath
  have hall := matches_forEach hbody paths h
  rwa [← List.map_eq_flatMap] at hall

theorem forEach_singleton {β : Type} (body : β → ConfigWalker → Outcome) (b : β)
    (w : ConfigWalker) : forEach body [b] w = body b w := by
  rw [forEach]
  split
  · next hb => exact hb.symm
  · next hb => exact hb.symm

theorem includeValue_eq (fs : FileSystem) (sshHome : UnixPath)
    (visitPath : UnixPath → ConfigWalker → Outcome) (value : List Char) (w : ConfigWalker) :
    includeValue fs sshHome visitPath value w =
      if (fs.globWith (expand sshHome value).toStringLossy).isNone then
        (.ok (), w.warn (expand sshHome value) .invalidIncludePattern)
      else forEach visitPath (includeTargets fs sshHome value) w := by
  rw [includeValue, includeTargets]
  cases hglob : fs.globWith (expand sshHome value).toStringLossy with
  | none => rfl
  | some paths =>
    simp only [Option.isNone_some, Bool.false_eq_true, if_false]
    generalize paths.filterMap id = found
    by_cases hnone : found = [] ∧ ¬ isPattern value
    · rw [if_pos hnone, forEach_singleton, hnone.1]
      exact if_pos ⟨rfl, hnone.2⟩
    · rw [if_neg hnone]
      split
      · next hfound => exact hfound.symm
      · next hfound => rw [if_neg hnone, hfound]

section Lines

variable (hvisit : ∀ path w s, Walks w s → Matches (visitPath path w) (visitNode path s))
include hvisit

theorem matches_includeValue (value : List Char) {w : ConfigWalker}
    {s : Traversal.State UnixPath String} (h : Walks w s) :
    Matches (includeValue fs sshHome visitPath value w)
      (Traversal.follow visitNode ((includeTargets fs sshHome value).map .inr) s) := by
  rw [includeValue_eq]
  split
  · next hglob =>
    have htargets : includeTargets fs sshHome value = [] := by
      rw [includeTargets, Option.isNone_iff_eq_none.mp hglob]
    rw [htargets]
    exact (h.warn _ _).ok
  · exact matches_paths hvisit _ h

theorem matches_visitWords (words : List (List Char)) {w : ConfigWalker}
    {s : Traversal.State UnixPath String} (h : Walks w s) :
    Matches (visitWords fs sshHome visitPath words w)
      (Traversal.follow visitNode (lineSteps fs sshHome words) s) := by
  cases words with
  | nil => exact h.ok
  | cons keyword values =>
    rw [visitWords, lineSteps]
    split
    · refine matches_forEach (fun value w s hw ↦ ?_) values h
      split
      · refine Walks.ok ⟨hw.visited, hw.filesRead, fun a ↦ ?_, sorted_insertSorted _ hw.sorted⟩
        rw [mem_insertSorted, hw.aliases, List.mem_append, List.mem_singleton, or_comm]
      · exact hw.ok
    split
    · exact matches_forEach (fun value w s hw ↦ matches_includeValue hvisit value hw) values h
    · exact h.ok

end Lines

/-- **The walker follows the walk.** -/
theorem matches_visit (levels : ℕ) (path : UnixPath) {w : ConfigWalker}
    {s : Traversal.State UnixPath String} (h : Walks w s) :
    Matches (visit fs sshHome levels path w)
      (Traversal.visit (hostGraph fs sshHome) maxConfigFiles levels path s) := by
  induction levels generalizing path w s with
  | zero => exact ⟨rfl, h⟩
  | succ levels ih =>
    rw [visit, Traversal.visit]
    have hresolve : (hostGraph fs sshHome).resolve path = (fs.canonicalize path).toOption := rfl
    cases hcanonical : fs.canonicalize path with
    | error error =>
      rw [hresolve, hcanonical]
      exact (h.warn _ _).ok
    | ok canonical =>
      rw [hresolve, hcanonical]
      simp only [Except.toOption, ← h.visited]
      split
      · exact h.ok
      have hcard : (s.enter canonical).seen.card = (insert canonical w.visited).card := by
        rw [Traversal.State.enter, ← h.visited]
      rw [hcard]
      split
      · exact ⟨rfl, by simp [Traversal.State.enter, h.visited], h.filesRead, h.aliases, h.sorted⟩
      · have hentered : Walks { w with
            visited := insert canonical w.visited, filesRead := w.filesRead ++ [canonical] }
            { s.enter canonical with expanded := s.expanded ++ [canonical] } :=
          ⟨by simp [Traversal.State.enter, h.visited], by simp [h.filesRead], h.aliases, h.sorted⟩
        cases htext : fs.readToString canonical with
        | none =>
          have hsteps : (hostGraph fs sshHome).steps canonical = [] := by
            simp [hostGraph, htext]
          rw [hsteps]
          exact (hentered.warn _ _).ok
        | some text =>
          have hsteps : (hostGraph fs sshHome).steps canonical =
              ((logicalLines text).map splitWords).flatMap (lineSteps fs sshHome) := by
            simp [hostGraph, htext]
          rw [hsteps]
          refine matches_forEach (fun words w s hw ↦ ?_) _ hentered
          exact matches_visitWords (fun path w s hw ↦ ih path hw) words hw

theorem walks_start : Walks .start .empty :=
  ⟨rfl, rfl, fun _ ↦ Iff.rfl, List.Pairwise.nil⟩

/-! ## What is discovered -/

def HasLine (fs : FileSystem) (file : UnixPath) (keyword : String) (values : List (List Char)) :
    Prop :=
  ∃ text word, fs.readToString file = some text ∧ word :: values ∈ configWords text ∧
    eqIgnoreAsciiCase word keyword.toList = true

/-- The file has the alias among the tokens of a `Host` line. -/
def HasHost (fs : FileSystem) (file : UnixPath) (a : String) : Prop :=
  ∃ values, HasLine fs file "host" values ∧
    ∃ value ∈ values, isConcrete value = true ∧ String.ofList value = a

/-- The file has an `Include` line that leads to the other file. -/
def Includes (fs : FileSystem) (sshHome : UnixPath) (file other : UnixPath) : Prop :=
  ∃ values, HasLine fs file "include" values ∧
    ∃ value ∈ values, ∃ path ∈ includeTargets fs sshHome value, fs.canonicalize path = .ok other

/-- The files that can be reached from the configuration. -/
def ReachableFile (fs : FileSystem) (configPath sshHome file : UnixPath) : Prop :=
  ∃ root, fs.canonicalize configPath = .ok root ∧
    Relation.ReflTransGen (Includes fs sshHome) root file

theorem mem_steps_iff (fs : FileSystem) (sshHome file : UnixPath) (step : String ⊕ UnixPath) :
    step ∈ (hostGraph fs sshHome).steps file ↔
      ∃ text, fs.readToString file = some text ∧
        ∃ words ∈ configWords text, step ∈ lineSteps fs sshHome words := by
  have hlines (text : List Char) :
      step ∈ ((logicalLines text).map splitWords).flatMap (lineSteps fs sshHome) ↔
        ∃ words ∈ configWords text, step ∈ lineSteps fs sshHome words := by
    rw [List.mem_flatMap]
    constructor
    · rintro ⟨words, hwords, hstep⟩
      have hne : words ≠ [] := by
        rintro rfl
        exact absurd hstep List.not_mem_nil
      exact ⟨words, List.mem_filter.mpr ⟨hwords, decide_eq_true hne⟩, hstep⟩
    · rintro ⟨words, hwords, hstep⟩
      exact ⟨words, (List.mem_filter.mp hwords).1, hstep⟩
  rw [hostGraph]
  cases htext : fs.readToString file with
  | none => simp [htext]
  | some text => simp [htext, hlines]

theorem inl_mem_lineSteps_iff (keyword : List Char) (values : List (List Char)) (a : String) :
    .inl a ∈ lineSteps fs sshHome (keyword :: values) ↔
      eqIgnoreAsciiCase keyword "host".toList = true ∧
        ∃ value ∈ values, isConcrete value = true ∧ String.ofList value = a := by
  rw [lineSteps]
  split
  · next hhost =>
    simp only [hhost, true_and, List.mem_flatMap]
    refine exists_congr fun value ↦ and_congr_right fun _ ↦ ?_
    split
    · next hconcrete => simp [hconcrete, eq_comm]
    · next hconcrete => simp [hconcrete]
  · next hhost =>
    refine iff_of_false (fun h ↦ ?_) fun h ↦ hhost h.1
    split at h
    · obtain ⟨value, -, hvalue⟩ := List.mem_flatMap.mp h
      simp at hvalue
    · exact absurd h List.not_mem_nil

theorem inr_mem_lineSteps_iff (keyword : List Char) (values : List (List Char)) (path : UnixPath) :
    .inr path ∈ lineSteps fs sshHome (keyword :: values) ↔
      eqIgnoreAsciiCase keyword "include".toList = true ∧
        ∃ value ∈ values, path ∈ includeTargets fs sshHome value := by
  rw [lineSteps]
  split
  · next hhost =>
    -- no word is both keywords
    have hinclude : eqIgnoreAsciiCase keyword "include".toList = false := by
      rw [eqIgnoreAsciiCase, decide_eq_true_iff] at hhost
      rw [eqIgnoreAsciiCase, hhost]
      decide
    rw [hinclude]
    refine iff_of_false (fun h ↦ ?_) fun h ↦ Bool.false_ne_true h.1
    obtain ⟨value, -, hvalue⟩ := List.mem_flatMap.mp h
    split at hvalue <;> simp at hvalue
  · split
    · next hinclude =>
      rw [and_iff_right hinclude]
      simp
    · next hinclude => exact iff_of_false List.not_mem_nil fun h ↦ hinclude h.1

theorem inl_mem_steps_iff (file : UnixPath) (a : String) :
    .inl a ∈ (hostGraph fs sshHome).steps file ↔ HasHost fs file a := by
  rw [mem_steps_iff]
  constructor
  · rintro ⟨text, htext, words, hwords, hstep⟩
    cases words with
    | nil => exact absurd hstep List.not_mem_nil
    | cons keyword values =>
      obtain ⟨hhost, hvalue⟩ := (inl_mem_lineSteps_iff keyword values a).mp hstep
      exact ⟨values, ⟨text, keyword, htext, hwords, hhost⟩, hvalue⟩
  · rintro ⟨values, ⟨text, keyword, htext, hwords, hhost⟩, hvalue⟩
    exact ⟨text, htext, _, hwords, (inl_mem_lineSteps_iff keyword values a).mpr ⟨hhost, hvalue⟩⟩

theorem resolve_eq_some_iff (path file : UnixPath) :
    (hostGraph fs sshHome).resolve path = some file ↔ fs.canonicalize path = .ok file := by
  show (fs.canonicalize path).toOption = some file ↔ _
  cases fs.canonicalize path with
  | error error => simp [Except.toOption]
  | ok canonical => simp [Except.toOption]

theorem edge_iff (file other : UnixPath) :
    Traversal.Edge (hostGraph fs sshHome) file other ↔ Includes fs sshHome file other := by
  simp only [Traversal.Edge, mem_steps_iff, resolve_eq_some_iff]
  constructor
  · rintro ⟨path, ⟨text, htext, words, hwords, hstep⟩, hcanonical⟩
    cases words with
    | nil => exact absurd hstep List.not_mem_nil
    | cons keyword values =>
      obtain ⟨hinclude, value, hvalue, hpath⟩ :=
        (inr_mem_lineSteps_iff keyword values path).mp hstep
      exact ⟨values, ⟨text, keyword, htext, hwords, hinclude⟩, value, hvalue, path, hpath,
        hcanonical⟩
  · rintro ⟨values, ⟨text, keyword, htext, hwords, hinclude⟩, value, hvalue, path, hpath,
      hcanonical⟩
    exact ⟨path, ⟨text, htext, _, hwords, (inr_mem_lineSteps_iff keyword values path).mpr
      ⟨hinclude, value, hvalue, hpath⟩⟩, hcanonical⟩

theorem reachable_iff (configPath file : UnixPath) :
    Traversal.Reachable (hostGraph fs sshHome) configPath file ↔
      ReachableFile fs configPath sshHome file := by
  have hedge : Traversal.Edge (hostGraph fs sshHome) = Includes fs sshHome := by
    funext file other
    exact propext (edge_iff file other)
  simp only [Traversal.Reachable, ReachableFile, hedge, resolve_eq_some_iff]

/-- **What host discovery returns.** It ends on every file system, and has read at most
`maxConfigFiles` files, no file twice. When it succeeds, its aliases are in order and without
duplicates the concrete, valid tokens of the `Host` lines of all files that can be reached from the
configuration through `Include` lines of readable files. -/
theorem discoverHosts_correct (fs : FileSystem) (configPath sshHome : UnixPath) :
    (walkHosts fs configPath sshHome).2.filesRead.Nodup ∧
    (walkHosts fs configPath sshHome).2.filesRead.length ≤ maxConfigFiles ∧
    ∀ discovery, discoverHosts fs configPath sshHome = .ok discovery →
      discovery.aliases.Pairwise (· < ·) ∧
      ∀ a, a ∈ discovery.aliases ↔
        ∃ file, ReachableFile fs configPath sshHome file ∧ HasHost fs file a := by
  have hmatches : Matches (walkHosts fs configPath sshHome)
      (Traversal.visit (hostGraph fs sshHome) maxConfigFiles (maxIncludeDepth + 1) configPath
        .empty) :=
    matches_visit _ configPath walks_start
  have hbounded : Traversal.Bounded maxConfigFiles
      (Traversal.visit (hostGraph fs sshHome) maxConfigFiles (maxIncludeDepth + 1) configPath
        .empty).2 :=
    Traversal.Bounded.visit _ configPath ⟨List.nodup_nil, by simp [Traversal.State.empty], by
      simp [Traversal.State.empty]⟩
  rw [hmatches.walks.filesRead]
  refine ⟨hbounded.nodup, hbounded.length, fun discovery h ↦ ?_⟩
  rw [discoverHosts] at h
  split at h
  · next w hw =>
    cases h
    rw [hw] at hmatches
    obtain ⟨hresult, hwalks⟩ := hmatches
    rcases hs : Traversal.visit (hostGraph fs sshHome) maxConfigFiles (maxIncludeDepth + 1)
      configPath .empty with ⟨result, s⟩
    rw [hs] at hresult hwalks
    cases result with
    | error limit => cases hresult
    | ok =>
      refine ⟨hwalks.sorted, fun a ↦ ?_⟩
      rw [hwalks.aliases, Traversal.mem_found_iff hs]
      simp only [reachable_iff, inl_mem_steps_iff]
  · cases h

/-- A configuration and a file that include each other, and a file that is missing. -/
def exampleFiles : FileSystem :=
  let config := UnixPath.ofText "/home/.ssh/config".toList
  let work := UnixPath.ofText "/home/.ssh/work".toList
  { canonicalize := fun path ↦ if path = config ∨ path = work then .ok path else .error .notFound
    readToString := fun path ↦
      if path = config then some "Include work ~/.ssh/missing\nHost web *.example".toList
      else some "Host db web\nInclude config".toList
    globWith := fun pattern ↦
      let path := UnixPath.ofText pattern
      some (if path = config ∨ path = work then [some path] else []) }

/-- The two files are read once each, and their aliases come in order. -/
theorem discoverHosts_correct_exampleFiles :
    ∃ discovery, discoverHosts exampleFiles (.ofText "/home/.ssh/config".toList)
        (.ofText "/home/.ssh".toList) = .ok discovery ∧
      discovery = ⟨["db", "web"], [⟨.ofText "/home/.ssh/missing".toList, .missing⟩]⟩ ∧
      discovery.aliases.Pairwise (· < ·) ∧
      ∃ file, ReachableFile exampleFiles (.ofText "/home/.ssh/config".toList)
        (.ofText "/home/.ssh".toList) file ∧ HasHost exampleFiles file "db" := by
  have hresult : discoverHosts exampleFiles (.ofText "/home/.ssh/config".toList)
      (.ofText "/home/.ssh".toList) =
        .ok ⟨["db", "web"], [⟨.ofText "/home/.ssh/missing".toList, .missing⟩]⟩ := by
    decide +kernel
  have hcorrect := (discoverHosts_correct exampleFiles _ _).2.2 _ hresult
  exact ⟨_, hresult, rfl, hcorrect.1, (hcorrect.2 "db").mp (by decide)⟩

end TunnelDeck
