import TunnelDeck.Text.Json

/-!
# The admission of an issue

Before it lets a hook run, `gate.py` asks GitHub for the issue, for the issues that block it and for
the pull requests of its branch. Each answer is a list of pages, as `gh api --paginate --slurp`
gives it, and everything in it is checked before it counts. A text in the place of an answer is what
`Refused` says.

## Main result

`check_eq_ok_iff`: what `check` admits, said of the answers themselves.
-/

namespace TunnelDeck.Symphony

open Json (Value)

/-! ## Model -/

/-- What `api` gives for a query. -/
abbrev Pages := Except String (List Value)

/-- What GitHub answers to the queries of `check`. -/
structure Answers where
  issue : Pages
  dependencies : Pages
  pulls : Pages

/-- `key in object`. -/
def hasKey (v : Value) (key : String) : Bool :=
  match v with
  | .object fields => (fields.lookup key).isSome
  | _ => false

/-- `isinstance(value, dict)`. -/
def isObject : Value → Bool
  | .object _ => true
  | _ => false

/-- `listing`. -/
def listing (answer : Pages) : Except String (List Value) := do
  let pages ← answer
  match pages.mapM Value.asArray with
  | some lists => .ok lists.flatten
  | none => .error "GitHub API returned an invalid list"

def labelName (label : Value) : Option String :=
  if isObject label then (label.get "name").asStr else none

/-- A state that an issue can be in, and whether it is `open`. -/
def openState (v : Value) : Option Bool :=
  if v.get "state" = .string "open" then some true
  else if v.get "state" = .string "closed" then some false
  else none

/-- Whether the issue is open, and the names of its labels, unless the object is not that of the
issue. -/
def readIssue (number : ℕ) (issue : Value) : Option (Bool × List String) :=
  if isObject issue && issue.get "number" = .int number && !hasKey issue "pull_request" then do
    let isOpen ← openState issue
    let labels ← (issue.get "labels").asArray
    let names ← labels.mapM labelName
    return (isOpen, names)
  else none

def isSlugChar (c : Char) : Bool := c.isAlphanum || c = '_' || c = '.' || c = '-'

/-- The owner and the name of a repository: `[A-Za-z0-9_.-]+/[A-Za-z0-9_.-]+`. -/
def isSlug (cs : List Char) : Bool :=
  let owner := cs.takeWhile isSlugChar
  match cs.dropWhile isSlugChar with
  | '/' :: name => owner ≠ [] && name ≠ [] && name.all isSlugChar
  | _ => false

/-- What the address of a repository begins with. -/
def repositories : List Char := "https://api.github.com/repos/".toList

def slugOf (url : String) : Option String :=
  if repositories.isPrefixOf url.toList && isSlug (url.toList.drop repositories.length) then
    some (String.ofList (url.toList.drop repositories.length))
  else none

/-- An issue that the issue depends on: whether it is open, and its name. -/
def readDependency (dependency : Value) : Option (Bool × String) :=
  if isObject dependency then do
    let isOpen ← openState dependency
    match dependency.get "number" with
    | .int number =>
      if number ≤ 0 then none
      else
        let url ← (dependency.get "repository_url").asStr
        let slug ← slugOf url
        return (isOpen, slug ++ "#" ++ toString number)
    | _ => none
  else none

/-- `check`. -/
def check (number : ℕ) (answers : Answers) : Except String Unit := do
  let pages ← answers.issue
  match pages.map (readIssue number) with
  | [some (isOpen, names)] =>
    if !isOpen || "human-review" ∈ names then
      .error "issue already closed or awaiting human review"
    else if "agent-ready" ∉ names || "blocked" ∈ names then
      .error "issue is not eligible (agent-ready required; blocked must be removed)"
    else
      let dependencies ← listing answers.dependencies
      match dependencies.mapM readDependency with
      | none => .error "GitHub API returned an invalid dependency"
      | some dependencies =>
        let blockers := (dependencies.filter Prod.fst).map Prod.snd
        if blockers ≠ [] then .error ("open dependencies: " ++ ", ".intercalate blockers)
        else
          let prs ← listing answers.pulls
          if prs ≠ [] then .error "branch already has PR history; human review required"
          else .ok ()
  | _ => .error "GitHub API returned an invalid issue"

/-! ## What is admitted -/

/-- The issue that GitHub describes is open and waits for the agent, and nobody else is to look at
it. -/
structure Waits (number : ℕ) (issue : Value) : Prop where
  object : isObject issue
  number : issue.get "number" = .int number
  notPull : hasKey issue "pull_request" = false
  state : issue.get "state" = .string "open"
  labels : ∃ (labels : List Value) (names : List String), issue.get "labels" = .array labels ∧
    labels.map labelName = names.map some ∧ "agent-ready" ∈ names ∧ "blocked" ∉ names ∧
      "human-review" ∉ names

/-- A dependency that GitHub describes in full is closed. -/
def Closed (dependency : Value) : Prop := ∃ name, readDependency dependency = some (false, name)

/-- An issue that may be worked on. -/
structure Eligible (number : ℕ) (answers : Answers) : Prop where
  /-- The issue itself. -/
  issue : ∃ issue, answers.issue = .ok [issue] ∧ Waits number issue
  /-- Everything on every page of the dependencies is closed. -/
  dependencies : ∃ pages : List (List Value), answers.dependencies = .ok (pages.map Value.array) ∧
    ∀ page ∈ pages, ∀ dependency ∈ page, Closed dependency
  /-- Every page of the pull requests is empty. -/
  pulls : ∃ count, answers.pulls = .ok (List.replicate count (.array []))

variable {number : ℕ} {answers : Answers}

theorem openState_eq_true_iff {v : Value} :
    openState v = some true ↔ v.get "state" = .string "open" := by
  rw [openState]
  split_ifs with h h' <;> simp [h]

theorem asArray_eq_some_iff {v : Value} {items : List Value} :
    v.asArray = some items ↔ v = .array items := by
  cases v <;> simp [Value.asArray]

theorem mapM_eq_some_iff_map {α β : Type} {f : α → Option β} {as : List α} {bs : List β} :
    as.mapM f = some bs ↔ as.map f = bs.map some := by
  induction as generalizing bs with
  | nil => cases bs <;> simp
  | cons a as ih =>
    rw [List.mapM_cons]
    cases bs with
    | nil => cases f a <;> cases as.mapM f <;> simp
    | cons b bs =>
      rw [List.map_cons, List.map_cons, List.cons.injEq, ← ih]
      cases f a <;> cases as.mapM f <;> simp

theorem mapM_asArray_eq_some_iff {pages : List Value} {lists : List (List Value)} :
    pages.mapM Value.asArray = some lists ↔ pages = lists.map Value.array := by
  rw [mapM_eq_some_iff_map]
  induction pages generalizing lists with
  | nil => cases lists <;> simp
  | cons page pages ih => cases lists <;> simp [ih, asArray_eq_some_iff]

theorem listing_eq_ok_iff {answer : Pages} {items : List Value} :
    listing answer = .ok items ↔
      ∃ lists : List (List Value), answer = .ok (lists.map Value.array) ∧
        lists.flatten = items := by
  rcases answer with text | pages
  · simp [listing, bind, Except.bind]
  · cases hlists : pages.mapM Value.asArray with
    | none =>
      constructor
      · intro h
        simp [listing, bind, Except.bind, hlists] at h
      · rintro ⟨lists, hpages, -⟩
        rw [mapM_asArray_eq_some_iff.mpr (Except.ok.inj hpages)] at hlists
        cases hlists
    | some lists =>
      have hpages := mapM_asArray_eq_some_iff.mp hlists
      constructor
      · intro h
        simp only [listing, bind, Except.bind, hlists, Except.ok.injEq] at h
        exact ⟨lists, by rw [hpages], h⟩
      · rintro ⟨other, hother, hflat⟩
        have hsame := mapM_asArray_eq_some_iff.mpr (Except.ok.inj hother)
        rw [hlists, Option.some.injEq] at hsame
        simp only [listing, bind, Except.bind, hlists, hsame, hflat]

theorem readIssue_eq_some_iff {issue : Value} {names : List String} :
    readIssue number issue = some (true, names) ↔
      isObject issue ∧ issue.get "number" = .int number ∧ hasKey issue "pull_request" = false ∧
        issue.get "state" = .string "open" ∧
          ∃ labels : List Value, issue.get "labels" = .array labels ∧
            labels.map labelName = names.map some := by
  rw [readIssue, ← openState_eq_true_iff]
  split_ifs with h
  · simp only [Bool.and_eq_true, decide_eq_true_eq, Bool.not_eq_true'] at h
    obtain ⟨⟨hobject, hnumber⟩, hpull⟩ := h
    simp only [hobject, hnumber, hpull, true_and]
    simp only [← asArray_eq_some_iff, ← mapM_eq_some_iff_map, bind, Option.bind_eq_some_iff,
      pure, Option.some.injEq, Prod.mk.injEq]
    constructor
    · rintro ⟨isOpen, hopen, labels, hlabels, found, hfound, rfl, rfl⟩
      exact ⟨hopen, labels, hlabels, hfound⟩
    · rintro ⟨hopen, labels, hlabels, hfound⟩
      exact ⟨true, hopen, labels, hlabels, names, hfound, rfl, rfl⟩
  · constructor
    · intro hnone
      cases hnone
    · rintro ⟨hobject, hnumber, hpull, -⟩
      simp [hobject, hnumber, hpull] at h

theorem exists_of_map_readIssue {pages : List Value} {names : List String}
    (h : pages.map (readIssue number) = [some (true, names)]) :
    ∃ issue, pages = [issue] ∧ readIssue number issue = some (true, names) := by
  obtain ⟨issue, rest, rfl, hissue, hrest⟩ := List.map_eq_cons_iff.mp h
  rw [List.map_eq_nil_iff] at hrest
  subst hrest
  exact ⟨issue, rfl, hissue⟩

/-- No dependency blocks the issue exactly when each of them is closed. -/
theorem closed_iff {dependencies : List Value} :
    (∃ found, dependencies.mapM readDependency = some found ∧
        (found.filter Prod.fst).map Prod.snd = []) ↔
      ∀ dependency ∈ dependencies, Closed dependency := by
  simp only [mapM_eq_some_iff_map]
  induction dependencies with
  | nil =>
    constructor
    · intro _ dependency hdependency
      cases hdependency
    · intro _
      exact ⟨[], rfl, rfl⟩
  | cons dependency dependencies ih =>
    rw [List.forall_mem_cons, ← ih]
    constructor
    · rintro ⟨found, hfound, hnone⟩
      obtain ⟨⟨isOpen, name⟩, rest, rfl, hfirst, hrest⟩ := List.map_eq_cons_iff.mp hfound.symm
      cases isOpen with
      | true => simp at hnone
      | false => exact ⟨⟨name, hfirst.symm⟩, rest, hrest.symm, by simpa using hnone⟩
    · rintro ⟨⟨name, hfirst⟩, rest, hrest, hnone⟩
      exact ⟨(false, name) :: rest, by rw [List.map_cons, hfirst, hrest, List.map_cons],
        by simpa using hnone⟩

theorem listing_eq_nil_iff {answer : Pages} :
    listing answer = .ok [] ↔ ∃ count, answer = .ok (List.replicate count (.array [])) := by
  rw [listing_eq_ok_iff]
  constructor
  · rintro ⟨lists, hanswer, hflat⟩
    refine ⟨lists.length, ?_⟩
    rw [List.eq_replicate_of_mem (List.flatten_eq_nil_iff.mp hflat), List.map_replicate] at hanswer
    exact hanswer
  · rintro ⟨count, hanswer⟩
    exact ⟨List.replicate count [], by rw [List.map_replicate, hanswer], by simp⟩

/-- **What the gate admits.** -/
theorem check_eq_ok_iff : check number answers = .ok () ↔ Eligible number answers := by
  constructor
  · intro h
    rw [check] at h
    rcases hissue : answers.issue with text | pages
    · rw [hissue] at h
      cases h
    rw [hissue] at h
    simp only [bind, Except.bind] at h
    split at h
    · rename_i isOpen names hpages
      split_ifs at h with hstate hlabels
      rcases hlisting : listing answers.dependencies with text | dependencies
      · rw [hlisting] at h
        cases h
      rw [hlisting] at h
      simp only at h
      split at h
      · cases h
      · rename_i found hfound
        split_ifs at h with hblockers
        rcases hpulls : listing answers.pulls with text | prs
        · rw [hpulls] at h
          cases h
        rw [hpulls] at h
        simp only at h
        split_ifs at h with hprs
        rw [Decidable.not_not] at hblockers hprs
        simp only [Bool.or_eq_true, Bool.not_eq_true', decide_eq_true_eq, not_or,
          Bool.not_eq_false, Decidable.not_not] at hstate hlabels
        obtain ⟨rfl, hreview⟩ := hstate
        obtain ⟨issue, rfl, hread⟩ := exists_of_map_readIssue hpages
        obtain ⟨hobject, hnumber, hpull, hopen, labels, harray, hnames⟩ :=
          readIssue_eq_some_iff.mp hread
        obtain ⟨lists, hdependencies, rfl⟩ := listing_eq_ok_iff.mp hlisting
        rw [hprs] at hpulls
        constructor
        · exact ⟨issue, hissue, hobject, hnumber, hpull, hopen, labels, names, harray, hnames,
            hlabels.1, hlabels.2, hreview⟩
        · refine ⟨lists, hdependencies, fun page hpage dependency hdependency ↦ ?_⟩
          exact closed_iff.mp ⟨found, hfound, hblockers⟩ dependency
            (List.mem_flatten.mpr ⟨page, hpage, hdependency⟩)
        · exact listing_eq_nil_iff.mp hpulls
    · cases h
  · rintro ⟨⟨issue, hissue, hwaits⟩, ⟨lists, hdependencies, hclosed⟩, hpulls⟩
    obtain ⟨labels, names, harray, hnames, hready, hblocked, hreview⟩ := hwaits.labels
    have hread : readIssue number issue = some (true, names) :=
      readIssue_eq_some_iff.mpr ⟨hwaits.object, hwaits.number, hwaits.notPull, hwaits.state,
        labels, harray, hnames⟩
    have hlisting : listing answers.dependencies = .ok lists.flatten :=
      listing_eq_ok_iff.mpr ⟨lists, hdependencies, rfl⟩
    have hall : ∀ dependency ∈ lists.flatten, Closed dependency := by
      intro dependency hdependency
      obtain ⟨page, hpage, hmem⟩ := List.mem_flatten.mp hdependency
      exact hclosed page hpage dependency hmem
    obtain ⟨found, hfound, hblockers⟩ := closed_iff.mpr hall
    simp [check, hissue, bind, Except.bind, hread, hreview, hready, hblocked, hlisting, hfound,
      hblockers, listing_eq_nil_iff.mpr hpulls]

end TunnelDeck.Symphony
