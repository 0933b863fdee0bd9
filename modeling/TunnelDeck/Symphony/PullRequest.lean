import TunnelDeck.Symphony.Admission
import TunnelDeck.Symphony.Risk

/-!
# What GitHub says of a pull request

Before the review driver merges, it asks GitHub for the pull request, for the dependencies of its
issue, for the check runs of its head and for the findings of CodeRabbit. All of it is untrusted:
each answer is a list of pages of JSON, and everything in it that counts is checked first.

## Main result

`mergeable_of_passes`: answers at which nothing stops the driver describe a pull request that may be
merged.
-/

namespace TunnelDeck.Symphony

open Json (Value)
open Text.Python

/-! ## The pull request -/

/-- `[0-9a-f]{40}`. -/
def isSha (s : String) : Bool :=
  s.length = 40 && s.toList.all fun c ↦ c.isDigit || 'a' ≤ c && c ≤ 'f'

def shaOf (v : Value) : Option String := v.asStr.filter isSha

/-- `bool(value)`. `isZero` says which numbers with a fraction are zero. -/
def isTruthy (isZero : String → Bool) : Value → Bool
  | .null => false
  | .bool b => b
  | .int n => n ≠ 0
  | .float text => !isZero text
  | .string s => s ≠ ""
  | .array items => items ≠ []
  | .object fields => !fields.isEmpty

/-- `\s*$`: there is nothing but white space up to the end of a line. -/
def endsLine (cs : List Char) : Bool :=
  cs.dropWhile isSpace = [] || '\n' ∈ cs.takeWhile isSpace

def behind : List Char → List Char → Option (List Char)
  | [], cs => some cs
  | _ :: _, [] => none
  | p :: text, c :: cs => if p = c then behind text cs else none

/-- `Refs\s+#number\s*$`, at the beginning. -/
def refersHere (number : ℕ) (cs : List Char) : Bool :=
  match afterWord ['r', 'e', 'f', 's'] cs with
  | none => false
  | some rest =>
    rest.takeWhile isSpace ≠ [] &&
      match behind ('#' :: (toString number).toList) (rest.dropWhile isSpace) with
      | none => false
      | some after => endsLine after

/-- The search for `^Refs\s+#number\s*$` behind the first character of a text. -/
def refersLater (number : ℕ) : List Char → Bool
  | [] => false
  | c :: cs => (c = '\n' && refersHere number cs) || refersLater number cs

/-- The search for `^Refs\s+#number\s*$`. -/
def refersTo (number : ℕ) (body : List Char) : Bool :=
  refersHere number body || refersLater number body

def repo : String := "kshiva1126/tunnel-deck"

def branchOf (number : ℕ) : String := "symphony/issue-" ++ toString number

/-- The commits of a pull request that is the expected one. -/
def readPr (isZero : String → Bool) (number prNumber : ℕ) (pr : Value) : Option Heads :=
  let base := pr.get "base"
  let head := pr.get "head"
  if pr.get "number" = .int prNumber && pr.get "state" = .string "open" &&
      !isTruthy isZero (pr.get "merged") && base.get "ref" = .string "main" &&
      (base.get "repo").get "full_name" = .string repo &&
      head.get "ref" = .string (branchOf number) &&
      (head.get "repo").get "full_name" = .string repo &&
      (pr.get "body").asStr.any fun body ↦ refersTo number body.toList then do
    let baseSha ← shaOf (base.get "sha")
    let headSha ← shaOf (head.get "sha")
    return ⟨headSha, baseSha⟩
  else none

/-- `one`. -/
def one (answer : Pages) : Except String Value := do
  match ← answer with
  | [page] => if isObject page then .ok page else .error "GitHub returned an invalid object"
  | _ => .error "GitHub returned an invalid object"

/-- `expected_pr`. -/
def expectedPr (isZero : String → Bool) (number prNumber : ℕ) (expected : Option Heads)
    (answer : Pages) : Except String Heads := do
  let pr ← one answer
  match readPr isZero number prNumber pr with
  | some heads =>
    if expected.all (· = heads) then .ok heads
    else .error "PR identity, state, branch, issue, or head SHA is inconsistent"
  | none => .error "PR identity, state, branch, issue, or head SHA is inconsistent"

/-! ## The dependencies -/

/-- A dependency of the issue: whether it is open, and its number. -/
def readBlocker (item : Value) : Option (Bool × ℤ) :=
  if isObject item then do
    let isOpen ← openState item
    match item.get "number" with
    | .int number => return (isOpen, number)
    | _ => none
  else none

/-- `open_dependencies`. -/
def openDependencies (answer : Pages) : Except String (List ℤ) := do
  let items ← listing answer
  match items.mapM readBlocker with
  | none => .error "GitHub returned invalid dependency data"
  | some blockers => .ok ((blockers.filter Prod.fst).map Prod.snd)

/-! ## The checks -/

/-- The names in `SYMPHONY_REQUIRED_CHECKS`. -/
def requiredChecks (text : String) : List String :=
  (((text.toList.splitOn ',').map strip).filter (· ≠ [])).map String.ofList

/-- What the driver looks at in a check run. -/
structure CheckRun where
  name : String
  id : ℤ
  completed : Bool
  conclusion : Value
  /-- The whole object. -/
  object : Value

def readStatus (v : Value) : Option Bool :=
  if v.get "status" = .string "completed" then some true
  else if v.get "status" = .string "queued" ∨ v.get "status" = .string "in_progress" then some false
  else none

def readCheckRun (run : Value) : Option CheckRun := do
  let name ← (run.get "name").asStr
  match run.get "id" with
  | .int id =>
    if id ≤ 0 then none
    else
      let completed ← readStatus run
      return ⟨name, id, completed, run.get "conclusion", run⟩
  | _ => none

/-- The run is the one of its name unless a later one is known. -/
def takeRun (byName : String → Option CheckRun) (run : CheckRun) : String → Option CheckRun :=
  if (byName run.name).all (·.id < run.id) then Function.update byName run.name (some run)
  else byName

def latestRuns (runs : List CheckRun) : String → Option CheckRun :=
  runs.foldl takeRun fun _ ↦ none

def successes : List String := ["success", "neutral", "skipped"]

/-- `run["conclusion"] in SUCCESS`. -/
def CheckRun.succeeded (run : CheckRun) : Bool := run.conclusion.asStr.any (· ∈ successes)

/-- A list and a dictionary cannot be looked for in a set. -/
def isHashable : Value → Bool
  | .array _ | .object _ => false
  | _ => true

/-- `check_state`: the state and the runs that have failed. -/
def checkState (required : List String) (answer : Pages) :
    Except String (CheckState × List CheckRun) := do
  let response ← one answer
  match (response.get "check_runs").asArray with
  | none => .error "GitHub returned invalid check data"
  | some items =>
    if !items.all isObject then .error "GitHub returned invalid check data"
    else if required = [] ∨ ¬ required.Nodup then
      .error "required check configuration is empty or ambiguous"
    else
      match items.mapM readCheckRun with
      | none => .error "GitHub returned invalid check data"
      | some runs =>
        match required.mapM (latestRuns runs) with
        | none => .ok (.pending, [])
        | some latest =>
          let completed := latest.filter (·.completed)
          if completed.any (!isHashable ·.conclusion) then .error "unhashable type"
          else
            let failed := completed.filter (!·.succeeded)
            .ok (if latest.any (!·.completed) then .pending
              else if failed ≠ [] then .failed else .success, failed)

/-! ## The findings -/

/-- What is said of an answer of the review API that cannot be used. -/
def apiFailed : String := "GitHub review API failed, timed out, or returned invalid data"

def invalidThread : String := "GitHub review API returned invalid thread data"

def invalidComment : String := "GitHub review API returned invalid comment data"

def invalidRemark : String := "GitHub review API returned invalid CodeRabbit data"

/-- `value[key]`. -/
def index (v : Value) (key : String) : Except String Value :=
  match v with
  | .object fields =>
    match fields.lookup key with
    | some value => .ok value
    | none => .error apiFailed
  | _ => .error apiFailed

/-- The nodes of a connection that has no further page. -/
def readNodes (invalid incomplete : String) (connection : Value) : Except String (List Value) :=
  match (connection.get "pageInfo").get "hasNextPage", (connection.get "nodes").asArray with
  | .bool more, some nodes => if more then .error incomplete else .ok nodes
  | _, _ => .error invalid

/-- `"coderabbit" in login.lower()`. -/
def isCodeRabbit (login : String) : Bool :=
  Text.contains (login.toList.map Char.toLower) "coderabbit".toList

/-- CodeRabbit has written the comment. -/
def isRemark (comment : Value) : Bool :=
  ((comment.get "author").get "login").asStr.any isCodeRabbit

/-- `isinstance(value, str)` and `type(value) is int`, where the value may be missing. -/
def isOptional (read : Value → Bool) (v : Value) : Bool := v = .null || read v

def isInt : Value → Bool
  | .int _ => true
  | _ => false

def readRemark (comment : Value) : Except String String :=
  let commit := comment.get "commit"
  if (comment.get "body").asStr.isNone || !isOptional (·.asStr.isSome) (comment.get "path") ||
      !isOptional isInt (comment.get "line") || !isObject commit || !hasKey commit "oid" then
    .error invalidRemark
  else
    match commit.get "oid" with
    | .string oid => if isSha oid then .ok oid else .error invalidRemark
    | _ => .error apiFailed

/-- What is kept of a remark. -/
def finding (sha : String) (comment : Value) : Value :=
  .object [("body", comment.get "body"), ("path", comment.get "path"), ("line", comment.get "line"),
    ("commit_sha", .string sha)]

def readComment (comment : Value) : Except String (Option Value) :=
  if !isObject comment then .error invalidComment
  else if isRemark comment then do
    discard <| readRemark comment
    return some comment
  else .ok none

def readRemarks (nodes : List Value) : Except String (List Value) := do
  let comments ← nodes.mapM readComment
  return comments.filterMap id

/-- The finding in a thread that nobody has resolved. -/
def readThread (sha : String) (thread : Value) : Except String (Option Value) :=
  match thread.get "isResolved", thread.get "comments" with
  | .bool resolved, .object fields => do
    let nodes ← readNodes invalidComment "review comment response is incomplete" (.object fields)
    let remarks ← readRemarks nodes
    match remarks.getLast? with
    | some last =>
      return if !resolved && (last.get "commit").get "oid" = .string sha then
        some (finding sha last) else none
    | none => return none
  | _, _ => .error invalidThread

/-- What the driver looks at in a review. -/
structure Review where
  id : ℤ
  login : String
  body : String
  commit : String

def readReview (review : Value) : Option Review := do
  let login ← ((review.get "user").get "login").asStr
  let body ← (review.get "body").asStr
  let commit ← (review.get "commit_id").asStr
  match review.get "id" with
  | .int id => return ⟨id, login, body, commit⟩
  | _ => none

/-- `\*\*Actionable comments posted:\s*([0-9]+)\*\*`, at the beginning. -/
def actionableHere (cs : List Char) : Option ℕ := do
  let rest ← behind "**Actionable comments posted:".toList cs
  let digits := (rest.dropWhile isSpace).takeWhile Char.isDigit
  if digits = [] then none
  else
    discard <| behind ['*', '*'] ((rest.dropWhile isSpace).dropWhile Char.isDigit)
    return Nat.ofDigitChars 10 digits 0

/-- The first number of actionable comments in a text. -/
def actionable : List Char → Option ℕ
  | [] => none
  | c :: cs =>
    match actionableHere (c :: cs) with
    | some number => some number
    | none => actionable cs

/-- `max(reviews, key=id)`. -/
def latestReview : List Review → Option Review
  | [] => none
  | review :: reviews =>
    some (reviews.foldl (fun latest review ↦ if latest.id < review.id then review else latest)
      review)

def reviewFinding (sha : String) (reviews : List Review) : Option Value := do
  let latest ← latestReview (reviews.filter fun r ↦ isCodeRabbit r.login && r.commit = sha)
  let number ← actionable latest.body.toList
  if number = 0 then none
  else
    return .object [("body", .string latest.body), ("path", .null), ("line", .null),
      ("commit_sha", .string sha), ("source", .string "review_body")]

def reviewThreads (document : Value) : Except String Value := do
  let data ← index document "data"
  let repository ← index data "repository"
  let pullRequest ← index repository "pullRequest"
  index pullRequest "reviewThreads"

/-- `review_findings`, with what the review API answers. -/
def reviewFindings (sha : String) (document : Except String Value) (reviews : Pages) :
    Except String (List Value) := do
  let threads ← reviewThreads (← document)
  let nodes ← readNodes invalidThread "review thread response is incomplete" threads
  let findings ← nodes.mapM (readThread sha)
  match ← reviews with
  | [.array items] =>
    match items.mapM readReview with
    | some reviews => return findings.filterMap id ++ (reviewFinding sha reviews).toList
    | none => throw "CodeRabbit review response is invalid"
  | _ => throw "CodeRabbit review response is incomplete or invalid"

/-! ## What may be merged -/

/-- There is a line, from some place on, that refers to the issue. -/
def RefersTo (number : ℕ) (body : List Char) : Prop :=
  ∃ before word gap space after,
    body = before ++ (word ++ (gap ++ '#' :: ((toString number).toList ++ (space ++ after)))) ∧
    (before = [] ∨ before.getLast? = some '\n') ∧
    List.Forall₂ (fun p c ↦ foldsTo p c = true) ['r', 'e', 'f', 's'] word ∧
    gap ≠ [] ∧ (∀ c ∈ gap ++ space, isSpace c = true) ∧ (after = [] ∨ after.head? = some '\n')

/-- GitHub describes the pull request of the issue, open and with these commits. -/
structure Identifies (isZero : String → Bool) (number prNumber : ℕ) (heads : Heads) (pr : Value) :
    Prop where
  numbered : pr.get "number" = .int prNumber
  state : pr.get "state" = .string "open"
  merged : isTruthy isZero (pr.get "merged") = false
  base : (pr.get "base").get "ref" = .string "main" ∧
    ((pr.get "base").get "repo").get "full_name" = .string repo ∧
      (pr.get "base").get "sha" = .string heads.base
  head : (pr.get "head").get "ref" = .string (branchOf number) ∧
    ((pr.get "head").get "repo").get "full_name" = .string repo ∧
      (pr.get "head").get "sha" = .string heads.head
  refers : ∃ body, pr.get "body" = .string body ∧ RefersTo number body.toList

/-- The latest run of the check has succeeded. -/
def Succeeds (runs : List Value) (name : String) : Prop :=
  ∃ run ∈ runs, run.get "name" = .string name ∧ run.get "status" = .string "completed" ∧
    (∃ conclusion ∈ successes, run.get "conclusion" = .string conclusion) ∧
      ∃ id, run.get "id" = .int id ∧ ∀ other ∈ runs, other.get "name" = .string name →
        ∃ otherId, other.get "id" = .int otherId ∧ otherId ≤ id

/-- The thread is resolved, or its last remark is about another commit. -/
def Settled (sha : String) (thread : Value) : Prop :=
  thread.get "isResolved" = .bool true ∨
    ∃ nodes, (thread.get "comments").get "nodes" = .array nodes ∧
      ∀ last, (nodes.filter isRemark).getLast? = some last →
        (last.get "commit").get "oid" ≠ .string sha

def Reviews (sha : String) (review : Value) : Prop :=
  (∃ login, (review.get "user").get "login" = .string login ∧ isCodeRabbit login = true) ∧
    review.get "commit_id" = .string sha

/-- A review of CodeRabbit that asks for something is not the latest one of the commit. -/
def Quiet (sha : String) (reviews : List Value) : Prop :=
  ∀ review ∈ reviews, ∀ id body number, Reviews sha review → review.get "id" = .int id →
    review.get "body" = .string body → actionable body.toList = some number → 0 < number →
      ∃ other ∈ reviews, Reviews sha other ∧ other ≠ review ∧
        ∃ otherId, other.get "id" = .int otherId ∧ id ≤ otherId

/-- What GitHub answers about a pull request that is to be merged. -/
structure MergeAnswers where
  pr : Pages
  dependencies : Pages
  checks : Pages
  /-- The answer of the review API. -/
  document : Except String Value
  reviews : Pages

/-- The answers describe a pull request that may be merged. -/
structure Mergeable (isZero : String → Bool) (number prNumber : ℕ) (required : List String)
    (heads : Heads) (answers : MergeAnswers) : Prop where
  pr : ∃ pr, answers.pr = .ok [pr] ∧ Identifies isZero number prNumber heads pr
  dependencies : ∃ items, listing answers.dependencies = .ok items ∧
    ∀ item ∈ items, item.get "state" = .string "closed"
  configured : required ≠ []
  checks : ∃ page runs, answers.checks = .ok [page] ∧ page.get "check_runs" = .array runs ∧
    ∀ name ∈ required, Succeeds runs name
  threads : ∃ document threads nodes, answers.document = .ok document ∧
    reviewThreads document = .ok threads ∧ threads.get "nodes" = .array nodes ∧
      ∀ thread ∈ nodes, Settled heads.head thread
  reviews : ∃ reviews, answers.reviews = .ok [.array reviews] ∧ Quiet heads.head reviews

/-! ### The pull request -/

theorem one_eq_ok {answer : Pages} {v : Value} (h : one answer = .ok v) : answer = .ok [v] := by
  rcases answer with text | pages
  · cases h
  · rcases pages with _ | ⟨page, _ | ⟨other, pages⟩⟩
    · cases h
    · simp only [one, bind, Except.bind] at h
      split_ifs at h
      rw [Except.ok.inj h]
    · cases h

theorem behind_eq_some {text cs rest : List Char} (h : behind text cs = some rest) :
    cs = text ++ rest := by
  induction text generalizing cs with
  | nil => exact Option.some.inj h
  | cons p text ih =>
    cases cs with
    | nil => cases h
    | cons c cs =>
      rw [behind] at h
      split_ifs at h with hp
      rw [hp, ih h, List.cons_append]

theorem afterWord_eq_some {word cs rest : List Char} (h : afterWord word cs = some rest) :
    ∃ front, cs = front ++ rest ∧ List.Forall₂ (fun p c ↦ foldsTo p c = true) word front := by
  induction word generalizing cs with
  | nil => exact ⟨[], Option.some.inj h, .nil⟩
  | cons p word ih =>
    cases cs with
    | nil => cases h
    | cons c cs =>
      rw [afterWord] at h
      split_ifs at h with hp
      obtain ⟨front, rfl, hfront⟩ := ih h
      exact ⟨c :: front, rfl, .cons hp hfront⟩

theorem exists_of_endsLine {cs : List Char} (h : endsLine cs = true) :
    ∃ space after, cs = space ++ after ∧ (∀ c ∈ space, isSpace c = true) ∧
      (after = [] ∨ after.head? = some '\n') := by
  have hspace : ∀ c ∈ cs.takeWhile isSpace, isSpace c = true := fun c hc ↦
    List.mem_takeWhile_imp hc
  have hcs := List.takeWhile_append_dropWhile (p := isSpace) (l := cs)
  rw [endsLine, Bool.or_eq_true, decide_eq_true_iff, decide_eq_true_iff] at h
  rcases h with hend | hbreak
  · exact ⟨cs.takeWhile isSpace, [], hend ▸ hcs.symm, hspace, .inl rfl⟩
  · obtain ⟨front, back, hsplit⟩ := List.append_of_mem hbreak
    refine ⟨front, '\n' :: (back ++ cs.dropWhile isSpace), ?_, fun c hc ↦ ?_, .inr rfl⟩
    · rw [← List.cons_append, ← List.append_assoc, ← hsplit, hcs]
    · exact hspace c (hsplit ▸ List.mem_append_left _ hc)

theorem exists_of_refersHere {number : ℕ} {cs : List Char} (h : refersHere number cs = true) :
    ∃ word gap space after,
      cs = word ++ (gap ++ '#' :: ((toString number).toList ++ (space ++ after))) ∧
      List.Forall₂ (fun p c ↦ foldsTo p c = true) ['r', 'e', 'f', 's'] word ∧ gap ≠ [] ∧
      (∀ c ∈ gap ++ space, isSpace c = true) ∧ (after = [] ∨ after.head? = some '\n') := by
  rw [refersHere] at h
  cases hword : afterWord ['r', 'e', 'f', 's'] cs with
  | none => simp [hword] at h
  | some rest =>
    obtain ⟨word, rfl, hfolds⟩ := afterWord_eq_some hword
    simp only [hword, Bool.and_eq_true, decide_eq_true_eq] at h
    obtain ⟨hgap, h⟩ := h
    cases hbehind : behind ('#' :: (toString number).toList) (rest.dropWhile isSpace) with
    | none =>
      rw [hbehind] at h
      cases h
    | some behindNumber =>
      simp only [hbehind] at h
      obtain ⟨space, after, rfl, hspace, hafter⟩ := exists_of_endsLine h
      refine ⟨word, rest.takeWhile isSpace, space, after, ?_, hfolds, hgap, ?_, hafter⟩
      · have hrest := List.takeWhile_append_dropWhile (p := isSpace) (l := rest)
        rw [behind_eq_some hbehind] at hrest
        exact congrArg (word ++ ·) hrest.symm
      · intro c hc
        rcases List.mem_append.mp hc with hc | hc
        · exact List.mem_takeWhile_imp hc
        · exact hspace c hc

theorem exists_of_refersLater {number : ℕ} {cs : List Char} (h : refersLater number cs = true) :
    ∃ before rest, cs = before ++ '\n' :: rest ∧ refersHere number rest = true := by
  induction cs with
  | nil => cases h
  | cons c cs ih =>
    rw [refersLater, Bool.or_eq_true, Bool.and_eq_true, decide_eq_true_iff] at h
    rcases h with ⟨rfl, hhere⟩ | hlater
    · exact ⟨[], cs, rfl, hhere⟩
    · obtain ⟨before, rest, rfl, hhere⟩ := ih hlater
      exact ⟨c :: before, rest, rfl, hhere⟩

theorem refersTo_sound {number : ℕ} {body : List Char} (h : refersTo number body = true) :
    RefersTo number body := by
  rw [refersTo, Bool.or_eq_true] at h
  rcases h with hhere | hlater
  · obtain ⟨word, gap, space, after, rfl, hrest⟩ := exists_of_refersHere hhere
    exact ⟨[], word, gap, space, after, rfl, .inl rfl, hrest⟩
  · obtain ⟨before, rest, rfl, hhere⟩ := exists_of_refersLater hlater
    obtain ⟨word, gap, space, after, rfl, hrest⟩ := exists_of_refersHere hhere
    exact ⟨before ++ ['\n'], word, gap, space, after, by simp, .inr (by simp), hrest⟩

theorem eq_string_of_shaOf {v : Value} {sha : String} (h : shaOf v = some sha) :
    v = .string sha := by
  cases v with
  | string s =>
    obtain ⟨hs, -⟩ := Option.filter_eq_some_iff.mp h
    rw [Option.some.inj hs]
  | _ => cases h

variable {isZero : String → Bool} {number prNumber : ℕ} {heads : Heads}

theorem identifies_of_readPr {pr : Value} (h : readPr isZero number prNumber pr = some heads) :
    Identifies isZero number prNumber heads pr := by
  rw [readPr] at h
  split_ifs at h with hvalid
  obtain ⟨baseSha, hbase, h⟩ := Option.bind_eq_some_iff.mp h
  obtain ⟨headSha, hhead, h⟩ := Option.bind_eq_some_iff.mp h
  obtain rfl := Option.some.inj h
  simp only [Bool.and_eq_true, decide_eq_true_eq, Bool.not_eq_true', Option.any_eq_true] at hvalid
  obtain ⟨⟨⟨⟨⟨⟨⟨hnumber, hstate⟩, hmerged⟩, hbaseRef⟩, hbaseRepo⟩, hheadRef⟩, hheadRepo⟩, body,
    hbody, hrefers⟩ := hvalid
  refine ⟨hnumber, hstate, hmerged, ⟨hbaseRef, hbaseRepo, eq_string_of_shaOf hbase⟩,
    ⟨hheadRef, hheadRepo, eq_string_of_shaOf hhead⟩, body, ?_, refersTo_sound hrefers⟩
  cases hv : pr.get "body" with
  | string s =>
    rw [hv] at hbody
    rw [Option.some.inj hbody]
  | _ =>
    rw [hv] at hbody
    cases hbody

theorem identifies_of_expectedPr {expected : Option Heads} {answer : Pages}
    (h : expectedPr isZero number prNumber expected answer = .ok heads) :
    (∃ pr, answer = .ok [pr] ∧ Identifies isZero number prNumber heads pr) ∧
      ∀ e, expected = some e → e = heads := by
  rw [expectedPr] at h
  rcases hone : one answer with text | pr
  · rw [hone] at h
    cases h
  simp only [hone, bind, Except.bind] at h
  cases hread : readPr isZero number prNumber pr with
  | none => simp [hread] at h
  | some found =>
    simp only [hread] at h
    split_ifs at h with hexpected
    obtain rfl := Except.ok.inj h
    refine ⟨⟨pr, one_eq_ok hone, identifies_of_readPr hread⟩, ?_⟩
    rintro e rfl
    simpa using hexpected

/-! ### The dependencies and the checks -/

theorem exists_of_mapM {α β : Type} {read : α → Option β} {as : List α} {bs : List β}
    (h : as.mapM read = some bs) {a : α} (ha : a ∈ as) : ∃ b ∈ bs, read a = some b := by
  have hmem : read a ∈ bs.map some := mapM_eq_some_iff_map.mp h ▸ List.mem_map_of_mem ha
  obtain ⟨b, hb, hread⟩ := List.mem_map.mp hmem
  exact ⟨b, hb, hread.symm⟩

theorem exists_read_of_mapM {α β : Type} {read : α → Option β} {as : List α} {bs : List β}
    (h : as.mapM read = some bs) {b : β} (hb : b ∈ bs) : ∃ a ∈ as, read a = some b := by
  have hmem : some b ∈ as.map read := mapM_eq_some_iff_map.mp h ▸ List.mem_map_of_mem hb
  exact List.mem_map.mp hmem

theorem closed_of_readBlocker {item : Value} {id : ℤ} (h : readBlocker item = some (false, id)) :
    item.get "state" = .string "closed" := by
  rw [readBlocker] at h
  split_ifs at h
  obtain ⟨isOpen, hopen, h⟩ := Option.bind_eq_some_iff.mp h
  split at h
  · cases h
    rw [openState] at hopen
    split_ifs at hopen with hopened hclosed
    · cases hopen
    · exact hclosed
  · cases h

theorem closed_of_openDependencies {answer : Pages} (h : openDependencies answer = .ok []) :
    ∃ items, listing answer = .ok items ∧ ∀ item ∈ items, item.get "state" = .string "closed" := by
  rw [openDependencies] at h
  rcases hlisting : listing answer with text | items
  · rw [hlisting] at h
    cases h
  simp only [hlisting, bind, Except.bind] at h
  cases hread : items.mapM readBlocker with
  | none => simp [hread] at h
  | some blockers =>
    simp only [hread, Except.ok.injEq, List.map_eq_nil_iff, List.filter_eq_nil_iff] at h
    refine ⟨items, rfl, fun item hitem ↦ ?_⟩
    obtain ⟨⟨isOpen, id⟩, hmem, hitem⟩ := exists_of_mapM hread hitem
    obtain rfl : isOpen = false := Bool.eq_false_of_not_eq_true (h _ hmem)
    exact closed_of_readBlocker hitem

/-- The run is the latest one of the name, or there is none. -/
def IsLatest (runs : List CheckRun) (name : String) : Option CheckRun → Prop
  | none => ∀ other ∈ runs, other.name ≠ name
  | some run => run ∈ runs ∧ run.name = name ∧ ∀ other ∈ runs, other.name = name → other.id ≤ run.id

theorem isLatest_takeRun {runs : List CheckRun} {byName : String → Option CheckRun}
    (h : ∀ name, IsLatest runs name (byName name)) (run : CheckRun) (name : String) :
    IsLatest (runs ++ [run]) name (takeRun byName run name) := by
  have hname := h name
  by_cases heq : name = run.name
  · subst heq
    rw [takeRun]
    cases hold : byName run.name with
    | none =>
      -- the first run of its name
      rw [hold] at hname
      simp only [Option.all_none, if_true, Function.update_self]
      refine ⟨by simp, rfl, fun other hother hsame ↦ ?_⟩
      rcases List.mem_append.mp hother with hother | hother
      · exact absurd hsame (hname other hother)
      · rw [List.mem_singleton.mp hother]
    | some old =>
      rw [hold] at hname
      obtain ⟨hmem, hsame, hle⟩ := hname
      simp only [Option.all_some, decide_eq_true_eq]
      split_ifs with hlater
      · rw [Function.update_self]
        refine ⟨by simp, rfl, fun other hother hsame ↦ ?_⟩
        rcases List.mem_append.mp hother with hother | hother
        · exact (hle other hother hsame).trans hlater.le
        · rw [List.mem_singleton.mp hother]
      · rw [hold]
        refine ⟨List.mem_append_left _ hmem, hsame, fun other hother hsame ↦ ?_⟩
        rcases List.mem_append.mp hother with hother | hother
        · exact hle other hother hsame
        · rw [List.mem_singleton.mp hother]
          exact not_lt.mp hlater
  · have hkept : takeRun byName run name = byName name := by
      rw [takeRun]
      split_ifs
      · exact Function.update_of_ne heq ..
      · rfl
    rw [hkept]
    cases hold : byName name with
    | none =>
      rw [hold] at hname
      intro other hother
      rcases List.mem_append.mp hother with hother | hother
      · exact hname other hother
      · rw [List.mem_singleton.mp hother]
        exact Ne.symm heq
    | some old =>
      rw [hold] at hname
      obtain ⟨hmem, hsame, hle⟩ := hname
      refine ⟨List.mem_append_left _ hmem, hsame, fun other hother hsame ↦ ?_⟩
      rcases List.mem_append.mp hother with hother | hother
      · exact hle other hother hsame
      · rw [List.mem_singleton.mp hother] at hsame
        exact absurd hsame.symm heq

theorem isLatest_latestRuns (runs : List CheckRun) :
    ∀ name, IsLatest runs name (latestRuns runs name) := by
  induction runs using List.reverseRecOn with
  | nil =>
    intro name other hother
    cases hother
  | append_singleton runs run ih =>
    rw [latestRuns, List.foldl_append]
    exact isLatest_takeRun ih run

theorem readCheckRun_eq_some {v : Value} {run : CheckRun} (h : readCheckRun v = some run) :
    v.get "name" = .string run.name ∧ v.get "id" = .int run.id ∧
      (run.completed = true → v.get "status" = .string "completed") ∧
        v.get "conclusion" = run.conclusion := by
  obtain ⟨name, hname, h⟩ := Option.bind_eq_some_iff.mp h
  split at h
  · rename_i id hid
    split_ifs at h
    obtain ⟨completed, hstatus, h⟩ := Option.bind_eq_some_iff.mp h
    obtain rfl := Option.some.inj h
    refine ⟨?_, hid, fun hcompleted ↦ ?_, rfl⟩
    · cases hv : v.get "name" with
      | string s =>
        rw [hv] at hname
        rw [Option.some.inj hname]
      | _ =>
        rw [hv] at hname
        cases hname
    · rw [readStatus] at hstatus
      split_ifs at hstatus with hdone
      · exact hdone
      · cases hstatus
        cases hcompleted
  · cases h

/-- **What a success of the checks means.** -/
theorem succeeds_of_checkState {required : List String} {answer : Pages} {failed : List CheckRun}
    (h : checkState required answer = .ok (.success, failed)) :
    required ≠ [] ∧ ∃ page runs, answer = .ok [page] ∧ page.get "check_runs" = .array runs ∧
      ∀ name ∈ required, Succeeds runs name := by
  rw [checkState] at h
  rcases hone : one answer with text | page
  · rw [hone] at h
    cases h
  simp only [hone, bind, Except.bind] at h
  split at h
  · cases h
  rename_i items hitems
  split_ifs at h with hobjects hrequired
  split at h
  · cases h
  rename_i runs hread
  split at h
  · cases h
  rename_i latest hlatest
  split_ifs at h with hhashable hpending hfailed
  · cases h
  · cases h
  have hsucceeded : ∀ run ∈ latest, run.completed = true ∧ run.succeeded = true := by
    intro run hrun
    have hcompleted : run.completed = true := by
      by_contra hnot
      exact hpending (List.any_eq_true.mpr ⟨run, hrun, by simpa using hnot⟩)
    refine ⟨hcompleted, ?_⟩
    by_contra hnot
    rw [Decidable.not_not, List.filter_eq_nil_iff] at hfailed
    exact hfailed run (List.mem_filter.mpr ⟨hrun, hcompleted⟩) (by simpa using hnot)
  refine ⟨fun hnone ↦ hrequired (.inl hnone), page, items, one_eq_ok hone,
    asArray_eq_some_iff.mp hitems, fun name hname ↦ ?_⟩
  obtain ⟨run, hmem, hrun⟩ := exists_of_mapM hlatest hname
  obtain ⟨hcompleted, hconclusion⟩ := hsucceeded run hmem
  have hisLatest := isLatest_latestRuns runs name
  rw [hrun] at hisLatest
  obtain ⟨hin, rfl, hle⟩ := hisLatest
  obtain ⟨item, hitem, hitemRead⟩ := exists_read_of_mapM hread hin
  obtain ⟨hitemName, hitemId, hitemStatus, hitemConclusion⟩ := readCheckRun_eq_some hitemRead
  obtain ⟨conclusion, hasStr, hsuccess⟩ := (Option.any_eq_true ..).mp hconclusion
  refine ⟨item, hitem, hitemName, hitemStatus hcompleted, ⟨conclusion, by simpa using hsuccess, ?_⟩,
    run.id, hitemId, fun other hother hotherName ↦ ?_⟩
  · rw [hitemConclusion]
    cases hv : run.conclusion with
    | string s =>
      rw [hv] at hasStr
      rw [Option.some.inj hasStr]
    | _ =>
      rw [hv] at hasStr
      cases hasStr
  · obtain ⟨otherRun, hotherRun, hotherRead⟩ := exists_of_mapM hread hother
    obtain ⟨hname, hid, -⟩ := readCheckRun_eq_some hotherRead
    rw [hotherName] at hname
    exact ⟨otherRun.id, hid, hle otherRun hotherRun (Value.string.inj hname).symm⟩

/-! ### The findings -/

theorem forall₂_of_mapM {α β : Type} {read : α → Except String β} {as : List α} {bs : List β}
    (h : as.mapM read = .ok bs) : List.Forall₂ (fun a b ↦ read a = .ok b) as bs := by
  induction as generalizing bs with
  | nil =>
    obtain rfl := Except.ok.inj h
    exact .nil
  | cons a as ih =>
    rw [List.mapM_cons] at h
    cases ha : read a with
    | error text =>
      rw [ha] at h
      cases h
    | ok b =>
      cases has : as.mapM read with
      | error text =>
        rw [ha, has] at h
        cases h
      | ok rest =>
        rw [ha, has] at h
        obtain rfl := Except.ok.inj h
        exact .cons ha (ih has)

theorem exists_ok_of_mapM {α β : Type} {read : α → Except String β} {as : List α} {bs : List β}
    (h : as.mapM read = .ok bs) {a : α} (ha : a ∈ as) : ∃ b ∈ bs, read a = .ok b := by
  have hall := forall₂_of_mapM h
  clear h
  induction hall with
  | nil => cases ha
  | cons hread _ ih =>
    rcases List.mem_cons.mp ha with rfl | ha
    · exact ⟨_, List.mem_cons_self, hread⟩
    · obtain ⟨b, hb, hread'⟩ := ih ha
      exact ⟨b, List.mem_cons_of_mem _ hb, hread'⟩

theorem get_nodes_of_readNodes {invalid incomplete : String} {v : Value} {nodes : List Value}
    (h : readNodes invalid incomplete v = .ok nodes) : v.get "nodes" = .array nodes := by
  rw [readNodes] at h
  split at h
  · rename_i hnodes
    split_ifs at h
    rw [← Except.ok.inj h]
    exact asArray_eq_some_iff.mp hnodes
  · cases h

theorem readComment_eq_ok {comment : Value} {read : Option Value}
    (h : readComment comment = .ok read) :
    read = if isRemark comment then some comment else none := by
  rw [readComment] at h
  split_ifs at h ⊢ with hobject hremark
  · cases hread : readRemark comment with
    | error text =>
      rw [hread] at h
      cases h
    | ok oid =>
      rw [hread] at h
      exact (Except.ok.inj h).symm
  · exact (Except.ok.inj h).symm

theorem readRemarks_eq_ok {nodes remarks : List Value} (h : readRemarks nodes = .ok remarks) :
    remarks = nodes.filter isRemark := by
  rw [readRemarks] at h
  cases hread : nodes.mapM readComment with
  | error text =>
    rw [hread] at h
    cases h
  | ok comments =>
    rw [hread] at h
    obtain rfl := Except.ok.inj h
    have hcomments := forall₂_of_mapM hread
    clear hread h
    induction hcomments with
    | nil => rfl
    | cons hcomment _ ih =>
      rw [readComment_eq_ok hcomment, List.filter_cons]
      split_ifs
      · exact congrArg (List.cons _) ih
      · exact ih

theorem settled_of_readThread {sha : String} {thread : Value}
    (h : readThread sha thread = .ok none) : Settled sha thread := by
  rw [readThread] at h
  split at h
  · rename_i resolved fields hresolved hcomments
    cases hnodes : readNodes invalidComment "review comment response is incomplete"
        (.object fields) with
    | error text => simp [hnodes, bind, Except.bind] at h
    | ok nodes =>
      cases hremarks : readRemarks nodes with
      | error text => simp [hnodes, hremarks, bind, Except.bind] at h
      | ok remarks =>
        simp only [hnodes, hremarks, bind, Except.bind] at h
        cases hr : resolved with
        | true => exact .inl (hr ▸ hresolved)
        | false =>
          refine .inr ⟨nodes, hcomments ▸ get_nodes_of_readNodes hnodes, fun last hlast ↦ ?_⟩
          rw [← readRemarks_eq_ok hremarks] at hlast
          simp only [hlast, hr, Bool.not_false, Bool.true_and] at h
          intro hoid
          simp [hoid, pure, Except.pure] at h
  · cases h

theorem latestReview_spec {reviews : List Review} {latest : Review}
    (h : latestReview reviews = some latest) :
    latest ∈ reviews ∧ ∀ review ∈ reviews, review.id ≤ latest.id := by
  cases reviews with
  | nil => cases h
  | cons first reviews =>
    obtain rfl := Option.some.inj h
    clear h
    induction reviews generalizing first with
    | nil =>
      exact ⟨List.mem_cons_self, fun review hreview ↦ (List.mem_singleton.mp hreview) ▸ le_rfl⟩
    | cons review reviews ih =>
      rw [List.foldl_cons]
      obtain ⟨hmem, hle⟩ := ih (if first.id < review.id then review else first)
      have hfirst := hle _ List.mem_cons_self
      split_ifs at hmem hle hfirst ⊢ with hlater
      · refine ⟨List.mem_cons_of_mem _ hmem, fun other hother ↦ ?_⟩
        rcases List.mem_cons.mp hother with rfl | hother
        · exact hlater.le.trans hfirst
        · exact hle other hother
      · refine ⟨?_, fun other hother ↦ ?_⟩
        · rcases List.mem_cons.mp hmem with hmem | hmem
          · rw [hmem]
            exact List.mem_cons_self
          · exact List.mem_cons_of_mem _ (List.mem_cons_of_mem _ hmem)
        · rcases List.mem_cons.mp hother with rfl | hother
          · exact hfirst
          rcases List.mem_cons.mp hother with rfl | hother
          · exact (not_lt.mp hlater).trans hfirst
          · exact hle other (List.mem_cons_of_mem _ hother)

theorem readReview_eq_some {v : Value} {review : Review} :
    readReview v = some review ↔
      (v.get "user").get "login" = .string review.login ∧ v.get "body" = .string review.body ∧
        v.get "commit_id" = .string review.commit ∧ v.get "id" = .int review.id := by
  have hasStr : ∀ {w : Value} {s : String}, w.asStr = some s ↔ w = .string s := by
    intro w s
    cases w <;> simp [Value.asStr]
  simp only [readReview, bind, Option.bind_eq_some_iff, hasStr]
  constructor
  · rintro ⟨login, hlogin, body, hbody, commit, hcommit, h⟩
    split at h
    · rename_i id hid
      obtain rfl := Option.some.inj h
      exact ⟨hlogin, hbody, hcommit, hid⟩
    · cases h
  · rintro ⟨hlogin, hbody, hcommit, hid⟩
    exact ⟨_, hlogin, _, hbody, _, hcommit, by rw [hid]; rfl⟩

theorem quiet_of_reviewFinding {sha : String} {items : List Value} {reviews : List Review}
    (hread : items.mapM readReview = some reviews) (h : reviewFinding sha reviews = none) :
    Quiet sha items := by
  intro item hitem id body number hreviews hid hbody hnumber hpos
  obtain ⟨review, hreview, hitemRead⟩ := exists_of_mapM hread hitem
  obtain ⟨⟨login, hlogin, hrabbit⟩, hcommit⟩ := hreviews
  obtain ⟨hlogin', hbody', hcommit', hid'⟩ := readReview_eq_some.mp hitemRead
  rw [hlogin, Value.string.injEq] at hlogin'
  rw [hbody, Value.string.injEq] at hbody'
  rw [hcommit, Value.string.injEq] at hcommit'
  rw [hid, Value.int.injEq] at hid'
  have hcurrent : review ∈ reviews.filter fun r ↦ isCodeRabbit r.login && r.commit = sha := by
    rw [List.mem_filter, Bool.and_eq_true, decide_eq_true_iff]
    exact ⟨hreview, hlogin' ▸ hrabbit, hcommit'.symm⟩
  cases hlatest : latestReview (reviews.filter fun r ↦ isCodeRabbit r.login && r.commit = sha) with
  | none =>
    cases hfilter : reviews.filter fun r ↦ isCodeRabbit r.login && r.commit = sha with
    | nil =>
      rw [hfilter] at hcurrent
      cases hcurrent
    | cons first rest =>
      rw [hfilter] at hlatest
      cases hlatest
  | some latest =>
    obtain ⟨hmem, hle⟩ := latestReview_spec hlatest
    obtain ⟨hlatestMem, hlatestOf⟩ := List.mem_filter.mp hmem
    rw [Bool.and_eq_true, decide_eq_true_iff] at hlatestOf
    obtain ⟨other, hother, hotherRead⟩ := exists_read_of_mapM hread hlatestMem
    obtain ⟨hotherLogin, -, hotherCommit, hotherId⟩ := readReview_eq_some.mp hotherRead
    refine ⟨other, hother, ⟨⟨_, hotherLogin, hlatestOf.1⟩, hlatestOf.2 ▸ hotherCommit⟩, ?_,
      latest.id, hotherId, hid' ▸ hle review hcurrent⟩
    -- the review itself would be a finding
    rintro rfl
    obtain rfl := Option.some.inj (hitemRead.symm.trans hotherRead)
    have hnumber' : actionable review.body.toList = some number := hbody' ▸ hnumber
    simp [reviewFinding, hlatest, hnumber', Nat.pos_iff_ne_zero.mp hpos] at h

/-- **What it means that there are no findings.** -/
theorem quiet_of_reviewFindings {sha : String} {document : Except String Value} {reviews : Pages}
    (h : reviewFindings sha document reviews = .ok []) :
    (∃ v threads nodes, document = .ok v ∧ reviewThreads v = .ok threads ∧
      threads.get "nodes" = .array nodes ∧ ∀ thread ∈ nodes, Settled sha thread) ∧
    ∃ items, reviews = .ok [.array items] ∧ Quiet sha items := by
  rw [reviewFindings] at h
  rcases document with text | v
  · cases h
  cases hthreads : reviewThreads v with
  | error text => simp [hthreads, bind, Except.bind] at h
  | ok threads =>
    cases hnodes : readNodes invalidThread "review thread response is incomplete" threads with
    | error text => simp [hthreads, hnodes, bind, Except.bind] at h
    | ok nodes =>
      cases hfindings : nodes.mapM (readThread sha) with
      | error text => simp [hthreads, hnodes, hfindings, bind, Except.bind] at h
      | ok findings =>
        rcases reviews with text | pages
        · simp [hthreads, hnodes, hfindings, bind, Except.bind] at h
        simp only [hthreads, hnodes, hfindings, bind, Except.bind] at h
        split at h
        · rename_i items
          split at h
          · rename_i found hfound
            obtain ⟨hnone, hquiet⟩ := List.append_eq_nil_iff.mp (Except.ok.inj h)
            refine ⟨⟨v, threads, nodes, rfl, hthreads, get_nodes_of_readNodes hnodes,
              fun thread hthread ↦ ?_⟩, items, rfl,
              quiet_of_reviewFinding hfound (by simpa using hquiet)⟩
            have hall : ∀ read ∈ findings, read = none := by simpa using hnone
            obtain ⟨read, hmem, hread⟩ := exists_ok_of_mapM hfindings hthread
            exact settled_of_readThread (hall read hmem ▸ hread)
          · cases h
        · cases h

/-- **What the answers say where nothing stops the driver.** -/
theorem mergeable_of_passes {required : List String} {expected : Option Heads}
    {answers : MergeAnswers} {failed : List CheckRun}
    (hpr : expectedPr isZero number prNumber expected answers.pr = .ok heads)
    (hdependencies : openDependencies answers.dependencies = .ok [])
    (hchecks : checkState required answers.checks = .ok (.success, failed))
    (hfindings : reviewFindings heads.head answers.document answers.reviews = .ok []) :
    Mergeable isZero number prNumber required heads answers := by
  obtain ⟨hconfigured, page, runs, hanswer, hruns, hsucceeds⟩ := succeeds_of_checkState hchecks
  obtain ⟨⟨v, threads, nodes, hdocument, hthreads, hnodes, hsettled⟩, hreviews⟩ :=
    quiet_of_reviewFindings hfindings
  exact {
    pr := (identifies_of_expectedPr hpr).1
    dependencies := closed_of_openDependencies hdependencies
    configured := hconfigured
    checks := ⟨page, runs, hanswer, hruns, hsucceeds⟩
    threads := ⟨v, threads, nodes, hdocument, hthreads, hnodes, hsettled⟩
    reviews := hreviews }

end TunnelDeck.Symphony
