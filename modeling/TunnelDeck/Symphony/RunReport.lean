import TunnelDeck.Symphony.Admission
import TunnelDeck.Symphony.Risk
import TunnelDeck.Text.JsonText
import TunnelDeck.Text.Sections

/-!
# The report of a run

The agent leaves a report in the workspace, and `run_report.py` publishes it in one comment of the
issue, which has a section for each run. A report is checked before it is used, so a `Report` has a
name that is safe between the tags of its section, a known status and links of the expected form.
All the rest is free text, which is escaped.

## Main result

`tagless_attemptBody`: whatever a report says, no tag is found in its section but its own two.
-/

namespace TunnelDeck.Symphony

open Json (Value)
open Text (Tagless Tagging IsTag)
open Text.Python

/-! ## Model -/

def isRunIdChar (c : Char) : Bool := c.isAlphanum || c = '_' || c = '.' || c = '-'

/-- `[A-Za-z0-9][A-Za-z0-9_.-]{0,79}`. -/
def isRunId : List Char → Bool
  | [] => false
  | c :: cs => c.isAlphanum && cs.all isRunIdChar && cs.length ≤ 79

abbrev RunId := { cs : List Char // isRunId cs = true }

inductive RunStatus where
  | inProgress
  | completed
  | failed
  | blocked
  | interrupted
  | publishFailed
  deriving DecidableEq

namespace RunStatus

def text : RunStatus → String
  | .inProgress => "in_progress"
  | .completed => "completed"
  | .failed => "failed"
  | .blocked => "blocked"
  | .interrupted => "interrupted"
  | .publishFailed => "publish_failed"

/-- `STATUSES`. -/
def all : List RunStatus :=
  [.inProgress, .completed, .failed, .blocked, .interrupted, .publishFailed]

end RunStatus

/-- `[0-9a-f]{7,40}`. -/
def isCommit (cs : List Char) : Bool :=
  7 ≤ cs.length && cs.length ≤ 40 && cs.all fun c ↦ c.isDigit || 'a' ≤ c && c ≤ 'f'

abbrev Commit := { cs : List Char // isCommit cs = true }

/-- What the address of a pull request begins with. -/
def pullRequests : List Char := "https://github.com/kshiva1126/tunnel-deck/pull/".toList

/-- `[1-9][0-9]*`. -/
def isPositive : List Char → Bool
  | [] => false
  | c :: cs => c.isDigit && c ≠ '0' && cs.all Char.isDigit

abbrev PullRequest := { cs : List Char // isPositive cs = true }

/-- An entry of a list in a report. -/
inductive ReportItem where
  | text (value : List Char)
  | mapping (fields : List (List Char × List Char))

structure Execution where
  entryPoints : List (List Char)
  stateOwner : List Char
  externalEffects : List (List Char)
  failureCleanup : List (List Char)

/-- A report that has been checked. -/
structure Report where
  issueNumber : ℕ
  runId : RunId
  status : RunStatus
  scope : List Char
  facts : List ReportItem
  decisions : List ReportItem
  alternatives : List ReportItem
  execution : Execution
  tests : List ReportItem
  unknowns : List ReportItem
  commit : Option Commit
  pullRequest : Option PullRequest

/-! ## Credentials -/

/-- `[A-Za-z0-9_]` where case is ignored. -/
def isTokenChar (c : Char) : Bool :=
  c.isAlphanum || c = '_' || [0x130, 0x131, 0x17F, 0x212A].contains c.toNat

/-- At least twenty characters of a token. -/
def isToken (p : Char → Bool) (cs : List Char) : Bool := 20 ≤ (cs.takeWhile p).length

/-- A key in a file: the words between `BEGIN` and `PRIVATE KEY`, and the end of the line. -/
def isKeyHead (cs : List Char) : Bool :=
  match afterWord "-----begin ".toList cs with
  | some rest =>
    rest.tails.any fun tail ↦
      (rest.take (rest.length - tail.length)).all (fun c ↦ isTokenChar c && !c.isDigit && c ≠ '_' ||
        c = ' ') && (afterWord "private key-----".toList tail).isSome
  | none => false

/-- A token that is assigned. -/
def isAssigned (cs : List Char) : Bool :=
  ["access".toList, "refresh".toList, "id".toList].any fun word ↦
    match afterWord word cs with
    | some rest =>
      let named := match rest with
        | c :: tail => if c = '_' || c = '-' then [rest, tail] else [rest]
        | [] => [rest]
      named.any fun rest ↦
        match (afterWord "token".toList rest).map (·.dropWhile isSpace) with
        | some (c :: value) => (c = ':' || c = '=') && !(value.dropWhile isSpace).isEmpty
        | _ => false
    | none => false

/-- `CREDENTIAL.search`. -/
def hasCredential (text : List Char) : Bool :=
  text.tails.any fun cs ↦
    (afterWord "github_pat_".toList cs).any (isToken isTokenChar) ||
      ["gho_", "ghp_", "ghs_", "ghu_", "ghr_"].any (fun word ↦
        (afterWord word.toList cs).any (isToken isTokenChar)) ||
      (afterWord "sk-".toList cs).any (isToken fun c ↦ isTokenChar c || c = '-') ||
      isKeyHead cs || isAssigned cs

example : hasCredential "a\nAccess-Token = x".toList = true := by decide

/-! ## The checks of a report -/

def textOf (v : Value) : Option (List Char) := v.asStr.map String.toList

/-- An entry of a list: a text, or texts under keys. -/
def readItem : Value → Option ReportItem
  | .string s => some (.text s.toList)
  | .object fields =>
    (fields.mapM fun f ↦ (textOf f.2).map (f.1.toList, ·)).map .mapping
  | _ => none

def readItems (report : Value) (key : String) : Except String (List ReportItem) :=
  match (report.get key).asArray.bind (·.mapM readItem) with
  | some items => .ok items
  | none => .error ("run report " ++ key ++ " is invalid")

def hasKeys (keys : List String) : Value → Bool
  | .object fields => fields.all (·.1 ∈ keys) && keys.all (· ∈ fields.map Prod.fst)
  | _ => false

def reportKeys : List String :=
  ["schema_version", "issue_number", "run_id", "status", "scope", "facts", "decisions",
    "alternatives", "execution", "tests", "unknowns", "commit", "pull_request"]

def readExecution (v : Value) : Except String Execution :=
  if hasKeys ["entry_points", "state_owner", "external_effects", "failure_cleanup"] v then
    match textOf (v.get "state_owner"), (v.get "entry_points").asArray,
      (v.get "external_effects").asArray, (v.get "failure_cleanup").asArray with
    | some owner, some entries, some effects, some cleanup =>
      match entries.mapM textOf, effects.mapM textOf, cleanup.mapM textOf with
      | some entries, some effects, some cleanup => .ok ⟨entries, owner, effects, cleanup⟩
      | _, _, _ => .error "run report execution entry is invalid"
    | _, _, _, _ => .error "run report execution is invalid"
  else .error "run report execution is invalid"

/-- A text of some form, or nothing. -/
def readLink (form : List Char → Bool) (front : List Char) (message : String) :
    Value → Except String (Option { cs : List Char // form cs = true })
  | .null => .ok none
  | .string s =>
    if h : form (s.toList.drop front.length) = true then
      if front.isPrefixOf s.toList then .ok (some ⟨_, h⟩) else .error message
    else .error message
  | _ => .error message

/-- The checks of `load_report` on a document. `isOne` says which numbers with a fraction are one.
-/
def validateReport (isOne : String → Bool) (expectedNumber : ℕ) (report : Value) :
    Except String Report := do
  if !hasKeys reportKeys report then throw "run report fields are invalid"
  let identity := "run report identity or status is invalid"
  let version := match report.get "schema_version" with
    | .int n => n = 1
    | .bool b => b
    | .float text => isOne text
    | _ => false
  match textOf (report.get "run_id"), textOf (report.get "scope") with
  | some runId, some scope =>
    if h : isRunId runId = true then
      match RunStatus.all.find? fun s ↦ report.get "status" = .string s.text with
      | some status =>
        if !version || report.get "issue_number" ≠ .int expectedNumber then throw identity
        let facts ← readItems report "facts"
        let decisions ← readItems report "decisions"
        let alternatives ← readItems report "alternatives"
        let tests ← readItems report "tests"
        let unknowns ← readItems report "unknowns"
        let execution ← readExecution (report.get "execution")
        let commit ← readLink isCommit [] "run report commit is invalid" (report.get "commit")
        let pullRequest ← readLink isPositive pullRequests "run report pull request is invalid"
          (report.get "pull_request")
        return ⟨expectedNumber, ⟨runId, h⟩, status, scope, facts, decisions, alternatives,
          execution, tests, unknowns, commit, pullRequest⟩
      | none => throw identity
    else throw identity
  | _, _ => throw identity

/-- How Python reads a document. -/
structure Documents where
  /-- `json.loads`. -/
  loads : List UInt8 → Option Value
  /-- `bytes.decode`. -/
  decode : List UInt8 → Option (List Char)
  isOne : String → Bool

/-- `load_report`. The bytes are missing where the file cannot be read. -/
def loadReport (python : Documents) (expectedNumber : ℕ) (raw : Option (List UInt8)) :
    Except String Report := do
  match raw with
  | none => throw "run report is missing"
  | some bytes =>
    if bytes = [] || 48 * 1024 < bytes.length then throw "run report is empty or oversized"
    match python.loads bytes with
    | none => throw "run report is not valid JSON"
    | some document =>
      let report ← validateReport python.isOne expectedNumber document
      match python.decode bytes with
      | none => throw "'utf-8' codec can't decode bytes"
      | some text =>
        if hasCredential text then throw "run report contains credential-like content"
        return report

/-! ## The section of a report -/

/-- `html.escape` of one character. -/
def escapeChar (c : Char) : List Char :=
  if c = '&' then "&amp;".toList
  else if c = '<' then "&lt;".toList
  else if c = '>' then "&gt;".toList
  else [c]

/-- `safe_text`. -/
def safeText (value : List Char) : List Char := value.flatMap escapeChar

/-- The text of an entry. -/
def ReportItem.shown : ReportItem → List Char
  | .text value => value
  | .mapping fields => "; ".toList.intercalate (fields.map fun f ↦ f.1 ++ ": ".toList ++ f.2)

/-- `bullets`. -/
def bullets (items : List ReportItem) : List Char :=
  if items = [] then "- なし".toList
  else ['\n'].intercalate (items.map fun item ↦
    "- ".toList ++ (safeText item.shown).map fun c ↦ if c = '\n' then ' ' else c)

/-- Texts with commas between them, or a word for none. -/
def commaList (values : List (List Char)) : List Char :=
  let text := ", ".toList.intercalate (values.map safeText)
  if text = [] then "なし".toList else text

/-- The links at the end of a section. -/
def links (report : Report) : List ReportItem :=
  let repository := "https://github.com/kshiva1126/tunnel-deck/".toList
  (report.commit.map fun commit ↦ .text ("commit: [`".toList ++ commit.1 ++ "`](".toList ++
      repository ++ "commit/".toList ++ commit.1 ++ ")".toList)).toList ++
    (report.pullRequest.map fun number ↦ .text ("PR: ".toList ++ pullRequests ++ number.1)).toList

/-- What a tag has before and behind the name of the run. -/
def runTagFront (closing : Bool) : List Char :=
  if closing then "!-- /tunnel-deck-symphony-run:".toList
  else "!-- tunnel-deck-symphony-run:".toList

def runTagBack : List Char := " --".toList

def runTag (closing : Bool) (runId : RunId) : List Char :=
  '<' :: (runTagFront closing ++ (runId.1 ++ runTagBack) ++ ['>'])

def attemptBody (report : Report) : List Char :=
  let execution := report.execution
  ["\n### 試行 `".toList, report.runId.1, "` — `".toList, report.status.text.toList,
    "`\n\n#### 課題理解とスコープ\n\n".toList, safeText report.scope,
    "\n\n#### 判明した事実\n\n".toList, bullets report.facts,
    "\n\n#### 採用した判断と理由\n\n".toList, bullets report.decisions,
    "\n\n#### 主要な代替案と不採用理由\n\n".toList, bullets report.alternatives,
    "\n\n#### 実行経路と後始末\n\n- 入口: ".toList, commaList execution.entryPoints,
    "\n- 状態所有者: ".toList, safeText execution.stateOwner,
    "\n- 外部作用: ".toList, commaList execution.externalEffects,
    "\n- 失敗時の後始末: ".toList, commaList execution.failureCleanup,
    "\n\n#### 検証\n\n".toList, bullets report.tests,
    "\n\n#### 未確認事項・リスク・owner判断\n\n".toList, bullets report.unknowns,
    "\n\n#### 関連リンク\n\n".toList, bullets (links report), ['\n']].flatten

/-- `render_attempt`. -/
def renderAttempt (report : Report) : List Char :=
  runTag false report.runId ++ (attemptBody report ++ runTag true report.runId)

/-! ## The comment -/

def markerText : List Char := "!-- tunnel-deck-symphony-run-report --".toList

/-- `MARKER`. -/
def marker : List Char := '<' :: (markerText ++ ['>'])

/-- What a new comment begins with. -/
def commentFront : List Char := marker ++ "\n## Symphony 実装判断・検証レポート".toList

/-- A comment of the actor that begins with the marker. -/
def isReportComment (login : String) (item : Value) : Bool :=
  isObject item && ((item.get "body").asStr.any fun body ↦ marker.isPrefixOf body.toList) &&
    isObject (item.get "user") && (item.get "user").get "login" = .string login

/-- The comment to change, or none for a new one, and its text. -/
structure CommentWrite where
  commentId : Option ℤ
  text : List Char

/-- The text of a comment with the section of a report in it. -/
def insertAttempt (report : Report) (text : List Char) : Option (List Char) :=
  match Text.cut (runTag false report.runId) text with
  | none => some (text ++ ("\n\n".toList ++ renderAttempt report))
  | some (before, remainder) =>
    (Text.cut (runTag true report.runId) remainder).map fun parts ↦
      before ++ (renderAttempt report ++ parts.2)

/-- The write for the comments of the actor that begin with the marker. -/
def chooseWrite (report : Report) : List Value → Except String CommentWrite
  | [] => .ok ⟨none, commentFront ++ "\n\n".toList ++ renderAttempt report⟩
  | [existing] =>
    match existing.get "id" with
    | .int id =>
      if id ≤ 0 then .error "GitHub report comment is invalid"
      else
        match insertAttempt report (((existing.get "body").asStr.getD "").toList) with
        | some text => .ok ⟨some id, text⟩
        | none => .error "GitHub report comment is malformed"
    | _ => .error "GitHub report comment is invalid"
  | _ => .error "multiple Symphony report comments found"

/-- What is sent, unless it is too large or looks like a credential. -/
def guardWrite (write : CommentWrite) : Except String CommentWrite :=
  if 60 * 1024 < (Json.utf8 write.text).length || hasCredential write.text then
    .error "rendered comment is oversized or contains credential-like content"
  else .ok write

/-- `upsert`, up to the request that changes the comment. -/
def planUpsert (actor pages : Except String Value) (report : Report) :
    Except String CommentWrite := do
  match (← actor).get "login" with
  | .string login =>
    if login = "" then throw "authenticated GitHub actor is invalid"
    match (← pages).asArray.bind (·.mapM Value.asArray) with
    | none => throw "GitHub comments response is invalid"
    | some lists => chooseWrite report (lists.flatten.filter (isReportComment login)) >>= guardWrite
  | _ => throw "authenticated GitHub actor is invalid"

/-- `publish`, up to the request that changes the comment: the report is loaded first. -/
def planPublish (python : Documents) (number : ℕ) (raw : Option (List UInt8))
    (actor pages : Except String Value) : Except String (Report × CommentWrite) := do
  let report ← loadReport python number raw
  let write ← planUpsert actor pages report
  return (report, write)

/-! ## What is published -/

theorem issueNumber_of_validateReport {isOne : String → Bool} {number : ℕ} {document : Value}
    {report : Report} (h : validateReport isOne number document = .ok report) :
    report.issueNumber = number := by
  simp only [validateReport, bind, Except.bind, pure, Except.pure, throw, throwThe,
    MonadExceptOf.throw] at h
  repeat' split at h
  -- the ways out that are no errors have the number that was asked for
  all_goals try cases h
  all_goals rfl

/-- A report that is loaded is one of the issue, and was read from a text without a credential. -/
theorem loadReport_eq_ok {python : Documents} {number : ℕ} {raw : Option (List UInt8)}
    {report : Report} (h : loadReport python number raw = .ok report) :
    report.issueNumber = number ∧ ∃ bytes text, raw = some bytes ∧
      python.decode bytes = some text ∧ hasCredential text = false := by
  simp only [loadReport, bind, Except.bind, pure, Except.pure, throw, throwThe,
    MonadExceptOf.throw] at h
  repeat' split at h
  -- every other way out is an error
  all_goals try cases h
  rename_i bytes _ _ document _ _ _ text hdecode hclean hvalid
  exact ⟨issueNumber_of_validateReport hvalid, bytes, text, rfl, hdecode,
    eq_false_of_ne_true hclean⟩

theorem planPublish_eq_ok {python : Documents} {number : ℕ} {raw : Option (List UInt8)}
    {actor pages : Except String Value} {report : Report} {write : CommentWrite}
    (h : planPublish python number raw actor pages = .ok (report, write)) :
    report.issueNumber = number ∧ planUpsert actor pages report = .ok write := by
  simp only [planPublish, bind, Except.bind] at h
  split at h
  · cases h
  · next hload =>
    split at h
    · cases h
    · next hplan =>
      cases h
      exact ⟨(loadReport_eq_ok hload).1, hplan⟩

/-! ## No tags in free text -/

theorem not_mem_of_contains {c : Char} {text : List Char} (h : text.contains c = false) :
    c ∉ text := by
  intro hmem
  rw [List.contains_iff_mem.mpr hmem] at h
  cases h

theorem tagless_of_decide {text : List Char} (h : text.contains '<' = false) : Tagless text :=
  not_mem_of_contains h

theorem tagless_intercalate {glue : List Char} (hglue : Tagless glue) {texts : List (List Char)}
    (h : ∀ text ∈ texts, Tagless text) : Tagless (glue.intercalate texts) := by
  induction texts with
  | nil => exact List.not_mem_nil
  | cons text texts ih =>
    obtain ⟨htext, hrest⟩ := List.forall_mem_cons.mp h
    cases texts with
    | nil =>
      rw [List.intercalate_singleton]
      exact htext
    | cons next texts =>
      rw [List.intercalate_cons_cons]
      exact (htext.append hglue).append (ih hrest)

theorem tagless_flatten {texts : List (List Char)} (h : ∀ text ∈ texts, Tagless text) :
    Tagless texts.flatten := by
  intro hmem
  obtain ⟨text, htext, hlt⟩ := List.mem_flatten.mp hmem
  exact h text htext hlt

theorem tagless_safeText (value : List Char) : Tagless (safeText value) := by
  intro hmem
  obtain ⟨c, -, hc⟩ := List.mem_flatMap.mp hmem
  rw [escapeChar] at hc
  split_ifs at hc with hamp hlt hgt
  · revert hc
    decide
  · revert hc
    decide
  · revert hc
    decide
  · exact hlt (List.mem_singleton.mp hc).symm

theorem tagless_bullets (items : List ReportItem) : Tagless (bullets items) := by
  rw [bullets]
  split
  · exact tagless_of_decide rfl
  · refine tagless_intercalate (tagless_of_decide rfl) fun text htext ↦ ?_
    obtain ⟨item, -, rfl⟩ := List.mem_map.mp htext
    refine Tagless.append (tagless_of_decide rfl) fun hmem ↦ ?_
    obtain ⟨c, hc, hlt⟩ := List.mem_map.mp hmem
    split at hlt
    · cases hlt
    · rw [hlt] at hc
      exact tagless_safeText _ hc

theorem tagless_commaList (values : List (List Char)) : Tagless (commaList values) := by
  simp only [commaList]
  split
  · exact tagless_of_decide rfl
  · refine tagless_intercalate (tagless_of_decide rfl) fun text htext ↦ ?_
    obtain ⟨value, -, rfl⟩ := List.mem_map.mp htext
    exact tagless_safeText value

/-- The characters of the name of a run are none of a tag's own. -/
theorem not_mem_runId (runId : RunId) : '<' ∉ runId.1 ∧ '>' ∉ runId.1 := by
  have hall : ∀ c ∈ runId.1, isRunIdChar c = true := by
    obtain ⟨_ | ⟨c, cs⟩, h⟩ := runId
    · cases h
    · simp only [isRunId, Bool.and_eq_true, List.all_eq_true] at h
      obtain ⟨⟨hc, hcs⟩, -⟩ := h
      refine List.forall_mem_cons.mpr ⟨?_, hcs⟩
      simp [isRunIdChar, hc]
  constructor
  · intro hmem
    have h := hall _ hmem
    revert h
    decide
  · intro hmem
    have h := hall _ hmem
    revert h
    decide

/-- **Whatever a report says, its section has no tags but its own.** -/
theorem tagless_attemptBody (report : Report) : Tagless (attemptBody report) := by
  have hrun : Tagless report.runId.1 := (not_mem_runId report.runId).1
  have hstatus : Tagless report.status.text.toList := by
    cases report.status <;> exact tagless_of_decide rfl
  refine tagless_flatten ?_
  simp only [List.forall_mem_cons, List.not_mem_nil, IsEmpty.forall_iff, implies_true, and_true,
    tagless_safeText, tagless_bullets, tagless_commaList, hrun, hstatus, true_and]
  simp [Tagless]

/-! ## The sections of the comment -/

theorem isTag_runTag (closing : Bool) (runId : RunId) : IsTag (runTag closing runId) := by
  obtain ⟨hopen, hclose⟩ := not_mem_runId runId
  refine ⟨runTagFront closing ++ (runId.1 ++ runTagBack), rfl, ?_, ?_⟩
  · cases closing <;> simp [runTagFront, runTagBack, hopen]
  · cases closing <;> simp [runTagFront, runTagBack, hclose]

theorem runTag_injective (closing : Bool) : Function.Injective (runTag closing) := by
  intro k l h
  simp only [runTag, List.cons.injEq, true_and, List.append_cancel_right_eq,
    List.append_cancel_left_eq] at h
  exact Subtype.ext h

theorem runTag_ne (k l : RunId) : runTag false k ≠ runTag true l := by
  intro h
  have h := congrArg (·[5]?) h
  simp [runTag, runTagFront] at h

/-- The sections of the comment, by the names of the runs. -/
def runTags : Tagging RunId where
  opening := runTag false
  closing := runTag true
  isTag_opening := isTag_runTag false
  isTag_closing := isTag_runTag true
  opening_injective := runTag_injective false
  opening_ne_closing := runTag_ne

theorem insertAttempt_eq_write (report : Report) (text : List Char) :
    insertAttempt report text =
      runTags.write "\n\n".toList report.runId (attemptBody report) text := rfl

end TunnelDeck.Symphony
