import Mathlib.Algebra.Order.Ring.Rat
import TunnelDeck.Concurrency.Run
import TunnelDeck.Concurrency.WriteAhead
import TunnelDeck.Text.Json

/-!
# The review driver

`run` of `review.py` polls the checks of a pull request. When they fail, it has them remedied and
pushes the result, at most as often as a limit says; when they succeed, it merges. What it has done
is kept in a file, which is replaced before each push and removed after a verified merge. The driver
may stop or be killed between any two steps and is then started again.

What GitHub, the clock and the workspace answer is part of the input, and an answer can always be
that the call failed. The file is written in place when it is created, so that a crash can leave the
beginning of it, and replaced through a temporary file afterwards.

## Main results

* `Driver.Sound`: what the file says of what the driver has done.
* `review_budget`: in every run before a merge, the attempts that were recorded are bounded, an
  attempt answers another failure than the one before it, each push has its attempt, and a start
  goes on with what was recorded.
-/

namespace TunnelDeck.Symphony

open Json (Value)
open Concurrency WriteAhead

/-! ## The state file -/

/-- The limits of the driver. -/
structure Limits where
  attempts : ℤ
  seconds : ℤ

/-- What the file holds. The time is in seconds. -/
structure Durable where
  issue : ℕ
  pullRequest : ℕ
  started : ℚ
  attempts : ℤ
  fingerprint : Option String
  deriving DecidableEq

/-- What can be under the name of the file. -/
inductive Document where
  /-- The beginning of a document, which `json.loads` refuses. -/
  | torn
  | whole (durable : Durable)
  deriving DecidableEq

/-- `[0-9a-f]{64}`. -/
def isFingerprint (s : String) : Bool :=
  s.length = 64 && s.toList.all fun c ↦ c.isDigit || 'a' ≤ c && c ≤ 'f'

/-- The checks of `review_state` on a document. -/
def Durable.isFor (d : Durable) (number prNumber : ℕ) : Bool :=
  d.issue = number && d.pullRequest = prNumber && 0 ≤ d.attempts && d.fingerprint.all isFingerprint

/-- The state that `review_state` begins with. -/
def Durable.fresh (number prNumber : ℕ) (now : ℚ) : Durable := ⟨number, prNumber, now, 0, none⟩

def Durable.consume (d : Durable) (current : String) : Durable :=
  { d with attempts := d.attempts + 1, fingerprint := some current }

/-! ## One round -/

/-- `json.dumps` with sorted keys, and the hexadecimal SHA-256 of a text. -/
structure Python where
  dumps : Value → String
  sha256 : String → String

inductive CheckState where
  | pending
  | failed
  | success
  deriving DecidableEq

/-- What `check_state` gives, with the summaries that `failed_logs` makes of the failed checks. -/
structure Checks where
  state : CheckState
  failed : List Value

structure Heads where
  head : String
  base : String
  deriving DecidableEq

/-- What is read in a round before anything is done. A text stands for an exception. -/
structure Observation where
  now : ℚ
  pr : Except String Heads
  risk : Except String (Option String)
  dependencies : Except String (List ℕ)
  checks : Except String Checks
  findings : Except String (List Value)

/-- `fingerprint`. -/
def fingerprint (python : Python) (failedChecks findings : List Value) : String :=
  let drop : Value → Value
    | .object fields => .object (fields.filter fun field ↦ field.1 ≠ "commit_sha")
    | value => value
  python.sha256 (python.dumps (.object
    [("failed_checks", .array failedChecks), ("review_findings", .array (findings.map drop))]))

/-- What a round goes on with. -/
inductive Verdict where
  | wait
  | merge (heads : Heads)
  | remedy (current : String) (heads : Heads)

/-- A round up to the first step that does something. -/
def review (python : Python) (limits : Limits) (d : Durable) (o : Observation) :
    Except String Verdict :=
  if limits.seconds ≤ o.now - d.started then .error "review total-time limit reached"
  else do
    let heads ← o.pr
    match ← o.risk with
    | some reason => .error reason
    | none =>
      let blockers ← o.dependencies
      if blockers ≠ [] then .error "an Issue dependency is open"
      else
        let checks ← o.checks
        let findings ← o.findings
        if checks.state = .pending then .ok .wait
        else if checks.state = .success ∧ findings = [] then .ok (.merge heads)
        else
          let current := fingerprint python checks.failed findings
          if some current = d.fingerprint then .error "the same CI or review failure repeated"
          else if limits.attempts ≤ d.attempts then .error "remediation attempt limit reached"
          else .ok (.remedy current heads)

/-- What is read before a merge. -/
structure Revalidation where
  pr : Except String Unit
  dependencies : Except String (List ℕ)
  checks : Except String CheckState
  findings : Except String (List Value)

def revalidate (o : Revalidation) : Except String Unit := do
  o.pr
  let blockers ← o.dependencies
  if blockers ≠ [] then .error "an Issue dependency appeared before merge"
  else
    let state ← o.checks
    if state ≠ .success then .error "merge gates changed during final revalidation"
    else
      let findings ← o.findings
      if findings ≠ [] then .error "merge gates changed during final revalidation" else .ok ()

/-- The workspace during a remediation. -/
structure Workspace where
  before : Except String String
  branch : Except String String
  remediation : Except String Unit
  after : Except String String
  status : Except String String
  localVerify : Except String Unit
  finalHead : Except String String
  finalStatus : Except String String
  /-- Whether the diff has something like a credential in it. -/
  sensitive : Except String Bool
  pr : Except String Unit

/-- The round from the checks of the workspace to the last check of the pull request: the commit to
push. -/
def remedy (number : ℕ) (heads : Heads) (o : Workspace) : Except String String := do
  let before ← o.before
  let mismatch := "workspace branch or head SHA does not match the PR"
  if before ≠ heads.head then .error mismatch
  else
    let branch ← o.branch
    if branch ≠ "symphony/issue-" ++ toString number then .error mismatch
    else
      o.remediation
      let after ← o.after
      let status ← if after = before then .ok "" else o.status
      if after = before ∨ status ≠ "" then
        .error "remediation did not leave one committed clean result"
      else
        o.localVerify
        let head ← o.finalHead
        let status ← if head = after then o.finalStatus else .ok ""
        if head ≠ after ∨ status ≠ "" then .error "workspace changed during local verification"
        else
          let sensitive ← o.sensitive
          if sensitive then .error "credential-like content detected after remediation"
          else
            o.pr
            .ok after

/-! ## The driver -/

/-- Where the driver is. -/
inductive Point where
  /-- It does not run. -/
  | down
  /-- It has opened the new state file. -/
  | creating (d : Durable)
  /-- It sets the mode of the state file. -/
  | created (d : Durable)
  | polling (d : Durable)
  | revalidating (d : Durable) (heads : Heads)
  | merging
  | verifying
  | closing
  | reporting
  /-- It removes the state file. -/
  | unlinking
  | remedying (d : Durable) (current : String) (heads : Heads)
  /-- It opens the temporary file. -/
  | saving (d : Durable)
  | filling (d : Durable)
  | restricting (d : Durable)
  /-- It puts the temporary file in the place of the state file. -/
  | replacing (d : Durable)
  | pushing (d : Durable)
  /-- It reports the push. -/
  | publishing (d : Durable)

/-- The driver runs, and the state file has been created. -/
def Point.isPastCreation : Point → Bool
  | .down | .creating _ => false
  | _ => true

/-- The driver with its files, and what it has done. -/
structure Driver where
  file : Option Document
  temporary : Option Document
  point : Point
  /-- The time of the start that the state file was created with. -/
  recorded : Option ℚ
  /-- The attempts that were recorded and the pushes, under the fingerprints they answer. -/
  log : List (Logged String)
  /-- A merge was verified. -/
  merged : Bool

inductive Input where
  | start (now : ℚ)
  /-- The process is killed. -/
  | crash
  | observe (o : Observation)
  | revalidate (o : Revalidation)
  | remedy (o : Workspace)
  /-- Whether the remote took the push, and whether the call returned in order. -/
  | push (taken ok : Bool)
  /-- Whether the pull request is merged, with a merge commit. -/
  | verify (merged : Bool)
  /-- A step without an answer goes in order or raises an exception. -/
  | proceed (ok : Bool)

namespace Driver

def init : Driver := ⟨none, none, .down, none, [], false⟩

def goto (w : Driver) (point : Point) : Driver := { w with point }

/-- `review_state`. -/
def start (number prNumber : ℕ) (now : ℚ) (w : Driver) : Driver :=
  match w.file with
  | none => { w.goto (.creating (.fresh number prNumber now)) with file := some .torn }
  | some .torn => w
  | some (.whole d) => if d.isFor number prNumber then w.goto (.polling d) else w

/-- A step without an answer that goes in order. -/
def proceed (w : Driver) : Driver :=
  match w.point with
  | .creating d => { w.goto (.created d) with file := some (.whole d), recorded := some d.started }
  | .created d => w.goto (.polling d)
  | .merging => w.goto .verifying
  | .closing => w.goto .reporting
  | .reporting => w.goto .unlinking
  | .unlinking => { w.goto .down with file := none }
  | .saving d => { w.goto (.filling d) with temporary := some .torn }
  | .filling d => { w.goto (.restricting d) with temporary := some (.whole d) }
  | .restricting d => w.goto (.replacing d)
  | .replacing d =>
    { w.goto (.pushing d) with
      file := w.temporary
      temporary := none
      log := w.log ++ (d.fingerprint.map Logged.recorded).toList }
  | .publishing d => w.goto (.polling d)
  | _ => w

def push (d : Durable) (taken ok : Bool) (w : Driver) : Driver :=
  { w.goto (if ok then .publishing d else .down) with
    log := if taken then w.log ++ (d.fingerprint.map Logged.performed).toList else w.log }

def step (python : Python) (limits : Limits) (number prNumber : ℕ) (w : Driver) (i : Input) :
    Driver :=
  match i, w.point with
  | .start now, .down => w.start number prNumber now
  | .crash, _ => w.goto .down
  | .observe o, .polling d =>
    match review python limits d o with
    | .error _ => w.goto .down
    | .ok .wait => w
    | .ok (.merge heads) => w.goto (.revalidating d heads)
    | .ok (.remedy current heads) => w.goto (.remedying d current heads)
  | .revalidate o, .revalidating _ _ =>
    match Symphony.revalidate o with
    | .error _ => w.goto .down
    | .ok () => w.goto .merging
  | .remedy o, .remedying d current heads =>
    match Symphony.remedy number heads o with
    | .error _ => w.goto .down
    | .ok _ => w.goto (.saving (d.consume current))
  | .push taken ok, .pushing d => w.push d taken ok
  | .verify merged, .verifying =>
    if merged then { w.goto .closing with merged := true } else w.goto .down
  | .proceed true, _ => w.proceed
  | .proceed false, _ => w.goto .down
  | _, _ => w

/-! ## The invariant -/

variable {python : Python} {limits : Limits} {number prNumber : ℕ} {w : Driver} {d : Durable}

/-- The state is that of the issue and the pull request and says what has been done. -/
structure Says (number prNumber : ℕ) (w : Driver) (d : Durable) : Prop where
  issue : d.issue = number
  pullRequest : d.pullRequest = prNumber
  started : w.recorded = some d.started
  attempts : d.attempts = w.log.countP Logged.isRecorded
  fingerprint : d.fingerprint = w.log.getLast?.map Logged.label

/-- The attempt that is about to be recorded over `d`. -/
def Consumes (limits : Limits) (d e : Durable) : Prop :=
  ∃ current, e = d.consume current ∧ d.fingerprint ≠ some current ∧ d.attempts < limits.attempts

/-- What a driver at its point knows of the state file, which holds `d`. -/
def At (limits : Limits) (w : Driver) (d : Durable) : Prop :=
  match w.point with
  | .down | .merging | .verifying => True
  | .creating _ => False
  | .closing | .reporting | .unlinking => w.merged = true
  | .created e | .polling e | .revalidating e _ | .publishing e => e = d
  | .remedying e current _ => e = d ∧ Consumes limits d (d.consume current)
  | .saving e | .filling e => Consumes limits d e
  | .restricting e | .replacing e => Consumes limits d e ∧ w.temporary = some (.whole e)
  | .pushing e => e = d ∧ ∃ current, e.fingerprint = some current ∧
      w.log.getLast? = some (.recorded current)

/-- What holds between the steps before a merge: nothing has been recorded, or the creation of the
file was cut short, or the file says what has been done. -/
inductive Sound (limits : Limits) (number prNumber : ℕ) (w : Driver) : Prop
  | empty (hfile : w.file = none) (hrecorded : w.recorded = none) (hlog : w.log = [])
      (hpoint : w.point = .down)
  | torn (hfile : w.file = some .torn) (hrecorded : w.recorded = none) (hlog : w.log = [])
      (hpoint : w.point = .down ∨ ∃ now, w.point = .creating (.fresh number prNumber now))
  | whole (d : Durable) (hfile : w.file = some (.whole d)) (hstate : w.Says number prNumber d)
      (hproper : Proper w.log)
      (hbound : (w.log.countP Logged.isRecorded : ℤ) ≤ max 0 limits.attempts)
      (hpoint : w.At limits d)

theorem sound_init : Sound limits number prNumber init :=
  .empty rfl rfl rfl rfl

theorem Sound.down (h : Sound limits number prNumber w) :
    Sound limits number prNumber (w.goto .down) := by
  cases h with
  | empty hfile hrecorded hlog hpoint => exact .empty hfile hrecorded hlog rfl
  | torn hfile hrecorded hlog hpoint => exact .torn hfile hrecorded hlog (Or.inl rfl)
  | whole d hfile hstate hproper hbound hpoint =>
    exact .whole d hfile ⟨hstate.1, hstate.2, hstate.3, hstate.4, hstate.5⟩ hproper hbound trivial

/-- A driver that runs and is past the creation of the file knows what the file holds. -/
theorem Sound.running (h : Sound limits number prNumber w)
    (hpast : w.point.isPastCreation = true) :
    ∃ d, w.file = some (.whole d) ∧ w.Says number prNumber d ∧ Proper w.log ∧
      (w.log.countP Logged.isRecorded : ℤ) ≤ max 0 limits.attempts ∧ w.At limits d := by
  cases h with
  | empty hfile hrecorded hlog hpoint =>
    rw [hpoint] at hpast
    cases hpast
  | torn hfile hrecorded hlog hpoint =>
    rcases hpoint with hpoint | ⟨now, hpoint⟩
    · rw [hpoint] at hpast
      cases hpast
    · rw [hpoint] at hpast
      cases hpast
  | whole d hfile hstate hproper hbound hpoint => exact ⟨d, hfile, hstate, hproper, hbound, hpoint⟩

theorem Sound.goOn (h : Sound limits number prNumber w) (hpast : w.point.isPastCreation = true)
    {w' : Driver} (hfile : w'.file = w.file) (hrecorded : w'.recorded = w.recorded)
    (hlog : w'.log = w.log) (hat : ∀ d, w.At limits d → w'.At limits d) :
    Sound limits number prNumber w' := by
  obtain ⟨d, hd, hstate, hproper, hbound, hpoint⟩ := h.running hpast
  rw [← hlog] at hproper hbound
  refine .whole d (hfile.trans hd) ⟨hstate.1, hstate.2, hrecorded.trans hstate.3, ?_, ?_⟩ hproper
    hbound (hat d hpoint)
  · rw [hlog]
    exact hstate.4
  · rw [hlog]
    exact hstate.5

/-- **A remediation answers another failure and has an attempt left.** -/
theorem review_remedy {o : Observation} {current : String} {heads : Heads}
    (h : review python limits d o = .ok (.remedy current heads)) :
    d.fingerprint ≠ some current ∧ d.attempts < limits.attempts := by
  obtain ⟨now, pr, risk, dependencies, checks, findings⟩ := o
  simp only [review] at h
  split at h
  · cases h
  · rcases pr with _ | pr
    · cases h
    rcases risk with _ | (_ | reason)
    · cases h
    case ok.some => cases h
    rcases dependencies with _ | blockers
    · cases h
    simp only [bind, Except.bind] at h
    split at h
    · cases h
    · rcases checks with _ | checks
      · cases h
      rcases findings with _ | findings
      · cases h
      simp only at h
      split at h
      · cases h
      · split at h
        · cases h
        · split at h
          · cases h
          · rename_i hnew
            split at h
            · cases h
            · rename_i hleft
              cases h
              exact ⟨fun heq ↦ hnew heq.symm, Int.not_le.mp hleft⟩

theorem Sound.start (h : Sound limits number prNumber w) (now : ℚ) :
    Sound limits number prNumber (w.start number prNumber now) := by
  rw [Driver.start]
  split
  · rename_i hfile
    cases h with
    | empty hfile' hrecorded hlog =>
      exact .torn rfl hrecorded hlog (Or.inr ⟨now, rfl⟩)
    | torn hfile' => cases hfile.symm.trans hfile'
    | whole d hfile' => cases hfile.symm.trans hfile'
  · exact h
  · rename_i d hfile
    split
    · cases h with
      | empty hfile' => cases hfile.symm.trans hfile'
      | torn hfile' => cases hfile.symm.trans hfile'
      | whole d' hfile' hstate hproper hbound hpoint =>
        obtain rfl : d = d' := by
          have heq := hfile.symm.trans hfile'
          rw [Option.some.injEq, Document.whole.injEq] at heq
          exact heq
        exact .whole d hfile ⟨hstate.1, hstate.2, hstate.3, hstate.4, hstate.5⟩ hproper hbound rfl
    · exact h

/-- The attempt that is recorded is the next one, and another failure. -/
theorem Sound.replace {e : Durable} (h : Sound limits number prNumber w)
    (hpoint : w.point = .replacing e) : Sound limits number prNumber w.proceed := by
  obtain ⟨d, hfile, hstate, hproper, hbound, hat⟩ := h.running (by rw [hpoint]; rfl)
  rw [At, hpoint] at hat
  obtain ⟨⟨current, rfl, hother, hleft⟩, htemporary⟩ := hat
  have hlast : (w.log ++ [Logged.recorded current]).getLast? = some (.recorded current) :=
    List.getLast?_concat
  have hcount : (w.log ++ [Logged.recorded current]).countP Logged.isRecorded =
      w.log.countP Logged.isRecorded + 1 := by
    rw [List.countP_append]
    rfl
  have hattempts := hstate.attempts
  rw [hstate.fingerprint] at hother
  simp only [proceed, hpoint]
  refine .whole (d.consume current) htemporary ⟨hstate.1, hstate.2, hstate.3, ?_, ?_⟩
    (hproper.record hother) ?_ ⟨rfl, current, rfl, hlast⟩
  · show d.attempts + 1 = ((w.log ++ [Logged.recorded current]).countP Logged.isRecorded : ℕ)
    rw [hcount, hattempts]
    exact (Nat.cast_succ _).symm
  · show some current = (w.log ++ [Logged.recorded current]).getLast?.map Logged.label
    rw [hlast]
    rfl
  · show ((w.log ++ [Logged.recorded current]).countP Logged.isRecorded : ℤ) ≤ _
    rw [hcount]
    push_cast
    omega

/-- The state that the file is created with says that nothing has been done. -/
theorem Sound.create {e : Durable} (h : Sound limits number prNumber w)
    (hpoint : w.point = .creating e) : Sound limits number prNumber w.proceed := by
  cases h with
  | empty hfile hrecorded hlog hdown => cases hpoint.symm.trans hdown
  | torn hfile hrecorded hlog hcreating =>
    rcases hcreating with hdown | ⟨now, hcreating⟩
    · cases hpoint.symm.trans hdown
    · obtain rfl : e = .fresh number prNumber now :=
        Point.creating.inj (hpoint.symm.trans hcreating)
      have hcount : w.log.countP Logged.isRecorded = 0 := by
        rw [hlog]
        rfl
      have hlast : w.log.getLast?.map Logged.label = none := by
        rw [hlog]
        rfl
      simp only [proceed, hpoint]
      refine .whole _ rfl ⟨rfl, rfl, rfl, ?_, hlast.symm⟩ (hlog ▸ proper_nil) ?_ rfl
      · show (0 : ℤ) = (w.log.countP Logged.isRecorded : ℕ)
        rw [hcount]
        rfl
      · show (w.log.countP Logged.isRecorded : ℤ) ≤ _
        rw [hcount]
        exact le_max_left 0 _
  | whole d hfile hstate hproper hbound hat =>
    rw [At, hpoint] at hat
    exact hat.elim

theorem kept_proceed (hcreating : ∀ e, w.point ≠ .creating e)
    (hreplacing : ∀ e, w.point ≠ .replacing e) (hunlinking : w.point ≠ .unlinking) :
    w.proceed.file = w.file ∧ w.proceed.recorded = w.recorded ∧ w.proceed.log = w.log := by
  rw [Driver.proceed]
  split
  case h_1 d hpoint => exact absurd hpoint (hcreating d)
  case h_6 hpoint => exact absurd hpoint hunlinking
  case h_10 d hpoint => exact absurd hpoint (hreplacing d)
  all_goals exact ⟨rfl, rfl, rfl⟩

theorem Sound.proceed (h : Sound limits number prNumber w) (hmerged : w.merged = false) :
    Sound limits number prNumber w.proceed := by
  cases hpoint : w.point with
  | creating e => exact h.create hpoint
  | replacing e => exact h.replace hpoint
  | down | polling | revalidating | verifying | remedying | pushing =>
    simp only [Driver.proceed, hpoint]
    exact h
  | closing | reporting | unlinking =>
    -- these points are reached after a merge only
    obtain ⟨d, -, -, -, -, hat⟩ := h.running (by rw [hpoint]; rfl)
    rw [At, hpoint, hmerged] at hat
    cases hat
  | created e | merging | saving e | filling e | restricting e | publishing e =>
    obtain ⟨hfile, hrecorded, hlog⟩ := kept_proceed (w := w) (by rw [hpoint]; exact nofun)
      (by rw [hpoint]; exact nofun) (by rw [hpoint]; exact nofun)
    refine h.goOn (by rw [hpoint]; rfl) hfile hrecorded hlog ?_
    intro d hat
    rw [At, hpoint] at hat
    simp only [Driver.proceed, hpoint]
    first | exact hat | exact ⟨hat, rfl⟩

theorem Sound.push {e : Durable} (h : Sound limits number prNumber w)
    (hpoint : w.point = .pushing e) (taken ok : Bool) :
    Sound limits number prNumber (w.push e taken ok) := by
  obtain ⟨d, hfile, hstate, hproper, hbound, hat⟩ := h.running (by rw [hpoint]; rfl)
  rw [At, hpoint] at hat
  obtain ⟨rfl, current, hcurrent, hlast⟩ := hat
  have hpoint' : ∀ w' : Driver, w'.point = (if ok then .publishing e else .down) →
      w'.At limits e := by
    intro w' hw'
    rw [At, hw']
    cases ok
    · trivial
    · rfl
  rcases taken with _ | _
  · exact .whole e hfile ⟨hstate.1, hstate.2, hstate.3, hstate.4, hstate.5⟩ hproper hbound
      (hpoint' _ rfl)
  · have hlog : (w.push e true ok).log = w.log ++ [.performed current] := by
      rw [Driver.push, hcurrent]
      rfl
    have hcount : (w.push e true ok).log.countP Logged.isRecorded =
        w.log.countP Logged.isRecorded := by
      rw [hlog, List.countP_append]
      rfl
    refine .whole e hfile ⟨hstate.1, hstate.2, hstate.3, ?_, ?_⟩ ?_ ?_ (hpoint' _ rfl)
    · rw [hcount]
      exact hstate.4
    · rw [hlog, List.getLast?_concat]
      exact hcurrent
    · rw [hlog]
      exact hproper.perform hlast
    · rw [hcount]
      exact hbound

/-- **Every step keeps the invariant** until a merge is verified. -/
theorem Sound.step (h : Sound limits number prNumber w) (hmerged : w.merged = false) (i : Input) :
    (w.step python limits number prNumber i).merged = true ∨
      Sound limits number prNumber (w.step python limits number prNumber i) := by
  unfold Driver.step
  split
  · exact Or.inr (h.start _)
  · exact Or.inr h.down
  · -- a round: what it finds out about the failure is all that has to be kept
    rename_i o d hpoint
    have hgo : ∀ p : Point, (∀ e, w.At limits e → (w.goto p).At limits e) →
        Sound limits number prNumber (w.goto p) := by
      intro p hp
      exact h.goOn (by rw [hpoint]; rfl) rfl rfl rfl hp
    split
    · exact Or.inr h.down
    · exact Or.inr h
    · refine Or.inr (hgo _ ?_)
      intro e hat
      rw [At, hpoint] at hat
      exact hat
    · rename_i current heads hreview
      refine Or.inr (hgo _ ?_)
      intro e hat
      rw [At, hpoint] at hat
      subst hat
      exact ⟨rfl, current, rfl, review_remedy hreview⟩
  · rename_i hpoint
    split
    · exact Or.inr h.down
    · exact Or.inr (h.goOn (by rw [hpoint]; rfl) rfl rfl rfl fun _ _ ↦ trivial)
  · rename_i hpoint
    split
    · exact Or.inr h.down
    · refine Or.inr (h.goOn (by rw [hpoint]; rfl) rfl rfl rfl ?_)
      intro e hat
      rw [At, hpoint] at hat
      obtain ⟨rfl, hconsumes⟩ := hat
      exact hconsumes
  · rename_i taken ok d hpoint
    exact Or.inr (h.push hpoint taken ok)
  · rename_i merged hpoint
    rcases merged with _ | _
    · exact Or.inr h.down
    · exact Or.inl rfl
  · exact Or.inr (h.proceed hmerged)
  · exact Or.inr h.down
  · exact Or.inr h

theorem merged_step (h : w.merged = true) (i : Input) :
    (w.step python limits number prNumber i).merged = true := by
  have hproceed : w.proceed.merged = true := by
    rw [proceed]
    split <;> exact h
  have hstart : ∀ now, (w.start number prNumber now).merged = true := by
    intro now
    rw [start]
    split
    · exact h
    · exact h
    · split <;> exact h
  unfold step
  split
  · exact hstart _
  · exact h
  · split <;> exact h
  · split <;> exact h
  · split <;> exact h
  · exact h
  · split
    · rfl
    · exact h
  · exact hproceed
  · exact h
  · exact h

end Driver

/-! ## Every run -/

variable {python : Python} {limits : Limits} {number prNumber : ℕ}

/-- What a start makes of the driver that is down: it stops, or it goes on with the time of the
start, the number of attempts and the fingerprint that are recorded, or there is no state file and
nothing has been done. -/
def Driver.Resumes (w w' : Driver) : Prop :=
  w'.point = .down ∨
  (∃ d, w'.point = .polling d ∧ w.recorded = some d.started ∧
    d.attempts = w.log.countP Logged.isRecorded ∧
    d.fingerprint = w.log.getLast?.map Logged.label) ∨
  w.file = none ∧ w.recorded = none ∧ w.log = []

theorem Driver.Sound.resumes {w : Driver} (h : w.Sound limits number prNumber)
    (hdown : w.point = .down) (now : ℚ) :
    w.Resumes (w.step python limits number prNumber (.start now)) := by
  have hstep : w.step python limits number prNumber (.start now) = w.start number prNumber now := by
    simp only [Driver.step, hdown]
  rw [hstep]
  cases h with
  | empty hfile hrecorded hlog => exact Or.inr (Or.inr ⟨hfile, hrecorded, hlog⟩)
  | torn hfile =>
    -- the beginning of a document is refused
    rw [Driver.start, hfile]
    exact Or.inl hdown
  | whole d hfile hstate =>
    simp only [Driver.start, hfile]
    split
    · exact Or.inr (Or.inl ⟨d, rfl, hstate.started, hstate.attempts, hstate.fingerprint⟩)
    · exact Or.inl hdown

/-- **The budget of the review.** In every run of the driver in which no merge has been verified,
whatever GitHub, the clock and the workspace answer and wherever the driver stops or is killed:
there are at most as many pushes as the limit says, each right after its attempt was recorded, no
attempt answers the failure of the one recorded before it, so that between two pushes for one
failure an attempt for another one was recorded, and a start goes on with what is recorded or
stops. -/
theorem review_budget (inputs : List Input)
    (hmerged : (run (Driver.step python limits number prNumber) .init inputs).merged = false) :
    (run (Driver.step python limits number prNumber) .init inputs).log.countP Logged.isPerformed ≤
      limits.attempts.toNat ∧
    Proper (run (Driver.step python limits number prNumber) .init inputs).log ∧
    (∀ before middle after current,
      (run (Driver.step python limits number prNumber) .init inputs).log =
        before ++ .performed current :: (middle ++ .performed current :: after) →
      ∃ other, other ≠ current ∧ Logged.recorded other ∈ middle) ∧
    ∀ now, (run (Driver.step python limits number prNumber) .init inputs).point = .down →
      (run (Driver.step python limits number prNumber) .init inputs).Resumes
        ((run (Driver.step python limits number prNumber) .init inputs).step python limits number
          prNumber (.start now)) := by
  have hsound := invariant_run (Driver.step python limits number prNumber)
    (I := fun w ↦ w.merged = true ∨ w.Sound limits number prNumber)
    (fun w i h ↦ ?_) (Or.inr Driver.sound_init) inputs
  · generalize run (Driver.step python limits number prNumber) .init inputs = w at hmerged hsound
    rcases hsound with hafter | hsound
    · rw [hmerged] at hafter
      cases hafter
    have hlog : Proper w.log ∧ (w.log.countP Logged.isRecorded : ℤ) ≤ max 0 limits.attempts := by
      cases hsound with
      | empty hfile hrecorded hnil | torn hfile hrecorded hnil =>
        rw [hnil]
        exact ⟨proper_nil, le_max_left 0 _⟩
      | whole d hfile hstate hproper hbound => exact ⟨hproper, hbound⟩
    have hle := hlog.1.performed_le
    refine ⟨by omega, hlog.1, ?_, ?_⟩
    · intro before middle after current heq
      exact (heq ▸ hlog.1).between
    · intro now hdown
      exact hsound.resumes hdown now
  · rcases h with h | h
    · exact Or.inl (Driver.merged_step h i)
    · rcases hm : w.merged with _ | _
      · exact h.step hm i
      · exact Or.inl (Driver.merged_step hm i)

/-! ### Examples -/

def exampleFailure (diagnostic : String) : List Value :=
  [.object [("check", .string "ubuntu-latest"), ("diagnostic", .string diagnostic)]]

/-- What is dumped for it. -/
def exampleDump (diagnostic : String) : String :=
  "\x7b\"failed_checks\": [\x7b\"check\": \"ubuntu-latest\", \"diagnostic\": \"" ++ diagnostic ++
    "\"\x7d], \"review_findings\": []\x7d"

def exampleHashes : List (String × String) :=
  [("test a failed", "5056364d502d19454897c3a020ae5212a8d4b64700443089245198acf5ecaf35"),
    ("test b failed", "7b46b1d1f038e4122505ea461ca2ecf7b7416c4f9f8800a96bfa68adf4cfa41a")]

/-- The two functions on the two failures. -/
def examplePython : Python where
  dumps value :=
    match exampleHashes.find? fun entry ↦ value = .object
      [("failed_checks", .array (exampleFailure entry.1)), ("review_findings", .array [])] with
    | some entry => exampleDump entry.1
    | none => ""
  sha256 text :=
    match exampleHashes.find? fun entry ↦ text = exampleDump entry.1 with
    | some entry => entry.2
    | none => ""

def exampleCommit (digit : Char) : String := String.ofList (List.replicate 40 digit)

/-- One attempt, up to the push, after a check of the pull request has failed on `head`. -/
def exampleAttempt (head after : Char) (diagnostic : String) : List Input :=
  [.observe ⟨60, .ok ⟨exampleCommit head, exampleCommit 'b'⟩, .ok none, .ok [],
      .ok ⟨.failed, exampleFailure diagnostic⟩, .ok []⟩,
    .remedy ⟨.ok (exampleCommit head), .ok "symphony/issue-7", .ok (), .ok (exampleCommit after),
      .ok "", .ok (), .ok (exampleCommit after), .ok "", .ok false, .ok ()⟩,
    .proceed true, .proceed true, .proceed true, .proceed true]

/-- A failure is answered by a push. The driver is killed before it pushes for another failure. The
hook that starts it again has published the commit, and then the first failure is there again. -/
def exampleRound : List Input :=
  [.start 0, .proceed true, .proceed true] ++ exampleAttempt '0' '1' "test a failed" ++
    [.push true true, .proceed true] ++ exampleAttempt '1' '2' "test b failed" ++ [.crash]

def exampleAgain : List Input :=
  exampleRound ++ [.start 40] ++ exampleAttempt '2' '3' "test a failed" ++ [.push true true]

/-- The next start goes on with two attempts and the second failure. -/
theorem review_budget_exampleRound :
    (run (Driver.step examplePython ⟨3, 7200⟩ 7 12) .init exampleRound).Resumes
      ((run (Driver.step examplePython ⟨3, 7200⟩ 7 12) .init exampleRound).step examplePython
        ⟨3, 7200⟩ 7 12 (.start 40)) :=
  (review_budget exampleRound
    (show (run (Driver.step examplePython ⟨3, 7200⟩ 7 12) .init exampleRound).merged = false by
      decide +kernel)).2.2.2 40 rfl

/-- Two pushes, one right after the other, answer one failure. -/
theorem exampleAgain_repeated :
    (run (Driver.step examplePython ⟨3, 7200⟩ 7 12) .init exampleAgain).merged = false ∧
      ¬ ∀ before middle after f g,
        (run (Driver.step examplePython ⟨3, 7200⟩ 7 12) .init exampleAgain).log =
          before ++ .performed f :: (middle ++ .performed g :: after) →
        (∀ e ∈ middle, e.isPerformed = false) → f ≠ g := by
  refine ⟨by decide +kernel, fun h ↦ ?_⟩
  have hlog : (run (Driver.step examplePython ⟨3, 7200⟩ 7 12) .init exampleAgain).log =
      [.recorded "5056364d502d19454897c3a020ae5212a8d4b64700443089245198acf5ecaf35"] ++
        .performed "5056364d502d19454897c3a020ae5212a8d4b64700443089245198acf5ecaf35" ::
        ([.recorded "7b46b1d1f038e4122505ea461ca2ecf7b7416c4f9f8800a96bfa68adf4cfa41a",
          .recorded "5056364d502d19454897c3a020ae5212a8d4b64700443089245198acf5ecaf35"] ++
        .performed "5056364d502d19454897c3a020ae5212a8d4b64700443089245198acf5ecaf35" :: []) := by
    decide +kernel
  exact h _ _ _ _ _ hlog (by decide) rfl

end TunnelDeck.Symphony
