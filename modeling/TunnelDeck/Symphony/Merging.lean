import TunnelDeck.Symphony.PullRequest

/-!
# When the review driver merges

The driver reads the state of the pull request in each round. When nothing stands against a merge it
reads all of it once more, and then asks GitHub to merge the commit that it has just looked at. Here
the driver is run on the answers themselves, as GitHub gives them.

## Main result

`merge_law`: whatever the answers are and wherever the driver stops, is killed and is started again,
it sets about to merge a commit only after GitHub has described it twice as one that may be merged.
-/

namespace TunnelDeck.Symphony

open Json (Value)
open Concurrency

/-! ## Answers -/

/-- What the driver is started with, and what it does not do itself. -/
structure Setup where
  python : Python
  limits : Limits
  number : ℕ
  prNumber : ℕ
  /-- `SYMPHONY_REQUIRED_CHECKS`. -/
  requiredText : String
  cargo : CargoFiles
  /-- Which numbers with a fraction are zero. -/
  isZero : String → Bool
  /-- `failed_logs`. -/
  failedLogs : List Value → List Value

/-- What GitHub answers in a round, and the time at its beginning. -/
structure RoundAnswers extends MergeAnswers where
  now : ℚ
  /-- The changed files. -/
  files : Pages

variable (setup : Setup)

def RoundAnswers.observation (a : RoundAnswers) : Observation :=
  let pr := expectedPr setup.isZero setup.number setup.prNumber none a.pr
  { now := a.now
    pr
    risk := do
      let heads ← pr
      riskReason setup.cargo heads.base heads.head (← listing a.files)
    dependencies := (openDependencies a.dependencies).map (·.map Int.toNat)
    checks := (checkState (requiredChecks setup.requiredText) a.checks).map fun checks ↦
      ⟨checks.1, setup.failedLogs (checks.2.map CheckRun.object)⟩
    findings := do
      let heads ← pr
      reviewFindings heads.head a.document a.reviews }

/-- What the driver makes of the answers before a merge. -/
def MergeAnswers.revalidation (heads : Heads) (a : MergeAnswers) : Revalidation where
  pr := (expectedPr setup.isZero setup.number setup.prNumber (some heads) a.pr).map fun _ ↦ ()
  dependencies := (openDependencies a.dependencies).map (·.map Int.toNat)
  checks := (checkState (requiredChecks setup.requiredText) a.checks).map Prod.fst
  findings := reviewFindings heads.head a.document a.reviews

/-- Whether GitHub says that the pull request is merged. -/
def isMerged (isZero : String → Bool) (answer : Pages) : Bool :=
  match one answer with
  | .ok pr => isTruthy isZero (pr.get "merged") && (shaOf (pr.get "merge_commit_sha")).isSome
  | .error _ => false

/-! ## The driver on the answers -/

inductive MergerInput where
  | start (now : ℚ)
  | crash
  | observe (a : RoundAnswers)
  | revalidate (a : MergeAnswers)
  | remedy (o : Workspace)
  | push (taken ok : Bool)
  | verify (answer : Pages)
  | proceed (ok : Bool)

def Point.heads : Point → Heads
  | .revalidating _ heads => heads
  | _ => ⟨"", ""⟩

def MergerInput.input (point : Point) : MergerInput → Input
  | .start now => .start now
  | .crash => .crash
  | .observe a => .observe (a.observation setup)
  | .revalidate a => .revalidate (a.revalidation setup point.heads)
  | .remedy o => .remedy o
  | .push taken ok => .push taken ok
  | .verify answer => .verify (isMerged setup.isZero answer)
  | .proceed ok => .proceed ok

/-- A commit that the driver sets about to merge, with the answers of the round, the state that the
round began with and the answers before the merge. -/
structure MergeRequest where
  heads : Heads
  round : RoundAnswers
  durable : Durable
  answers : MergeAnswers

structure Merger where
  driver : Driver
  /-- The answers of the last round. -/
  round : Option RoundAnswers
  requests : List MergeRequest

namespace Merger

def init : Merger := ⟨.init, none, []⟩

def request (w : Merger) (next : Driver) : MergerInput → Option MergeRequest
  | .revalidate a =>
    match w.driver.point, next.point, w.round with
    | .revalidating d heads, .merging, some round => some ⟨heads, round, d, a⟩
    | _, _, _ => none
  | _ => none

def step (w : Merger) (i : MergerInput) : Merger :=
  let next := w.driver.step setup.python setup.limits setup.number setup.prNumber
    (i.input setup w.driver.point)
  { driver := next
    round :=
      match i, w.driver.point with
      | .observe a, .polling _ => some a
      | _, _ => w.round
    requests := w.requests ++ (w.request next i).toList }

end Merger

/-! ## The law -/

variable {setup}

/-- The round has found nothing against a merge. -/
structure Clears (setup : Setup) (d : Durable) (heads : Heads) (round : RoundAnswers) : Prop where
  mergeable : Mergeable setup.isZero setup.number setup.prNumber
    (requiredChecks setup.requiredText) heads round.toMergeAnswers
  inTime : round.now - d.started < setup.limits.seconds
  harmless : ∃ files, listing round.files = .ok files ∧
    riskReason setup.cargo heads.base heads.head files = .ok none

theorem review_eq_merge {python : Python} {limits : Limits} {d : Durable} {o : Observation}
    {heads : Heads} (h : review python limits d o = .ok (.merge heads)) :
    o.now - d.started < limits.seconds ∧ o.pr = .ok heads ∧ o.risk = .ok none ∧
      o.dependencies = .ok [] ∧ (∃ checks, o.checks = .ok checks ∧ checks.state = .success) ∧
        o.findings = .ok [] := by
  rw [review] at h
  by_cases htime : limits.seconds ≤ o.now - d.started
  · rw [if_pos htime] at h
    cases h
  rw [if_neg htime] at h
  rcases hpr : o.pr with text | found
  · simp [hpr, bind, Except.bind] at h
  rcases hrisk : o.risk with text | risk
  · simp [hpr, hrisk, bind, Except.bind] at h
  rcases risk with _ | reason
  swap
  · simp [hpr, hrisk, bind, Except.bind] at h
  rcases hdependencies : o.dependencies with text | blockers
  · simp [hpr, hrisk, hdependencies, bind, Except.bind] at h
  simp only [hpr, hrisk, hdependencies, bind, Except.bind] at h
  by_cases hblockers : blockers = []
  swap
  · rw [if_pos hblockers] at h
    cases h
  rw [if_neg (not_not_intro hblockers)] at h
  rcases hchecks : o.checks with text | checks
  · simp [hchecks] at h
  rcases hfindings : o.findings with text | findings
  · simp [hchecks, hfindings] at h
  simp only [hchecks, hfindings] at h
  split_ifs at h with hpending hpasses
  · cases h
  · obtain rfl := Verdict.merge.inj (Except.ok.inj h)
    rw [hblockers, hpasses.2]
    exact ⟨not_le.mp htime, rfl, rfl, rfl, ⟨checks, rfl, hpasses.1⟩, rfl⟩
  · cases h

theorem revalidate_eq_ok {o : Revalidation} (h : revalidate o = .ok ()) :
    o.pr = .ok () ∧ o.dependencies = .ok [] ∧ o.checks = .ok .success ∧ o.findings = .ok [] := by
  rw [revalidate] at h
  rcases hpr : o.pr with text | ⟨⟩
  · simp [hpr, bind, Except.bind] at h
  rcases hdependencies : o.dependencies with text | blockers
  · simp [hpr, hdependencies, bind, Except.bind] at h
  simp only [hpr, hdependencies, bind, Except.bind] at h
  split_ifs at h with hblockers
  rcases hchecks : o.checks with text | state
  · simp [hchecks] at h
  simp only [hchecks] at h
  split_ifs at h with hstate
  rcases hfindings : o.findings with text | findings
  · simp [hfindings] at h
  simp only [hfindings] at h
  split_ifs at h with hnone
  rw [Decidable.not_not] at hblockers hstate hnone
  rw [hblockers, hstate, hnone]
  exact ⟨rfl, rfl, rfl, rfl⟩

theorem ok_of_map_eq_ok {α β : Type} {f : α → β} {result : Except String α} {b : β}
    (h : result.map f = .ok b) : ∃ a, result = .ok a ∧ f a = b := by
  cases result with
  | error text => cases h
  | ok a => exact ⟨a, rfl, Except.ok.inj h⟩

theorem noDependencies {answer : Pages}
    (h : (openDependencies answer).map (·.map Int.toNat) = .ok []) :
    openDependencies answer = .ok [] := by
  obtain ⟨blockers, hblockers, hnil⟩ := ok_of_map_eq_ok h
  rw [hblockers, List.map_eq_nil_iff.mp hnil]

theorem clears_of_review {d : Durable} {heads : Heads} {a : RoundAnswers}
    (h : review setup.python setup.limits d (a.observation setup) = .ok (.merge heads)) :
    Clears setup d heads a := by
  obtain ⟨htime, hpr, hrisk, hdependencies, ⟨checks, hchecks, hsuccess⟩, hfindings⟩ :=
    review_eq_merge h
  simp only [RoundAnswers.observation] at htime hpr hrisk hdependencies hchecks hfindings
  simp only [hpr, bind, Except.bind] at hrisk hfindings
  obtain ⟨⟨state, failed⟩, hstate, rfl⟩ := ok_of_map_eq_ok hchecks
  obtain rfl : state = .success := hsuccess
  refine ⟨mergeable_of_passes hpr (noDependencies hdependencies) hstate hfindings, htime, ?_⟩
  cases hfiles : listing a.files with
  | error text => simp [hfiles] at hrisk
  | ok files => exact ⟨files, rfl, by simpa only [hfiles] using hrisk⟩

theorem mergeable_of_revalidate {heads : Heads} {a : MergeAnswers}
    (h : revalidate (a.revalidation setup heads) = .ok ()) :
    Mergeable setup.isZero setup.number setup.prNumber (requiredChecks setup.requiredText) heads
      a := by
  obtain ⟨hpr, hdependencies, hchecks, hfindings⟩ := revalidate_eq_ok h
  obtain ⟨found, hfound, -⟩ := ok_of_map_eq_ok hpr
  obtain rfl := (identifies_of_expectedPr hfound).2 heads rfl
  obtain ⟨⟨state, failed⟩, hstate, rfl⟩ := ok_of_map_eq_ok hchecks
  exact mergeable_of_passes hfound (noDependencies hdependencies) hstate hfindings

/-- The driver gets to the second look from a round that has found nothing against a merge. -/
theorem revalidating_step {w : Driver} {i : Input} {d : Durable} {heads : Heads}
    (h : (w.step setup.python setup.limits setup.number setup.prNumber i).point =
      .revalidating d heads) :
    w.point = .revalidating d heads ∨ w.point = .polling d ∧
      ∃ o, i = .observe o ∧ review setup.python setup.limits d o = .ok (.merge heads) := by
  unfold Driver.step at h
  split at h
  · unfold Driver.start at h
    split at h
    · cases h
    · exact .inl h
    · split_ifs at h
      · cases h
      · exact .inl h
  · cases h
  · rename_i o d' hpolling
    split at h
    · cases h
    · exact .inl h
    · rename_i hreview
      obtain ⟨rfl, rfl⟩ := Point.revalidating.inj h
      exact .inr ⟨hpolling, o, rfl, hreview⟩
    · cases h
  · split at h <;> cases h
  · split at h <;> cases h
  · unfold Driver.push at h
    split_ifs at h <;> cases h
  · split_ifs at h <;> cases h
  · unfold Driver.proceed at h
    split at h
    all_goals first | cases h | exact .inl h
  · cases h
  · exact .inl h

namespace Merger

/-- What holds of the driver on the answers. -/
structure Sound (setup : Setup) (w : Merger) : Prop where
  /-- Who looks a second time has found nothing in the round. -/
  looking : ∀ d heads, w.driver.point = .revalidating d heads →
    ∃ round, w.round = some round ∧ Clears setup d heads round
  requests : ∀ r ∈ w.requests, Clears setup r.durable r.heads r.round ∧
    Mergeable setup.isZero setup.number setup.prNumber (requiredChecks setup.requiredText) r.heads
      r.answers

theorem Sound.step {w : Merger} (h : w.Sound setup) (i : MergerInput) :
    (w.step setup i).Sound setup where
  looking d heads hpoint := by
    rcases revalidating_step hpoint with hsame | ⟨hpolling, o, ho, hreview⟩
    · obtain ⟨round, hround, hclears⟩ := h.looking d heads hsame
      refine ⟨round, ?_, hclears⟩
      rw [← hround]
      simp only [Merger.step, hsame]
    · cases i with
      | observe a =>
        obtain rfl := Input.observe.inj ho
        refine ⟨a, ?_, clears_of_review hreview⟩
        simp only [Merger.step, hpolling]
      | _ => cases ho
  requests := by
    intro r hr
    rcases List.mem_append.mp hr with hr | hr
    · exact h.requests r hr
    rw [Option.mem_toList] at hr
    cases i with
    | revalidate a =>
      simp only [request] at hr
      split at hr
      · rename_i d heads round hpoint hnext hround
        obtain rfl := Option.some.inj (Option.mem_def.mp hr)
        obtain ⟨found, hfound, hclears⟩ := h.looking d heads hpoint
        rw [hround] at hfound
        obtain rfl := Option.some.inj hfound
        refine ⟨hclears, mergeable_of_revalidate ?_⟩
        simp only [MergerInput.input, Driver.step, hpoint, Point.heads] at hnext
        split at hnext
        · cases hnext
        · assumption
      · cases hr
    | _ => cases hr

end Merger

/-- **A merge is of a commit that has been looked at twice.** In every run of the driver, whatever
GitHub, the clock and the workspace answer and wherever the driver stops, is killed and is started
again: when it sets about to merge a commit, its round has found the time not to be over and the
changed files to be no risk, and both the answers of the round and those that were read right before
the merge describe the open pull request of the issue with this commit and this base, with every
dependency closed, the latest run of every required check successful and no finding of CodeRabbit
about the commit left. -/
theorem merge_law (inputs : List MergerInput) :
    ∀ r ∈ (run (Merger.step setup) .init inputs).requests,
      Clears setup r.durable r.heads r.round ∧
        Mergeable setup.isZero setup.number setup.prNumber (requiredChecks setup.requiredText)
          r.heads r.answers := by
  have hinit : Merger.Sound setup .init :=
    { looking := fun d heads h ↦ by cases h
      requests := fun r hr ↦ by cases hr }
  exact (invariant_run (Merger.step setup) (fun _ i h ↦ h.step i) hinit inputs).requests

/-! ### Example -/

def exampleRepository : Value := .object [("full_name", .string repo)]

def examplePr : Value :=
  .object [("number", .int 12), ("state", .string "open"), ("merged", .bool false),
    ("body", .string "Refs #7"),
    ("base", .object [("ref", .string "main"), ("repo", exampleRepository),
      ("sha", .string (exampleCommit 'b'))]),
    ("head", .object [("ref", .string "symphony/issue-7"), ("repo", exampleRepository),
      ("sha", .string (exampleCommit '0'))])]

/-- A check has failed and has been run again. -/
def exampleRuns : Value :=
  .object [("check_runs", .array
    [.object [("name", .string "test"), ("id", .int 2), ("status", .string "completed"),
        ("conclusion", .string "success")],
      .object [("name", .string "test"), ("id", .int 1), ("status", .string "completed"),
        ("conclusion", .string "failure")]])]

/-- There are no threads. -/
def exampleDocument : Value :=
  .object [("data", .object [("repository", .object [("pullRequest", .object [("reviewThreads",
    .object [("pageInfo", .object [("hasNextPage", .bool false)]), ("nodes", .array [])])])])])]

def exampleMergeAnswers : MergeAnswers where
  pr := .ok [examplePr]
  dependencies := .ok [.array []]
  checks := .ok [exampleRuns]
  document := .ok exampleDocument
  reviews := .ok [.array []]

def exampleSetup : Setup where
  python := examplePython
  limits := ⟨3, 7200⟩
  number := 7
  prNumber := 12
  requiredText := "test"
  cargo := exampleCargo
  isZero _ := false
  failedLogs _ := []

/-- A round, and a merge. -/
def exampleMerge : List MergerInput :=
  [.start 0, .proceed true, .proceed true,
    .observe { exampleMergeAnswers with now := 60, files := .ok [.array []] },
    .revalidate exampleMergeAnswers]

theorem merge_law_exampleMerge :
    (run (Merger.step exampleSetup) .init exampleMerge).requests.length = 1 ∧
      ∀ r ∈ (run (Merger.step exampleSetup) .init exampleMerge).requests,
        Mergeable exampleSetup.isZero 7 12 (requiredChecks "test") r.heads r.answers :=
  ⟨by decide +kernel, fun r hr ↦ (merge_law exampleMerge r hr).2⟩

end TunnelDeck.Symphony
