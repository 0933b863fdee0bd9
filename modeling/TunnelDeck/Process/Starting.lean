import TunnelDeck.Process.Guardian
import TunnelDeck.Text.Hex
import TunnelDeck.Text.UnixPath

/-!
# Starting an attempt

`start_attempt` creates a directory for the attempt, spawns the guardian and hands the directory
over to it with the spec. It can fail at each of its steps. Some failures remove the directory by
hand, and behind the acceptance of the guardian it is the guardian who removes it. The rest is a
bare `?`, which leaves the directory where it is.

The daemon and the guardian take their steps in any order, and how a step of the daemon ends is
part of the input. The directory is there until one of the two has removed it, and a removal does
not fail.

## Main result

`directory_gone_iff`: when the start has failed and the guardian has ended, the directory is gone
exactly if the run took none of the five bare `?` between the creation and the hand-over.
-/

namespace TunnelDeck.Process

open Concurrency
open Text (UnixPath)

/-! ## The control socket -/

def attemptDirectory (runtime : UnixPath) (attemptId : BitVec 128) : UnixPath :=
  runtime.join (.ofText ("attempt-" ++ Text.formatUuid attemptId).toList)

def controlSocket (runtime : UnixPath) (attemptId : BitVec 128) : UnixPath :=
  (attemptDirectory runtime attemptId).join (.ofText "control.sock".toList)

/-- `check_socket_length`, where the platform allows for paths below the limit. -/
def checkSocketLength (limit : ℕ) (path : UnixPath) : Bool := path.length < limit

def linuxSocketLimit : ℕ := 108

/-! ## The program -/

/-- The steps at which a start fails. -/
inductive FailedStep where
  | createDir
  | setPermissions
  | socketLength
  | socketPair
  | cloneLock
  | spawn
  /-- Setting the read timeout for the exchange. -/
  | setTimeout
  | exchange
  /-- The report says that the forwarding was not accepted. -/
  | rejected
  | masterPid
  /-- Clearing the read timeout behind the exchange. -/
  | clearTimeout
  deriving DecidableEq

/-- Where `start_attempt` stands. -/
inductive StartPoint where
  | createDir
  | setPermissions
  | checkSocketLength
  | socketPair
  | cloneLock
  | spawn
  | setTimeout
  | writeSpec
  | readReport
  /-- `wait_child`, with the lease closed. -/
  | waitChild (failed : FailedStep)
  /-- `remove_dir_all`. -/
  | removeDir (failed : FailedStep)
  | clearTimeout
  | returned (result : Except FailedStep Unit)
  deriving DecidableEq

/-- A start with the guardian that it spawned. -/
structure Starting where
  point : StartPoint
  /-- The attempt directory is there. -/
  dir : Bool
  guardian : Option Guardian
  /-- The spec, or some of it, was written to the lease. -/
  specWritten : Bool
  /-- The report that the guardian wrote. -/
  reported : Option Bool
  deriving DecidableEq

/-- How a step of the daemon ends. -/
structure StartAnswer where
  succeeds : Bool := true
  /-- The process that the report names. -/
  masterPid : ℕ := 1

def Starting.initial : Starting where
  point := .createDir
  dir := false
  guardian := none
  specWritten := false
  reported := none

namespace Starting

def goTo (s : Starting) (point : StartPoint) : Starting := { s with point }

/-- Goes on, or returns the failure of the step: a bare `?`. -/
def orReturn (s : Starting) (ok : Bool) (point : StartPoint) (failed : FailedStep) : Starting :=
  s.goTo (if ok then point else .returned (.error failed))

/-- The process id of a report: a positive `i32`. -/
def validPid (pid : ℕ) : Bool := 0 < pid && pid < 2 ^ 31

/-- The next step of `start_attempt`. -/
def next (limit : ℕ) (socket : UnixPath) (answer : StartAnswer) (s : Starting) : Starting :=
  match s.point with
  | .createDir =>
    if answer.succeeds then { s with dir := true, point := .setPermissions }
    else s.goTo (.returned (.error .createDir))
  | .setPermissions => s.orReturn answer.succeeds .checkSocketLength .setPermissions
  | .checkSocketLength =>
    s.orReturn (Process.checkSocketLength limit socket) .socketPair .socketLength
  | .socketPair => s.orReturn answer.succeeds .cloneLock .socketPair
  | .cloneLock => s.orReturn answer.succeeds .spawn .cloneLock
  | .spawn =>
    if answer.succeeds then { s with guardian := some .spawned, point := .setTimeout }
    else s.goTo (.removeDir .spawn)
  | .setTimeout => s.orReturn answer.succeeds .writeSpec .setTimeout
  | .writeSpec =>
    -- what was written before a failure may be read
    { s with
      specWritten := true
      point := if answer.succeeds then .readReport else .waitChild .exchange }
  | .readReport =>
    if answer.succeeds then
      match s.reported with
      | none => s
      | some false => s.goTo (.waitChild .rejected)
      | some true =>
        s.goTo (if validPid answer.masterPid then .clearTimeout else .waitChild .masterPid)
    else s.goTo (.waitChild .exchange)
  | .waitChild failed => s.goTo (.removeDir failed)
  | .removeDir failed => { s with dir := false, point := .returned (.error failed) }
  | .clearTimeout => s.orReturn answer.succeeds (.returned (.ok ())) .clearTimeout
  | .returned _ => s

/-- What happens to the guardian: it reads a spec only if one was written. -/
def offer (s : Starting) (g : Guardian) : Happening → Happening
  | .step answer =>
    if g.point = .spec then .step { answer with succeeds := answer.succeeds && s.specWritten }
    else .step answer
  | what => what

def report (g : Guardian) : Happening → Option Bool
  | .step answer =>
    match g.point with
    | .report accepted => if answer.succeeds then some accepted else none
    | _ => none
  | _ => none

/-- Something happens to the guardian, if it was spawned. -/
def happen (s : Starting) (what : Happening) : Starting :=
  match s.guardian with
  | none => s
  | some g =>
    let g' := g.happen (s.offer g what)
    { s with
      guardian := some g'
      dir := s.dir && g'.attemptDir
      reported := (report g what).or s.reported }

end Starting

/-- A step of the daemon, or something about the guardian. -/
inductive StartEvent where
  | daemon (answer : StartAnswer)
  | guardian (what : Happening)

def Starting.step (limit : ℕ) (socket : UnixPath) (s : Starting) : StartEvent → Starting
  | .daemon answer => s.next limit socket answer
  | .guardian what => s.happen what

/-! ## The guardian before its spec -/

/-- A guardian that has not read its spec is at its start or on its way out, and has left the
directory alone. -/
def Guardian.Unread (g : Guardian) : Prop :=
  g.specRead = false → g.attemptDir = true ∧ (g.point = .spec ∨ g.point.leaving = true)

theorem Guardian.specRead_next (g : Guardian) (answer : Answer) :
    (g.next answer).specRead = (g.specRead || (g.point = .spec && answer.succeeds)) := by
  have htry : ∀ exited running : Point, (g.tryWait exited running).specRead = g.specRead := by
    intro exited running
    unfold Guardian.tryWait
    split <;> rfl
  rcases hpoint : g.point with _ | _ | _ | _ | _ | _ | _ | accepted | _ | _ | ending | ending |
    ending | ending | ending | ok | ok | ok
  all_goals simp only [Guardian.next, hpoint, htry, reduceCtorEq, decide_false, decide_true,
    Bool.false_and, Bool.true_and, Bool.or_false]
  case spec =>
    rcases hsucceeds : answer.succeeds with _ | _
    · exact (Bool.or_false _).symm
    · exact (Bool.or_true _).symm
  case spawn | graceDeadline | join => split <;> rfl
  case report => split <;> rfl
  all_goals rfl

theorem Guardian.specRead_happen {g : Guardian} (h : g.specRead = true) (what : Happening) :
    (g.happen what).specRead = true := by
  rcases what with answer | _ | index | d
  · rw [Guardian.happen, Guardian.specRead_next, h, Bool.true_or]
  · exact h
  · exact h
  · rw [Guardian.happen]
    split <;> exact h

theorem Guardian.Unread.happen {g : Guardian} (h : g.Unread) (what : Happening) :
    (g.happen what).Unread := by
  intro hunread
  -- what is unread afterwards was unread before
  have hbefore : g.specRead = false := by
    by_contra hread
    rw [Guardian.specRead_happen (eq_true_of_ne_false hread)] at hunread
    cases hunread
  obtain ⟨hdir, hpoint⟩ := h hbefore
  rcases what with answer | _ | index | d
  · rw [Guardian.happen] at hunread ⊢
    rcases hpoint with hspec | hleaving
    · -- the spec could not be read
      rw [Guardian.specRead_next, hspec, hbefore] at hunread
      have hfails : answer.succeeds = false := by simpa using hunread
      simp only [Guardian.next, hspec, hfails]
      exact ⟨hdir, Or.inr rfl⟩
    · rcases hpoint : g.point with _ | _ | _ | _ | _ | _ | _ | accepted | _ | _ | ending |
        ending | ending | ending | ending | ok | ok | ok
      all_goals rw [hpoint] at hleaving
      case returning | closed =>
        simp only [Guardian.next, hpoint]
        exact ⟨hdir, Or.inr rfl⟩
      all_goals cases hleaving
  · exact ⟨hdir, hpoint⟩
  · exact ⟨hdir, hpoint⟩
  · rw [Guardian.happen]
    split <;> exact ⟨hdir, hpoint⟩

/-! ## What holds at every point -/

/-- The step fails with a bare `?` between the creation of the directory and the hand-over. -/
def FailedStep.leaves : FailedStep → Bool
  | .setPermissions | .socketLength | .socketPair | .cloneLock | .setTimeout => true
  | _ => false

namespace Starting

/-- What holds where the start stands. -/
def At (s : Starting) : StartPoint → Prop
  | .createDir => s.dir = false ∧ s.guardian = none ∧ s.specWritten = false
  | .setPermissions | .checkSocketLength | .socketPair | .cloneLock | .spawn =>
    s.dir = true ∧ s.guardian = none ∧ s.specWritten = false
  | .setTimeout | .writeSpec => s.dir = true ∧ s.specWritten = false
  | .readReport | .returned (.ok _) => True
  | .waitChild failed | .removeDir failed => failed.leaves = false
  | .clearTimeout => s.reported.isSome = true
  | .returned (.error failed) =>
    if failed.leaves then s.dir = true ∧ s.specWritten = false
    else s.dir = false ∨ s.reported.isSome = true

/-- What the start relies on about its guardian. -/
structure Trusts (s : Starting) (g : Guardian) : Prop where
  sound : g.Sound
  unread : g.Unread
  unwritten : s.specWritten = false → g.specRead = false
  reported : s.reported.isSome = true → g.specRead = true
  dir : g.attemptDir = false → s.dir = false

/-- The daemon may write the spec and remove the directory. -/
theorem Trusts.mono {s s' : Starting} {g : Guardian} (h : s.Trusts g)
    (hwritten : s'.specWritten = false → s.specWritten = false)
    (hreported : s'.reported = s.reported) (hdir : s.dir = false → s'.dir = false) :
    s'.Trusts g where
  sound := h.sound
  unread := h.unread
  unwritten hnot := h.unwritten (hwritten hnot)
  reported hsome := h.reported (hreported ▸ hsome)
  dir hgone := hdir (h.dir hgone)

/-- What holds of a start and its guardian. -/
structure Sound (s : Starting) : Prop where
  guardian : ∀ g, s.guardian = some g → s.Trusts g
  spawned : s.reported.isSome = true → ∃ g, s.guardian = some g
  point : s.At s.point

theorem sound_initial : Sound initial := by
  constructor
  · intro g hg
    cases hg
  · intro hreported
    cases hreported
  · exact ⟨rfl, rfl, rfl⟩

theorem Sound.goTo {s : Starting} (h : s.Sound) {point : StartPoint} (hpoint : s.At point) :
    (s.goTo point).Sound := by
  constructor
  · intro g hg
    exact (h.guardian g hg).mono id rfl id
  · exact h.spawned
  · rcases point with _ | _ | _ | _ | _ | _ | _ | _ | _ | _ | _ | _ | (failed | _) <;>
      exact hpoint

theorem Sound.orReturn {s : Starting} (h : s.Sound) {ok : Bool} {point : StartPoint}
    {failed : FailedStep} (hpoint : s.At point) (hfailed : s.At (.returned (.error failed))) :
    (s.orReturn ok point failed).Sound := by
  rw [Starting.orReturn]
  split
  · exact h.goTo hpoint
  · exact h.goTo hfailed

/-- **What a step of the daemon keeps.** -/
theorem Sound.next {s : Starting} (h : s.Sound) (limit : ℕ) (socket : UnixPath)
    (answer : StartAnswer) : (s.next limit socket answer).Sound := by
  have hat := h.point
  rcases hpoint : s.point with _ | _ | _ | _ | _ | _ | _ | _ | _ | failed | failed | _ | result
  all_goals rw [hpoint] at hat
  all_goals simp only [Starting.next, hpoint]
  case createDir =>
    obtain ⟨hdir, hguardian, hwritten⟩ := hat
    split
    · constructor
      · intro g hg
        cases hguardian.symm.trans hg
      · exact h.spawned
      · exact ⟨rfl, hguardian, hwritten⟩
    · exact h.goTo (Or.inl hdir)
  case setPermissions | checkSocketLength | socketPair | cloneLock =>
    exact h.orReturn hat ⟨hat.1, hat.2.2⟩
  case spawn =>
    obtain ⟨hdir, hguardian, hwritten⟩ := hat
    -- without a guardian there is no report
    have hreported : s.reported.isSome = false := by
      by_contra hsome
      obtain ⟨g, hg⟩ := h.spawned (eq_true_of_ne_false hsome)
      cases hguardian.symm.trans hg
    split
    · constructor
      · rintro g ⟨rfl⟩
        refine ⟨Guardian.sound_spawned, fun _ ↦ ⟨rfl, Or.inl rfl⟩, fun _ ↦ rfl, ?_, nofun⟩
        intro hsome
        cases hreported.symm.trans hsome
      · intro _
        exact ⟨_, rfl⟩
      · exact ⟨hdir, hwritten⟩
    · exact h.goTo rfl
  case setTimeout => exact h.orReturn hat hat
  case writeSpec =>
    constructor
    · intro g hg
      exact (h.guardian g hg).mono nofun rfl id
    · exact h.spawned
    · split <;> trivial
  case readReport =>
    split
    · split
      · exact h
      · exact h.goTo rfl
      · rename_i hreported
        split
        · refine h.goTo ?_
          rw [At, hreported]
          rfl
        · exact h.goTo rfl
    · exact h.goTo rfl
  case waitChild => exact h.goTo hat
  case removeDir =>
    constructor
    · intro g hg
      exact (h.guardian g hg).mono id rfl fun _ ↦ rfl
    · exact h.spawned
    · rw [At, if_neg (Bool.eq_false_iff.mp hat)]
      exact Or.inl rfl
  case clearTimeout => exact h.orReturn trivial (Or.inr hat)
  case returned => exact h

/-- A point keeps its meaning when the directory goes only behind a written spec. -/
theorem At.mono {s s' : Starting} {point : StartPoint} (h : s.At point)
    (hguardian : s.guardian = none → s' = s) (hwritten : s'.specWritten = s.specWritten)
    (hgone : s.dir = false → s'.dir = false)
    (hkept : s.specWritten = false → s.dir = true → s'.dir = true)
    (hreported : s.reported.isSome = true → s'.reported.isSome = true) : s'.At point := by
  rcases point with _ | _ | _ | _ | _ | _ | _ | _ | _ | failed | failed | _ | (failed | _)
  case createDir | setPermissions | checkSocketLength | socketPair | cloneLock | spawn =>
    rw [hguardian h.2.1]
    exact h
  case setTimeout | writeSpec => exact ⟨hkept h.2 h.1, hwritten.trans h.2⟩
  case readReport => trivial
  case waitChild | removeDir => exact h
  case clearTimeout => exact hreported h
  case returned.error =>
    rw [At] at h ⊢
    split at h
    · rename_i hleaves
      rw [if_pos hleaves]
      exact ⟨hkept h.2 h.1, hwritten.trans h.2⟩
    · rename_i hkeeps
      rw [if_neg hkeeps]
      exact h.imp hgone hreported
  case returned.ok => trivial

theorem Trusts.specRead_offer {s : Starting} {g : Guardian} (h : s.Trusts g)
    (hwritten : s.specWritten = false) (what : Happening) :
    (g.happen (s.offer g what)).specRead = false := by
  have hread := h.unwritten hwritten
  rcases what with answer | _ | index | d
  · rw [offer]
    split
    · rename_i hspec
      rw [Guardian.happen, Guardian.specRead_next, hread, hwritten]
      simp
    · rename_i hspec
      rw [Guardian.happen, Guardian.specRead_next, hread]
      simp [hspec]
  · exact hread
  · exact hread
  · rw [offer, Guardian.happen]
    · split <;> exact hread
    · rintro answer ⟨⟩

theorem Trusts.specRead_report {s : Starting} {g : Guardian} (h : s.Trusts g) {what : Happening}
    (hreport : (report g what).isSome = true) : g.specRead = true := by
  by_contra hread
  obtain ⟨-, hpoint⟩ := h.unread (eq_false_of_ne_true hread)
  rcases what with answer | _ | index | d
  · rw [report] at hreport
    split at hreport
    · rename_i hpoint'
      rw [hpoint'] at hpoint
      rcases hpoint with hspec | hleaving
      · cases hspec
      · cases hleaving
    · cases hreport
  all_goals cases hreport

/-- **What the guardian keeps.** -/
theorem Sound.happen {s : Starting} (h : s.Sound) (what : Happening) : (s.happen what).Sound := by
  rcases hguardian : s.guardian with _ | g
  · rw [Starting.happen, hguardian]
    exact h
  · have htrusts := h.guardian g hguardian
    let g' := g.happen (s.offer g what)
    have hs' : s.happen what = { s with
        guardian := some g'
        dir := s.dir && g'.attemptDir
        reported := (report g what).or s.reported } := by
      rw [Starting.happen, hguardian]
    have hunread : g'.Unread := htrusts.unread.happen _
    rw [hs']
    constructor
    · rintro _ ⟨rfl⟩
      refine ⟨htrusts.sound.happen _, hunread, ?_, ?_, ?_⟩
      · intro hwritten
        exact htrusts.specRead_offer hwritten what
      · intro hreported
        refine Guardian.specRead_happen ?_ _
        rw [Option.isSome_or, Bool.or_eq_true] at hreported
        exact hreported.elim htrusts.specRead_report htrusts.reported
      · intro hgone
        show (s.dir && g'.attemptDir) = false
        rw [hgone, Bool.and_false]
    · intro _
      exact ⟨g', rfl⟩
    · refine h.point.mono ?_ rfl ?_ ?_ ?_
      · intro hnone
        cases hguardian.symm.trans hnone
      · intro hgone
        show (s.dir && g'.attemptDir) = false
        rw [hgone, Bool.false_and]
      · intro hwritten hthere
        -- the guardian cannot have read the spec, so it left the directory alone
        have hdir := (hunread (htrusts.specRead_offer hwritten what)).1
        show (s.dir && g'.attemptDir) = true
        rw [hthere, hdir, Bool.and_self]
      · intro hreported
        show ((report g what).or s.reported).isSome = true
        rw [Option.isSome_or, hreported, Bool.or_true]

theorem Sound.step {s : Starting} (h : s.Sound) (limit : ℕ) (socket : UnixPath)
    (event : StartEvent) : (s.step limit socket event).Sound := by
  rcases event with answer | what
  · exact h.next limit socket answer
  · exact h.happen what

theorem sound_run (limit : ℕ) (socket : UnixPath) (events : List StartEvent) :
    (run (step limit socket) initial events).Sound :=
  invariant_run (step limit socket) (fun _ event h ↦ h.step limit socket event) sound_initial
    events

/-! ## The directory of a failed start -/

/-- The start has returned an error of one of the five steps. -/
def leaked (s : Starting) : Prop :=
  ∃ failed, s.point = .returned (.error failed) ∧ failed.leaves = true

/-- The guardian, if there is one, has ended. -/
def alone (s : Starting) : Prop := ∀ g, s.guardian = some g → g.ended

/-- A guardian that has ended has removed the directory of the spec it read. -/
theorem Trusts.dir_of_ended {s : Starting} {g : Guardian} (h : s.Trusts g) (hended : g.ended)
    (hread : g.specRead = true) : s.dir = false := by
  obtain ⟨ok, hclosed⟩ := hended
  refine h.dir (h.sound.attemptDir ?_ hread)
  rw [hclosed]
  rfl

theorem Sound.dir_iff {s : Starting} (h : s.Sound) {failed : FailedStep}
    (hfailed : s.point = .returned (.error failed)) (halone : s.alone) :
    s.dir = false ↔ ¬ s.leaked := by
  have hat := h.point
  rw [hfailed, At] at hat
  have hleaked : s.leaked ↔ failed.leaves = true := by
    constructor
    · rintro ⟨failed', hpoint, hleaves⟩
      cases hfailed.symm.trans hpoint
      exact hleaves
    · intro hleaves
      exact ⟨failed, hfailed, hleaves⟩
  rw [hleaked]
  split at hat
  · rename_i hleaves
    simp [hat.1, hleaves]
  · rename_i hleaves
    refine iff_of_true ?_ hleaves
    rcases hat with hgone | hreported
    · exact hgone
    · obtain ⟨g, hg⟩ := h.spawned hreported
      have htrusts := h.guardian g hg
      exact htrusts.dir_of_ended (halone g hg) (htrusts.reported hreported)

/-- The step is one of the five and fails. -/
def Leaks (limit : ℕ) (socket : UnixPath) (s : Starting) : StartEvent → Prop
  | .daemon answer =>
    s.point ∈ [.setPermissions, .socketPair, .cloneLock, .setTimeout] ∧ answer.succeeds = false ∨
      s.point = .checkSocketLength ∧ Process.checkSocketLength limit socket = false
  | .guardian _ => False

instance (limit : ℕ) (socket : UnixPath) (s : Starting) (event : StartEvent) :
    Decidable (s.Leaks limit socket event) :=
  match event with
  | .daemon _ => inferInstanceAs (Decidable (_ ∨ _))
  | .guardian _ => isFalse id

theorem point_happen (s : Starting) (what : Happening) : (s.happen what).point = s.point := by
  rw [happen]
  split <;> rfl

theorem point_step_of_returned {s : Starting} {result : Except FailedStep Unit}
    (h : s.point = .returned result) (limit : ℕ) (socket : UnixPath) (event : StartEvent) :
    (s.step limit socket event).point = .returned result := by
  rcases event with answer | what
  · rw [step, next, h]
    exact h
  · rw [step, point_happen, h]

theorem leaked_run {s : Starting} (h : s.leaked) (limit : ℕ) (socket : UnixPath)
    (events : List StartEvent) : (run (step limit socket) s events).leaked := by
  refine invariant_run (step limit socket) (I := leaked) ?_ h events
  rintro s event ⟨failed, hpoint, hleaves⟩
  exact ⟨failed, point_step_of_returned hpoint limit socket event, hleaves⟩

/-- A start returns one of the five errors by the step that fails. -/
theorem leaked_step_iff {s : Starting} (hsound : s.Sound) (h : ¬ s.leaked) (limit : ℕ)
    (socket : UnixPath) (event : StartEvent) :
    (s.step limit socket event).leaked ↔ s.Leaks limit socket event := by
  have hat := hsound.point
  rcases event with answer | what
  · rcases hpoint : s.point with _ | _ | _ | _ | _ | _ | _ | _ | _ | failed | failed | _ | result
    all_goals rw [hpoint] at hat
    all_goals simp only [step, next, Leaks, leaked, hpoint, orReturn, goTo]
    case setPermissions | socketPair | cloneLock | setTimeout =>
      rcases hsucceeds : answer.succeeds with _ | _ <;> simp [FailedStep.leaves]
    case checkSocketLength =>
      rcases hlength : Process.checkSocketLength limit socket with _ | _ <;>
        simp [FailedStep.leaves]
    case createDir | spawn | writeSpec | clearTimeout =>
      split <;> simp [FailedStep.leaves]
    case readReport =>
      split
      · split
        · simp [hpoint]
        · simp
        · split <;> simp
      · simp
    case waitChild => simp
    case removeDir =>
      have hkeeps : failed.leaves = false := hat
      simp [hkeeps]
    case returned => simpa [leaked, hpoint] using h
  · refine iff_of_false ?_ id
    rintro ⟨failed, hpoint, hleaves⟩
    rw [step, point_happen] at hpoint
    exact h ⟨failed, hpoint, hleaves⟩

/-- The run took one of the five ways out exactly if it ends there. -/
theorem leaked_run_iff {s : Starting} (hsound : s.Sound) (h : ¬ s.leaked) (limit : ℕ)
    (socket : UnixPath) (events : List StartEvent) :
    ¬ (run (step limit socket) s events).leaked ↔
      Along (step limit socket) (fun s event ↦ ¬ s.Leaks limit socket event) s events := by
  induction events generalizing s with
  | nil => exact iff_of_true h trivial
  | cons event events ih =>
    have hstep := leaked_step_iff hsound h limit socket event
    rw [run_cons, along_cons]
    -- a start that has returned one of the five stays there
    by_cases hleaks : s.Leaks limit socket event
    · have hleaked := leaked_run (hstep.mpr hleaks) limit socket events
      exact iff_of_false (not_not_intro hleaked) fun hnot ↦ hnot.1 hleaks
    · rw [ih (hsound.step limit socket event) (mt hstep.mp hleaks)]
      exact (and_iff_right hleaks).symm

/-- **When a failed start leaves no directory behind.** For every runtime directory, in every run
of a start and its guardian: once the start has returned an error and the guardian has ended, the
attempt directory is gone if and only if none of the five steps behind its creation and before the
hand-over failed. -/
theorem directory_gone_iff (limit : ℕ) (runtime : UnixPath) (attemptId : BitVec 128)
    (events : List StartEvent) (failed : FailedStep) :
    let socket := controlSocket runtime attemptId
    let s := run (step limit socket) initial events
    s.point = .returned (.error failed) → s.alone →
    (s.dir = false ↔
      Along (step limit socket) (fun s event ↦ ¬ s.Leaks limit socket event) initial events) := by
  intro socket s hfailed halone
  rw [(sound_run limit socket events).dir_iff hfailed halone]
  refine leaked_run_iff sound_initial ?_ limit socket events
  rintro ⟨failed, hpoint, -⟩
  cases hpoint

/-- The forwarding is rejected, and the guardian removes the directory before it returns. -/
def exampleRejected : List StartEvent :=
  List.replicate 8 (.daemon {}) ++
    [.guardian (.step {}), .guardian (.step { succeeds := false }), .guardian (.step {}),
      .daemon {}, .daemon {}, .guardian (.step {}), .guardian (.step {}), .daemon {}]

theorem directory_gone_exampleRejected :
    (run (step linuxSocketLimit (controlSocket (.ofText "/run/user/1000".toList) 0)) initial
      exampleRejected).dir = false ↔
    Along (step linuxSocketLimit (controlSocket (.ofText "/run/user/1000".toList) 0))
      (fun s event ↦
        ¬ s.Leaks linuxSocketLimit (controlSocket (.ofText "/run/user/1000".toList) 0) event)
      initial exampleRejected := by
  refine directory_gone_iff linuxSocketLimit _ 0 exampleRejected .rejected (by decide) ?_
  rintro g ⟨rfl⟩
  exact ⟨false, rfl⟩

/-- A runtime directory whose attempts have a control socket of 109 bytes. -/
def exampleRuntime : UnixPath :=
  .ofText "/home/user/.local/share/state/tunneldeck/runtime/01".toList

/-- The directory is left behind by the check of the socket length. -/
theorem directory_left_exampleRuntime :
    let s := run (step linuxSocketLimit (controlSocket exampleRuntime 0)) initial
      [.daemon {}, .daemon {}, .daemon {}]
    s.point = .returned (.error .socketLength) ∧ s.guardian = none ∧ s.dir = true := by
  decide

end Starting

end TunnelDeck.Process
