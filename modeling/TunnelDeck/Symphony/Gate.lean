import Mathlib.Logic.Function.Basic
import TunnelDeck.Concurrency.Accounts
import TunnelDeck.Concurrency.Run
import TunnelDeck.Symphony.Admission

/-!
# The gate of the hooks

Symphony calls `gate.py` before and after each turn. The gate keeps three kinds of files: a permit
for an issue whose first hook has succeeded, a stop for an issue that is not to be worked on again,
and one halt, at which the worker ends. It lets a hook run only after it has looked at all of them
and has asked GitHub.

Calls of the gate and of the worker are numbered, whatever process makes them, and one step is one
access to a file, one question or one run of a hook. Each may fail, and a process may be killed
between any two.

## Main results

* `published_le_granted`: a permit is good for one publication.
* `latch_law`: a stop keeps an issue from its hooks, and a halt keeps all issues from theirs and the
  worker from its work.
* `redispatch_halts`: whoever dispatches a stopped issue finds everything halted.
* `published_once`: where the hooks of an issue are called one after the other, it is published
  once.
-/

namespace TunnelDeck.Symphony

open Concurrency

/-! ## Model -/

/-- When a hook runs. The one after the turn publishes. -/
inductive Mode where
  | before
  | after
  deriving DecidableEq

/-- The directory of the gate. -/
structure GateFiles where
  permit : ℕ → Bool
  stopped : ℕ → Bool
  halt : Bool

/-- What a call of the gate or of the worker does next. -/
inductive GatePoint where
  /-- There is no call, or it is over. -/
  | idle
  /-- `state_root`. -/
  | opening (mode : Mode) (number : ℕ)
  /-- Removes the permit before the turn, and looks for it after. -/
  | permit (mode : Mode) (number : ℕ)
  /-- Removes the permit after the turn. -/
  | consuming (number : ℕ)
  /-- Looks for the stop. -/
  | latched (mode : Mode) (number : ℕ)
  /-- Writes the halt, as the issue is stopped. -/
  | halting (number : ℕ)
  /-- Looks for the halt. -/
  | halted (mode : Mode) (number : ℕ)
  | checking (mode : Mode) (number : ℕ)
  /-- The hook runs. -/
  | hook (mode : Mode) (number : ℕ)
  /-- Writes the permit before the turn, and the stop after. -/
  | finishing (mode : Mode) (number : ℕ)
  /-- `stop`, where the hook after the turn was started or not. -/
  | stopping (begun : Bool) (number : ℕ)
  /-- Removes the label `agent-ready`. -/
  | removing (number : ℕ)
  /-- Writes the halt, as the label could not be removed. -/
  | latching (number : ℕ)
  /-- Adds the label `blocked`. -/
  | blocking (number : ℕ)
  | workerOpening
  /-- The worker looks for the halt before it begins. -/
  | workerChecking
  | spawning
  /-- The worker looks for the halt while its child runs. -/
  | watching
  /-- The worker waits for its child, for a second. -/
  | waiting
  /-- The worker ends its child. -/
  | ending
  deriving DecidableEq

/-- What has been done. -/
inductive GateEntry where
  /-- A permit was removed after the turn. -/
  | consumed (number : ℕ)
  /-- GitHub gave these answers, and the hook was started. -/
  | ran (mode : Mode) (number : ℕ) (answers : Answers)
  /-- A permit was written. -/
  | granted (number : ℕ)
  /-- The worker has started its child. -/
  | spawned

/-- What becomes of a hook that is to be started. -/
inductive HookStart where
  /-- `SYMPHONY_CONTROL_ROOT` is not set, so there is no path to it. -/
  | unset
  /-- An `OSError`: it is missing or not executable. -/
  | failed
  | started
  deriving DecidableEq

inductive GateInput where
  | call (mode : Mode) (number : ℕ)
  | work
  /-- The process of the call is killed. -/
  | kill
  /-- A call into the operating system, and whether a file that it cannot write is there. -/
  | file (ok made : Bool)
  /-- The answers of GitHub, and whether the hook starts then. -/
  | answered (answers : Answers) (start : HookStart)
  /-- The hook has returned. -/
  | returned (ok : Bool)
  | label (ok : Bool)
  /-- The child of the worker has ended, or a second has passed. -/
  | child (ended : Bool)
  /-- An operator removes what keeps an issue from being worked on. -/
  | recover (number : ℕ)
  /-- An operator removes the halt. -/
  | clear

namespace GateFiles

def setPermit (r : GateFiles) (number : ℕ) (b : Bool) : GateFiles :=
  { r with permit := Function.update r.permit number b }

def setStopped (r : GateFiles) (number : ℕ) (b : Bool) : GateFiles :=
  { r with stopped := Function.update r.stopped number b }

/-- A file is written in order, or is there all the same. -/
def writeStopped (r : GateFiles) (number : ℕ) (ok made : Bool) : GateFiles :=
  r.setStopped number (r.stopped number || ok || made)

def writeHalt (r : GateFiles) (ok made : Bool) : GateFiles :=
  { r with halt := r.halt || ok || made }

variable {r : GateFiles} {m n : ℕ} {b ok made : Bool}

@[simp] theorem permit_setPermit :
    (r.setPermit m b).permit n = if n = m then b else r.permit n := Function.update_apply ..

@[simp] theorem stopped_setPermit : (r.setPermit m b).stopped = r.stopped := rfl

@[simp] theorem halt_setPermit : (r.setPermit m b).halt = r.halt := rfl

@[simp] theorem permit_writeStopped : (r.writeStopped m ok made).permit = r.permit := rfl

@[simp] theorem stopped_writeStopped : (r.writeStopped m ok made).stopped n =
    if n = m then r.stopped m || ok || made else r.stopped n := Function.update_apply ..

@[simp] theorem halt_writeStopped : (r.writeStopped m ok made).halt = r.halt := rfl

@[simp] theorem permit_writeHalt : (r.writeHalt ok made).permit = r.permit := rfl

@[simp] theorem stopped_writeHalt : (r.writeHalt ok made).stopped = r.stopped := rfl

@[simp] theorem halt_writeHalt : (r.writeHalt ok made).halt = (r.halt || ok || made) := rfl

end GateFiles

/-- One step of a call: the files, where the call is then, and what it has done. -/
def GatePoint.exec (r : GateFiles) (p : GatePoint) (input : GateInput) :
    GateFiles × GatePoint × Option GateEntry :=
  match p, input with
  | _, .kill => (r, .idle, none)
  | .idle, .call mode n => (r, .opening mode n, none)
  | .idle, .work => (r, .workerOpening, none)
  | .opening mode n, .file ok _ => (r, if ok then .permit mode n else .idle, none)
  | .permit .before n, .file ok _ =>
    if ok then (r.setPermit n false, .latched .before n, none) else (r, .idle, none)
  | .permit .after n, .file ok _ => (r, if ok && r.permit n then .consuming n else .idle, none)
  | .consuming n, .file ok _ =>
    -- the permit may be gone by now
    if ok && r.permit n then (r.setPermit n false, .latched .after n, some (.consumed n))
    else (r, .idle, none)
  | .latched mode n, .file ok _ =>
    (r, if ok then (if r.stopped n then .halting n else .halted mode n) else .idle, none)
  | .halting _, .file ok made => (r.writeHalt ok made, .idle, none)
  | .halted mode n, .file ok _ => (r, if ok && !r.halt then .checking mode n else .idle, none)
  | .checking mode n, .answered answers start =>
    match check n answers, start with
    | .ok (), .started => (r, .hook mode n, some (.ran mode n answers))
    | .ok (), .unset => (r, .idle, none)
    | .ok (), .failed | .error _, _ => (r, .stopping false n, none)
  | .hook mode n, .returned ok =>
    (r, if ok then .finishing mode n else .stopping (mode = .after) n, none)
  | .finishing .before n, .file ok made =>
    if ok || made then (r.setPermit n true, .idle, some (.granted n)) else (r, .idle, none)
  | .finishing .after n, .file ok made => (r.writeStopped n ok made, .idle, none)
  | .stopping _ n, .file ok made =>
    (r.writeStopped n ok made, if ok then .removing n else .idle, none)
  | .removing n, .label ok => (r, if ok then .blocking n else .latching n, none)
  | .latching _, .file ok made => (r.writeHalt ok made, .idle, none)
  | .blocking _, .label _ => (r, .idle, none)
  | .workerOpening, .file ok _ => (r, if ok then .workerChecking else .idle, none)
  | .workerChecking, .file ok _ => (r, if ok && !r.halt then .spawning else .idle, none)
  | .spawning, .file ok _ => if ok then (r, .watching, some .spawned) else (r, .idle, none)
  | .watching, .file ok _ => (r, if ok && !r.halt then .waiting else .ending, none)
  | .waiting, .child ended => (r, if ended then .ending else .watching, none)
  | .ending, .file _ _ => (r, .idle, none)
  | p, _ => (r, p, none)

/-- The files, the calls and what they have done. -/
structure Gates where
  files : GateFiles
  point : ℕ → GatePoint
  log : List (ℕ × GateEntry)

namespace Gates

/-- A step of the call `a.1`, or of an operator. -/
def step (w : Gates) (a : ℕ × GateInput) : Gates :=
  match a.2 with
  | .recover n => { w with files := (w.files.setStopped n false).setPermit n false }
  | .clear => { w with files := { w.files with halt := false } }
  | input =>
    let (files, point, entry) := (w.point a.1).exec w.files input
    ⟨files, Function.update w.point a.1 point, w.log ++ (entry.map (a.1, ·)).toList⟩

def init (files : GateFiles) : Gates := ⟨files, fun _ ↦ .idle, []⟩

end Gates

/-! ## What one step does -/

def GateEntry.isRun (mode : Mode) (number : ℕ) : GateEntry → Bool
  | .ran m n _ => m = mode && n = number
  | _ => false

def GateEntry.isConsumed (number : ℕ) : GateEntry → Bool
  | .consumed n => n = number
  | _ => false

def GateEntry.isGranted (number : ℕ) : GateEntry → Bool
  | .granted n => n = number
  | _ => false

/-- Work is started that a halt is to prevent. -/
def GateEntry.isStart : GateEntry → Bool
  | .ran _ _ _ | .spawned => true
  | _ => false

namespace GatePoint

def number : GatePoint → Option ℕ
  | .opening _ n | .permit _ n | .consuming n | .latched _ n | .halting n | .halted _ n
  | .checking _ n | .hook _ n | .finishing _ n | .stopping _ n | .removing n | .latching n
  | .blocking n => some n
  | _ => none

/-- The call has removed a permit and has not published yet. -/
def holds (number : ℕ) : GatePoint → Bool
  | .latched mode n | .halted mode n | .checking mode n => mode = .after && n = number
  | _ => false

/-- The first hook of the issue runs, or has succeeded without the permit being written. -/
def earns (number : ℕ) : GatePoint → Bool
  | .hook mode n | .finishing mode n => mode = .before && n = number
  | _ => false

/-- The call has looked for the stop and has not started a hook yet. -/
def passed (number : ℕ) : GatePoint → Bool
  | .halted _ n | .checking _ n => n = number
  | _ => false

/-- The call has looked for the halt and has not started anything yet. -/
def ready : GatePoint → Bool
  | .checking _ _ | .spawning => true
  | _ => false

/-- The hook after the turn was started for the issue, and the stop that follows is not written. -/
def publishes (number : ℕ) : GatePoint → Bool
  | .hook mode n | .finishing mode n => mode = .after && n = number
  | .stopping begun n => begun && n = number
  | _ => false

/-- A call before the turn that is about to find the stop of the issue. -/
def finds (number : ℕ) : GatePoint → Bool
  | .opening mode n | .permit mode n | .latched mode n => mode = .before && n = number
  | .halting n => n = number
  | _ => false

/-- What a step of a call does to the permits of the issue `n`. -/
structure Permits (n : ℕ) (r : GateFiles) (p : GatePoint) (r' : GateFiles) (p' : GatePoint)
    (entry : Option GateEntry) : Prop where
  /-- A publication is started by a call that holds a permit, and gives it up. -/
  holds : (entry.any (GateEntry.isRun .after n)).toNat + (p'.holds n).toNat ≤
    (p.holds n).toNat + (entry.any (GateEntry.isConsumed n)).toNat
  /-- A permit is written by a call whose first hook has succeeded, and only once. -/
  earns : (entry.any (GateEntry.isGranted n)).toNat + (p'.earns n).toNat ≤
    (p.earns n).toNat + (entry.any (GateEntry.isRun .before n)).toNat
  /-- A permit that is removed was there, and one that is there was written. -/
  permit : (entry.any (GateEntry.isConsumed n)).toNat + (r'.permit n).toNat ≤
    (r.permit n).toNat + (entry.any (GateEntry.isGranted n)).toNat
  /-- A hook is started after a question that was answered well. -/
  ran : ∀ mode answers, entry = some (.ran mode n answers) → Eligible n answers

theorem exec_permits (n : ℕ) (r : GateFiles) (p : GatePoint) (input : GateInput) :
    p.Permits n r (p.exec r input).1 (p.exec r input).2.1 (p.exec r input).2.2 where
  holds := by
    fun_cases exec r p input
    all_goals try split_ifs
    all_goals simp [GatePoint.holds, GateEntry.isRun, GateEntry.isConsumed]
  earns := by
    fun_cases exec r p input
    all_goals try split_ifs
    all_goals simp [GatePoint.earns, GateEntry.isRun, GateEntry.isGranted]
  permit := by
    fun_cases exec r p input
    all_goals try split_ifs
    all_goals simp only [GateEntry.isConsumed, GateEntry.isGranted, Option.any_some,
      Option.any_none, GateFiles.permit_setPermit, GateFiles.permit_writeStopped,
      GateFiles.permit_writeHalt]
    all_goals grind
  ran := by
    fun_cases exec r p input
    case case13 mode number answers hcheck =>
      intro _ _ hran
      cases hran
      exact check_eq_ok_iff.mp hcheck
    all_goals try split_ifs
    all_goals simp

/-- What a step of a call does to the stop of the issue `n`, and to the halt. -/
structure Latches (n : ℕ) (r : GateFiles) (p : GatePoint) (input : GateInput) (r' : GateFiles)
    (p' : GatePoint) (entry : Option GateEntry) : Prop where
  /-- No call removes a stop. -/
  stopped : r.stopped n → r'.stopped n
  /-- A call that finds the stop does not get past it. -/
  passed : r.stopped n → p.passed n = false →
    p'.passed n = false ∧ ∀ mode, entry.any (GateEntry.isRun mode n) = false
  /-- No call removes the halt. -/
  halt : r.halt → r'.halt
  /-- A call that finds the halt starts nothing. -/
  ready : r.halt → p.ready = false → p'.ready = false ∧ entry.any GateEntry.isStart = false
  /-- A call that goes in order finds the stop and writes the halt. -/
  finds : r.stopped n → p.finds n → input ≠ .kill → (∀ made, input ≠ .file false made) →
    r'.halt ∨ p'.finds n

theorem exec_latches (n : ℕ) (r : GateFiles) (p : GatePoint) (input : GateInput) :
    p.Latches n r input (p.exec r input).1 (p.exec r input).2.1 (p.exec r input).2.2 where
  stopped := by
    intro h
    fun_cases exec r p input
    all_goals try split_ifs
    all_goals simp only [GateFiles.stopped_setPermit, GateFiles.stopped_writeStopped,
      GateFiles.stopped_writeHalt]
    all_goals grind
  passed := by
    intro h hpassed
    fun_cases exec r p input
    -- a call that waits for something else
    case case32 => exact ⟨hpassed, fun _ ↦ rfl⟩
    all_goals try split_ifs
    all_goals simp_all [GatePoint.passed, GateEntry.isRun]
    rintro rfl
    simp_all
  halt := by
    intro h
    fun_cases exec r p input
    all_goals try split_ifs
    all_goals simp [h]
  ready := by
    intro h hready
    fun_cases exec r p input
    case case32 => exact ⟨hready, rfl⟩
    all_goals try split_ifs
    all_goals simp_all [GatePoint.ready, GateEntry.isStart]
  finds := by
    intro h hfinds hkill hfile
    fun_cases exec r p input
    case case32 => exact Or.inr hfinds
    all_goals try split_ifs
    all_goals simp_all [GatePoint.finds]

/-- How a step of a call takes the issue `n` to its publication, and to the stop after it. -/
structure Publishing (n : ℕ) (r : GateFiles) (p : GatePoint) (input : GateInput) (r' : GateFiles)
    (p' : GatePoint) (entry : Option GateEntry) : Prop where
  /-- A call begins to be about an issue when it is made. -/
  number : p'.number = some n → p.number = some n ∨ ∃ mode, input = .call mode n
  /-- A call that gets past the stop has found none. -/
  passes : p'.passed n →
    p.passed n ∨ p.number = some n ∧ p.publishes n = false ∧ r.stopped n = false
  /-- The hook after the turn is started by a call that is past the stop. -/
  publishes : entry.any (GateEntry.isRun .after n) → p.passed n ∧ p'.publishes n
  /-- A publication that goes in order ends with a stop. -/
  settles : p.publishes n → input ≠ .kill → (∀ made, input ≠ .file false made) →
    r'.stopped n ∨ p'.publishes n

theorem exec_publishing (n : ℕ) (r : GateFiles) (p : GatePoint) (input : GateInput) :
    p.Publishing n r input (p.exec r input).1 (p.exec r input).2.1 (p.exec r input).2.2 where
  number := by
    fun_cases exec r p input
    case case32 => exact Or.inl
    all_goals try split_ifs
    all_goals simp [GatePoint.number]
  passes := by
    fun_cases exec r p input
    case case32 => exact Or.inl
    all_goals try split_ifs
    all_goals simp_all [GatePoint.passed, GatePoint.number, GatePoint.publishes]
    rintro rfl
    assumption
  publishes := by
    fun_cases exec r p input
    case case32 => simp
    all_goals try split_ifs
    all_goals simp_all [GatePoint.passed, GatePoint.publishes, GateEntry.isRun]
  settles := by
    intro h hkill hfile
    fun_cases exec r p input
    case case32 => exact Or.inr h
    all_goals try split_ifs
    all_goals simp_all [GatePoint.publishes]

variable {p : GatePoint} {n : ℕ}

theorem number_of_passed (h : p.passed n) : p.number = some n := by
  cases p <;> simp_all [passed, number]

theorem passed_of_publishes (h : p.publishes n) : p.passed n = false := by
  cases p <;> simp_all [publishes, passed]

theorem number_of_publishes (h : p.publishes n) : p.number = some n := by
  cases p <;> simp_all [publishes, number]

end GatePoint

namespace Gates

variable {w : Gates} {n t : ℕ}

def isOperator : GateInput → Bool
  | .recover _ | .clear => true
  | _ => false

theorem step_of_call {input : GateInput} (h : isOperator input = false) :
    w.step (t, input) =
      ⟨((w.point t).exec w.files input).1,
        Function.update w.point t ((w.point t).exec w.files input).2.1,
        w.log ++ (((w.point t).exec w.files input).2.2.map (t, ·)).toList⟩ := by
  cases input with
  | recover m => cases h
  | clear => cases h
  | _ => rfl

theorem files_step {input : GateInput} (h : isOperator input = false) :
    (w.step (t, input)).files = ((w.point t).exec w.files input).1 := by
  rw [step_of_call h]

theorem point_step_self {input : GateInput} (h : isOperator input = false) :
    (w.step (t, input)).point t = ((w.point t).exec w.files input).2.1 := by
  rw [step_of_call h]
  exact Function.update_self ..

theorem point_step_of_ne {input : GateInput} (h : isOperator input = false) {u : ℕ} (hu : u ≠ t) :
    (w.step (t, input)).point u = w.point u := by
  rw [step_of_call h]
  exact Function.update_of_ne hu ..

theorem step_of_operator {input : GateInput} (h : isOperator input = true) :
    (w.step (t, input)).point = w.point ∧ (w.step (t, input)).log = w.log := by
  cases input with
  | recover m => exact ⟨rfl, rfl⟩
  | clear => exact ⟨rfl, rfl⟩
  | _ => cases h

/-! ## Permits -/

/-- What a call spends it has gained, but for what it still holds. -/
theorem own_step {spend gain : GateEntry → Bool} (held : GatePoint → Bool)
    (hexec : ∀ r (p : GatePoint) input, ((p.exec r input).2.2.any spend).toNat +
      (held (p.exec r input).2.1).toNat ≤
        (held p).toNat + ((p.exec r input).2.2.any gain).toNat)
    (h : ∀ t, ownCount w.log t spend + (held (w.point t)).toNat ≤ ownCount w.log t gain)
    (a : ℕ × GateInput) : ∀ t, ownCount (w.step a).log t spend +
      (held ((w.step a).point t)).toNat ≤ ownCount (w.step a).log t gain := by
  obtain ⟨u, input⟩ := a
  intro t
  cases hinput : isOperator input with
  | true =>
    rw [(step_of_operator hinput).1, (step_of_operator hinput).2]
    exact h t
  | false =>
    rw [step_of_call hinput]
    simp only [ownCount_append]
    by_cases hu : u = t
    · subst hu
      have hturn := hexec w.files (w.point u) input
      have hbefore := h u
      simp only [decide_true, Bool.true_and, Function.update_self]
      omega
    · simp only [hu, decide_false, Bool.false_and, Bool.toNat_false, Nat.add_zero]
      rw [Function.update_of_ne (Ne.symm hu)]
      exact h t

/-- What the calls have done with the permits of an issue. -/
structure Balanced (n : ℕ) (files : GateFiles) (w : Gates) : Prop where
  published : ∀ t, ownCount w.log t (GateEntry.isRun .after n) + ((w.point t).holds n).toNat ≤
    ownCount w.log t (GateEntry.isConsumed n)
  granted : ∀ t, ownCount w.log t (GateEntry.isGranted n) + ((w.point t).earns n).toNat ≤
    ownCount w.log t (GateEntry.isRun .before n)
  permits : totalCount w.log (GateEntry.isConsumed n) + (w.files.permit n).toNat ≤
    (files.permit n).toNat + totalCount w.log (GateEntry.isGranted n)

theorem balanced_init (files : GateFiles) : (init files).Balanced n files where
  published _ := Nat.le_refl 0
  granted _ := Nat.le_refl 0
  permits := by
    show 0 + (files.permit n).toNat ≤ (files.permit n).toNat + 0
    omega

theorem Balanced.step {files : GateFiles} (h : w.Balanced n files) (a : ℕ × GateInput) :
    (w.step a).Balanced n files where
  published :=
    own_step (GatePoint.holds n) (fun r p input ↦ (p.exec_permits n r input).holds) h.published a
  granted :=
    own_step (GatePoint.earns n) (fun r p input ↦ (p.exec_permits n r input).earns) h.granted a
  permits := by
    have hbefore := h.permits
    obtain ⟨t, input⟩ := a
    cases hinput : isOperator input with
    | false =>
      have hturn := ((w.point t).exec_permits n w.files input).permit
      rw [step_of_call hinput]
      simp only [totalCount_append]
      omega
    | true =>
      -- an operator at most removes a permit
      have hless : ((w.step (t, input)).files.permit n).toNat ≤ (w.files.permit n).toNat := by
        cases input with
        | recover m =>
          show ((GateFiles.setPermit _ m false).permit n).toNat ≤ _
          rw [GateFiles.permit_setPermit]
          split
          · exact Nat.zero_le _
          · exact Nat.le_refl _
        | clear => exact Nat.le_refl _
        | _ => cases hinput
      rw [(step_of_operator hinput).2]
      omega

/-- **A permit is good for one publication.** However calls of the gate for any issues interleave,
fail, are killed and are recovered from by an operator: an issue has been published at most as often
as permits for it have been written, counting one that was there at the beginning, and a permit has
been written at most as often as the first hook of the issue has been started. -/
theorem published_le_granted (files : GateFiles) (steps : List (ℕ × GateInput)) (n : ℕ) :
    totalCount (run step (init files) steps).log (GateEntry.isRun .after n) ≤
        totalCount (run step (init files) steps).log (GateEntry.isGranted n) +
          (files.permit n).toNat ∧
      totalCount (run step (init files) steps).log (GateEntry.isGranted n) ≤
        totalCount (run step (init files) steps).log (GateEntry.isRun .before n) := by
  have h : (run step (init files) steps).Balanced n files :=
    invariant_run step (fun _ a h ↦ h.step a) (balanced_init files) steps
  constructor
  · have hpublished := totalCount_le_of_ownCount_le fun t ↦
      Nat.le_of_add_right_le (h.published t)
    have hpermits := h.permits
    omega
  · exact totalCount_le_of_ownCount_le fun t ↦ Nat.le_of_add_right_le (h.granted t)

/-! ## Admission -/

/-- **A hook runs for an issue that GitHub has just described as eligible.** Whatever else happens,
each hook that has been started was preceded by answers about its own issue that describe it as open
and waiting for the agent, everything it depends on as closed, and its branch as unused. -/
theorem eligible_of_ran (files : GateFiles) (steps : List (ℕ × GateInput)) :
    ∀ e ∈ (run step (init files) steps).log, ∀ mode n answers, e.2 = .ran mode n answers →
      Eligible n answers := by
  refine invariant_run step (I := fun w ↦ ∀ e ∈ w.log, ∀ mode n answers,
    e.2 = .ran mode n answers → Eligible n answers) (fun w a h ↦ ?_) (fun e he ↦ ?_) steps
  · obtain ⟨t, input⟩ := a
    cases hinput : isOperator input with
    | true =>
      rw [(step_of_operator hinput).2]
      exact h
    | false =>
      rw [step_of_call hinput]
      intro e he mode n answers hran
      rcases List.mem_append.mp he with he | he
      · exact h e he mode n answers hran
      · obtain ⟨entry, hentry, rfl⟩ := Option.map_eq_some_iff.mp (Option.mem_toList.mp he)
        refine ((w.point t).exec_permits n w.files input).ran mode answers ?_
        rw [Option.mem_def.mp hentry]
        exact congrArg some hran
  · cases he

/-! ## Stops and halts -/

/-- The entries that a run has added. -/
def Adds (P : GateEntry → Prop) (w w' : Gates) : Prop :=
  ∃ new, w'.log = w.log ++ new ∧ ∀ e ∈ new, P e.2

theorem Adds.refl (P : GateEntry → Prop) (w : Gates) : Adds P w w :=
  ⟨[], (List.append_nil _).symm, fun e he ↦ by cases he⟩

theorem Adds.trans {P : GateEntry → Prop} {w₁ w₂ w₃ : Gates} (h : Adds P w₁ w₂)
    (h' : Adds P w₂ w₃) : Adds P w₁ w₃ := by
  obtain ⟨new, hlog, hnew⟩ := h
  obtain ⟨new', hlog', hnew'⟩ := h'
  refine ⟨new ++ new', by rw [hlog', hlog, List.append_assoc], fun e he ↦ ?_⟩
  rcases List.mem_append.mp he with he | he
  · exact hnew e he
  · exact hnew' e he

/-- What the files say keeps every call from getting somewhere. -/
structure Barred (G : GateFiles → Prop) (B : GatePoint → Bool) (w : Gates) : Prop where
  files : G w.files
  points : ∀ t, B (w.point t) = false

variable {G : GateFiles → Prop} {B : GatePoint → Bool} {P : GateEntry → Prop}

theorem barred_step (h : w.Barred G B)
    (hexec : ∀ r (p : GatePoint) input, G r → B p = false → G (p.exec r input).1 ∧
      B (p.exec r input).2.1 = false ∧ ∀ e ∈ (p.exec r input).2.2, P e)
    {a : ℕ × GateInput} (ha : isOperator a.2 = true → G (w.step a).files) :
    (w.step a).Barred G B ∧ Adds P w (w.step a) := by
  obtain ⟨t, input⟩ := a
  cases hinput : isOperator input with
  | true =>
    obtain ⟨hpoint, hlog⟩ := step_of_operator (w := w) (t := t) hinput
    constructor
    · refine ⟨ha hinput, fun u ↦ ?_⟩
      rw [hpoint]
      exact h.points u
    · exact ⟨[], by rw [hlog, List.append_nil], fun e he ↦ by cases he⟩
  | false =>
    obtain ⟨hfiles, hpoint, hentry⟩ := hexec w.files (w.point t) input h.files (h.points t)
    constructor
    · constructor
      · rw [files_step hinput]
        exact hfiles
      · intro u
        by_cases hu : u = t
        · subst hu
          rw [point_step_self hinput]
          exact hpoint
        · rw [point_step_of_ne hinput hu]
          exact h.points u
    · rw [step_of_call hinput]
      refine ⟨_, rfl, fun e he ↦ ?_⟩
      obtain ⟨entry, hmem, rfl⟩ := Option.map_eq_some_iff.mp (Option.mem_toList.mp he)
      exact hentry entry hmem

theorem barred_run (h : w.Barred G B)
    (hexec : ∀ r (p : GatePoint) input, G r → B p = false → G (p.exec r input).1 ∧
      B (p.exec r input).2.1 = false ∧ ∀ e ∈ (p.exec r input).2.2, P e)
    {C : GateInput → Prop}
    (hoperator : ∀ w : Gates, ∀ a : ℕ × GateInput, G w.files → C a.2 → isOperator a.2 = true →
      G (w.step a).files)
    (steps : List (ℕ × GateInput)) (hsteps : ∀ a ∈ steps, C a.2) :
    (run step w steps).Barred G B ∧ Adds P w (run step w steps) := by
  induction steps generalizing w with
  | nil => exact ⟨h, .refl P w⟩
  | cons a steps ih =>
    obtain ⟨ha, hrest⟩ := List.forall_mem_cons.mp hsteps
    obtain ⟨hnext, hadds⟩ := barred_step h hexec fun hinput ↦ hoperator w a h.files ha hinput
    obtain ⟨hlast, hadds'⟩ := ih hnext hrest
    exact ⟨hlast, hadds.trans hadds'⟩

/-- The issue is stopped, and no call for it is between its look at the stop and a hook. -/
abbrev Stopped (n : ℕ) : Gates → Prop := Barred (·.stopped n = true) (GatePoint.passed n)

/-- Everything is halted, and nothing is between its look at the halt and its start. -/
abbrev Halted : Gates → Prop := Barred (·.halt = true) GatePoint.ready

/-- **Stops and halts hold.** From any state, however the calls interleave, fail and are killed:
unless an operator removes the stop of an issue, none of its hooks is started once the stop is
there and no call is between its look at the stop and the hook; and unless an operator removes the
halt, neither any hook nor the child of a worker is started once the halt is there and no call is
between its look at the halt and the start. -/
theorem latch_law (w : Gates) (steps : List (ℕ × GateInput)) :
    (∀ n, w.Stopped n → (∀ a ∈ steps, a.2 ≠ .recover n) →
      (run step w steps).Stopped n ∧
        Adds (fun e ↦ ∀ mode, e.isRun mode n = false) w (run step w steps)) ∧
    (w.Halted → (∀ a ∈ steps, a.2 ≠ .clear) →
      (run step w steps).Halted ∧ Adds (fun e ↦ e.isStart = false) w (run step w steps)) := by
  constructor
  · intro n h hsteps
    refine barred_run (C := (· ≠ .recover n)) h (fun r p input hstopped hpassed ↦ ?_)
      (fun w a hstopped ha hinput ↦ ?_) steps hsteps
    · have hturn := p.exec_latches n r input
      obtain ⟨hnext, hnone⟩ := hturn.passed hstopped hpassed
      refine ⟨hturn.stopped hstopped, hnext, fun e he mode ↦ ?_⟩
      have hmode := hnone mode
      rw [Option.mem_def.mp he, Option.any_some] at hmode
      exact hmode
    · obtain ⟨t, input⟩ := a
      cases input with
      | recover m =>
        have hne : n ≠ m := fun hnm ↦ ha (by rw [hnm])
        show Function.update w.files.stopped m false n = true
        rw [Function.update_of_ne hne]
        exact hstopped
      | clear => exact hstopped
      | _ => cases hinput
  · intro h hsteps
    refine barred_run (C := (· ≠ .clear)) h (fun r p input hhalt hready ↦ ?_)
      (fun w a hhalt ha hinput ↦ ?_) steps hsteps
    · have hturn := p.exec_latches 0 r input
      obtain ⟨hpoint, hnone⟩ := hturn.ready hhalt hready
      refine ⟨hturn.halt hhalt, hpoint, fun e he ↦ ?_⟩
      rw [Option.mem_def.mp he, Option.any_some] at hnone
      exact hnone
    · obtain ⟨t, input⟩ := a
      cases input with
      | recover m => exact hhalt
      | clear => exact absurd rfl ha
      | _ => cases hinput

/-! ## A stopped issue that is dispatched -/

/-- **Who dispatches a stopped issue finds everything halted.** When the gate is called before a
turn for an issue that is stopped, then once that call is over the halt is there, whatever the other
calls do meanwhile, unless its process is killed, one of its own accesses to a file fails or an
operator intervenes. -/
theorem redispatch_halts {w : Gates} (hidle : w.point t = .idle) (hstopped : w.files.stopped n)
    {steps : List (ℕ × GateInput)}
    (hoperator : ∀ a ∈ steps, isOperator a.2 = false)
    (hown : ∀ a ∈ steps, a.1 = t → a.2 ≠ .kill ∧ ∀ made, a.2 ≠ .file false made)
    (hover : (run step w ((t, .call .before n) :: steps)).point t = .idle) :
    (run step w ((t, .call .before n) :: steps)).files.halt := by
  have hinv : ∀ w' : Gates, w'.files.stopped n → (w'.files.halt ∨ (w'.point t).finds n) →
      (run step w' steps).files.halt ∨ ((run step w' steps).point t).finds n := by
    clear hover
    induction steps with
    | nil =>
      intro w' _ h
      exact h
    | cons a steps ih =>
      obtain ⟨hnot, hoperator⟩ := List.forall_mem_cons.mp hoperator
      obtain ⟨ha, hown⟩ := List.forall_mem_cons.mp hown
      intro w' hstop h
      refine ih hoperator hown (w'.step a) ?_ ?_
      · rw [files_step hnot]
        exact (GatePoint.exec_latches n ..).stopped hstop
      · obtain ⟨u, input⟩ := a
        have hturn := (w'.point u).exec_latches n w'.files input
        rw [files_step hnot]
        rcases h with hhalt | hfinds
        · exact .inl (hturn.halt hhalt)
        by_cases hu : u = t
        · subst hu
          obtain ⟨hkill, hfile⟩ := ha rfl
          rw [point_step_self hnot]
          exact hturn.finds hstop hfinds hkill hfile
        · refine .inr ?_
          rw [point_step_of_ne hnot (Ne.symm hu)]
          exact hfinds
  rw [run_cons] at hover ⊢
  refine (hinv (w.step (t, .call .before n)) ?_ ?_).resolve_right fun hfinds ↦ ?_
  · rw [files_step rfl]
    exact (GatePoint.exec_latches n ..).stopped hstopped
  · rw [point_step_self rfl, hidle]
    simp [GatePoint.exec, GatePoint.finds]
  · rw [hover] at hfinds
    cases hfinds

/-! ## One publication -/

/-- The hooks of the issue are called one after the other, nobody removes its stop, and a call that
has begun to publish it comes to write the stop. -/
def Careful (n : ℕ) (w : Gates) (a : ℕ × GateInput) : Prop :=
  a.2 ≠ .recover n ∧ (∀ mode, a.2 = .call mode n → ∀ t, (w.point t).number ≠ some n) ∧
    ((w.point a.1).publishes n → a.2 ≠ .kill ∧ ∀ made, a.2 ≠ .file false made)

abbrev publications (n : ℕ) (w : Gates) : ℕ := totalCount w.log (GateEntry.isRun .after n)

/-- What holds of an issue whose hooks are called one after the other. -/
structure Once (n : ℕ) (w : Gates) : Prop where
  /-- At most one call is about the issue. -/
  alone : ∀ t u, (w.point t).number = some n → (w.point u).number = some n → t = u
  count : w.publications n ≤ 1
  /-- A publication has led to a stop, or will. -/
  settled : w.publications n = 0 ∨ w.files.stopped n ∨ ∃ t, (w.point t).publishes n
  /-- Who is past the stop comes before any publication. -/
  fresh : ∀ t, (w.point t).passed n → w.publications n = 0

theorem once_init (files : GateFiles) : (init files).Once n where
  alone t u ht := by cases ht
  count := Nat.zero_le 1
  settled := .inl rfl
  fresh t ht := by cases ht

theorem Once.of_operator (h : w.Once n) {t : ℕ} {input : GateInput}
    (hinput : isOperator input = true) (hrecover : input ≠ .recover n) :
    (w.step (t, input)).Once n := by
  obtain ⟨hpoint, hlog⟩ := step_of_operator (w := w) (t := t) hinput
  have hstopped : (w.step (t, input)).files.stopped n = w.files.stopped n := by
    cases input with
    | recover m =>
      have hne : n ≠ m := fun hnm ↦ hrecover (by rw [hnm])
      exact Function.update_of_ne hne ..
    | clear => rfl
    | _ => cases hinput
  constructor
  · rw [hpoint]
    exact h.alone
  · rw [publications, hlog]
    exact h.count
  · rw [publications, hlog, hstopped, hpoint]
    exact h.settled
  · rw [publications, hlog, hpoint]
    exact h.fresh

/-- A new call is the only one, and no other call comes to be about the issue. -/
theorem Once.alone_step (h : w.Once n) {t : ℕ} {input : GateInput}
    (hinput : isOperator input = false)
    (hcall : ∀ mode, input = .call mode n → ∀ u, (w.point u).number ≠ some n) (u v : ℕ)
    (hu : ((w.step (t, input)).point u).number = some n)
    (hv : ((w.step (t, input)).point v).number = some n) : u = v := by
  have hback : ∀ u, ((w.step (t, input)).point u).number = some n →
      (w.point u).number = some n ∨ u = t ∧ ∃ mode, input = .call mode n := by
    intro u hu
    by_cases hut : u = t
    · subst hut
      rw [point_step_self hinput] at hu
      exact (((w.point u).exec_publishing n w.files input).number hu).imp_right
        fun hmode ↦ ⟨rfl, hmode⟩
    · rw [point_step_of_ne hinput hut] at hu
      exact .inl hu
  rcases hback u hu with hu | ⟨rfl, mode, hmode⟩
  · rcases hback v hv with hv | ⟨-, mode, hmode⟩
    · exact h.alone u v hu hv
    · exact absurd hu (hcall mode hmode u)
  · rcases hback v hv with hv | ⟨rfl, -⟩
    · exact absurd hv (hcall mode hmode v)
    · rfl

theorem publications_step {t : ℕ} {input : GateInput} (hinput : isOperator input = false) :
    (w.step (t, input)).publications n = w.publications n +
      (((w.point t).exec w.files input).2.2.any (GateEntry.isRun .after n)).toNat := by
  rw [publications, step_of_call hinput]
  exact totalCount_append ..

/-- The first publication. -/
theorem Once.of_ran (h : w.Once n) {t : ℕ} {input : GateInput} (hinput : isOperator input = false)
    (halone : ∀ u v, ((w.step (t, input)).point u).number = some n →
      ((w.step (t, input)).point v).number = some n → u = v)
    (hran : ((w.point t).exec w.files input).2.2.any (GateEntry.isRun .after n) = true) :
    (w.step (t, input)).Once n := by
  have hcount := publications_step (w := w) (n := n) (t := t) hinput
  obtain ⟨hpassed, hpublished⟩ := ((w.point t).exec_publishing n w.files input).publishes hran
  have hnumber := GatePoint.number_of_passed hpassed
  rw [hran, h.fresh t hpassed] at hcount
  refine ⟨halone, Nat.le_of_eq hcount, .inr (.inr ⟨t, ?_⟩), fun u hu ↦ ?_⟩
  · rw [point_step_self hinput]
    exact hpublished
  · by_cases hut : u = t
    · subst hut
      rw [point_step_self hinput, GatePoint.passed_of_publishes hpublished] at hu
      cases hu
    · rw [point_step_of_ne hinput hut] at hu
      exact absurd (h.alone u t (GatePoint.number_of_passed hu) hnumber) hut

/-- Nothing is published: a publication before is settled as it was, or by this call. -/
theorem Once.of_quiet (h : w.Once n) {t : ℕ} {input : GateInput}
    (hinput : isOperator input = false)
    (halone : ∀ u v, ((w.step (t, input)).point u).number = some n →
      ((w.step (t, input)).point v).number = some n → u = v)
    (hpublishes : (w.point t).publishes n → input ≠ .kill ∧ ∀ made, input ≠ .file false made)
    (hran : ((w.point t).exec w.files input).2.2.any (GateEntry.isRun .after n) = false) :
    (w.step (t, input)).Once n := by
  have hcount := publications_step (w := w) (n := n) (t := t) hinput
  have hturn := (w.point t).exec_publishing n w.files input
  rw [hran] at hcount
  refine ⟨halone, hcount ▸ h.count, ?_, fun u hu ↦ ?_⟩
  · rw [hcount, files_step hinput]
    refine h.settled.imp_right fun hsettled ↦ ?_
    rcases hsettled with hstopped | ⟨u, hu⟩
    · exact .inl (((w.point t).exec_latches n w.files input).stopped hstopped)
    · by_cases hut : u = t
      · subst hut
        obtain ⟨hkill, hfile⟩ := hpublishes hu
        refine (hturn.settles hu hkill hfile).imp_right fun hnext ↦ ⟨u, ?_⟩
        rw [point_step_self hinput]
        exact hnext
      · refine .inr ⟨u, ?_⟩
        rw [point_step_of_ne hinput hut]
        exact hu
  · rw [hcount]
    by_cases hut : u = t
    · subst hut
      rw [point_step_self hinput] at hu
      rcases hturn.passes hu with hpassed | ⟨hnumber, hquiet, hstopped⟩
      · exact h.fresh u hpassed
      · -- nobody else publishes, and there is no stop
        refine h.settled.resolve_right ?_
        rintro (hstop | ⟨v, hv⟩)
        · rw [hstopped] at hstop
          cases hstop
        · rw [h.alone v u (GatePoint.number_of_publishes hv) hnumber, hquiet] at hv
          cases hv
    · rw [point_step_of_ne hinput hut] at hu
      exact h.fresh u hu

theorem Once.step (h : w.Once n) {a : ℕ × GateInput} (ha : Careful n w a) :
    (w.step a).Once n := by
  obtain ⟨t, input⟩ := a
  obtain ⟨hrecover, hcall, hpublishes⟩ := ha
  cases hinput : isOperator input with
  | true => exact h.of_operator hinput hrecover
  | false =>
    have halone := h.alone_step (t := t) hinput hcall
    cases hran : ((w.point t).exec w.files input).2.2.any (GateEntry.isRun .after n) with
    | true => exact h.of_ran hinput halone hran
    | false => exact h.of_quiet hinput halone hpublishes hran

/-- **An issue is published once.** Where the hooks of an issue are called one after the other, no
operator removes its stop, and no call is killed or fails to write the stop after it has started to
publish: the hook after the turn is started for it at most once, whatever the calls for other issues
do, how often the issue is dispatched and where else calls fail or are killed. -/
theorem published_once (files : GateFiles) (n : ℕ) {steps : List (ℕ × GateInput)}
    (h : Along step (Careful n) (init files) steps) :
    publications n (run step (init files) steps) ≤ 1 :=
  (invariant_along step (I := Once n) (fun _ _ h ha ↦ h.step ha) (once_init files) h).count

/-! ## Examples -/

/-- What GitHub answers about an issue that may be worked on. -/
def exampleAnswers (number : ℤ) : Answers where
  issue := .ok [.object [("number", .int number), ("state", .string "open"),
    ("labels", .array [.object [("name", .string "agent-ready")]])]]
  dependencies := .ok [.array []]
  pulls := .ok [.array []]

/-- The first hook of the issue 24 has succeeded. -/
def exampleFiles : GateFiles := ⟨fun n ↦ n = 24, fun _ ↦ false, false⟩

/-- The call after the turn publishes the issue. -/
def examplePublication : List (ℕ × GateInput) :=
  [(0, .call .after 24), (0, .file true false), (0, .file true false), (0, .file true false),
    (0, .file true false), (0, .file true false), (0, .answered (exampleAnswers 24) .started),
    (0, .returned true), (0, .file true false)]

theorem eligible_of_ran_examplePublication : Eligible 24 (exampleAnswers 24) := by
  have hlog : (run step (init exampleFiles) examplePublication).log =
      [(0, .consumed 24), (0, .ran .after 24 (exampleAnswers 24))] := rfl
  refine eligible_of_ran exampleFiles examplePublication
    (0, .ran .after 24 (exampleAnswers 24)) ?_ .after 24 (exampleAnswers 24) rfl
  rw [hlog]
  exact List.mem_cons_of_mem _ List.mem_cons_self

/-- GitHub does not answer. -/
def exampleSilence : Answers := { exampleAnswers 24 with
  issue := .error "GitHub API failed, timed out, or returned invalid data" }

/-- The issue is refused, and the call is killed before it has written a stop. It is dispatched once
more, and published. -/
def exampleRetried : List (ℕ × GateInput) :=
  [(0, .call .before 24), (0, .file true false), (0, .file true false), (0, .file true false),
    (0, .file true false), (0, .answered exampleSilence .started), (0, .kill),
    (0, .call .before 24), (0, .file true false), (0, .file true false), (0, .file true false),
    (0, .file true false), (0, .answered (exampleAnswers 24) .started), (0, .returned true),
    (0, .file true false)] ++ examplePublication

/-- What a step of the call 0 has to meet where there is no other call. -/
def carefulAlone (n : ℕ) (w : Gates) (a : ℕ × GateInput) : Bool :=
  a.1 = 0 && match a.2 with
    | .recover m => m ≠ n
    | .call _ m => m ≠ n || (w.point 0).number ≠ some n
    | .kill | .file false _ => !(w.point 0).publishes n
    | _ => true

theorem careful_of_alone {a : ℕ × GateInput} (hothers : ∀ t ≠ 0, w.point t = .idle)
    (ha : carefulAlone n w a = true) : Careful n w a := by
  obtain ⟨t, input⟩ := a
  obtain ⟨ht, hinput⟩ := Bool.and_eq_true_iff.mp ha
  obtain rfl : t = 0 := of_decide_eq_true ht
  refine ⟨?_, fun mode hcall u hnumber ↦ ?_, fun hpublishes ↦ ⟨?_, fun made ↦ ?_⟩⟩
  · rintro rfl
    simp at hinput
  · obtain rfl : input = .call mode n := hcall
    by_cases hu : u = 0
    · subst hu
      simp [hnumber] at hinput
    · rw [hothers u hu] at hnumber
      cases hnumber
  · rintro rfl
    simp [hpublishes] at hinput
  · rintro rfl
    simp [hpublishes] at hinput

theorem along_careful_of_alone {steps : List (ℕ × GateInput)}
    (hothers : ∀ t ≠ 0, w.point t = .idle)
    (h : Along step (fun w a ↦ carefulAlone n w a = true) w steps) :
    Along step (Careful n) w steps := by
  induction steps generalizing w with
  | nil => trivial
  | cons a steps ih =>
    obtain ⟨ha, h⟩ := h
    refine ⟨careful_of_alone hothers ha, ih (fun t ht ↦ ?_) h⟩
    have hzero : a.1 = 0 := of_decide_eq_true (Bool.and_eq_true_iff.mp ha).1
    cases hinput : isOperator a.2 with
    | true =>
      rw [show w.step a = w.step (a.1, a.2) from rfl, (step_of_operator hinput).1]
      exact hothers t ht
    | false =>
      rw [show w.step a = w.step (a.1, a.2) from rfl, point_step_of_ne hinput (hzero ▸ ht)]
      exact hothers t ht

/-- A refusal without a stop does no harm: the issue is published once. -/
theorem published_once_exampleRetried :
    publications 24 (run step (init exampleFiles) exampleRetried) = 1 ∧
      publications 24 (run step (init exampleFiles) exampleRetried) ≤ 1 :=
  ⟨by decide, published_once exampleFiles 24
    (along_careful_of_alone (fun _ _ ↦ rfl) (by decide))⟩

def exampleStopped : Gates :=
  ⟨⟨fun _ ↦ false, fun n ↦ n = 24, false⟩, fun t ↦ if t = 1 then .watching else .idle, []⟩

/-- The issue is dispatched, and the worker looks for the halt. -/
def exampleRedispatch : List (ℕ × GateInput) :=
  [(0, .file true false), (0, .file true false), (0, .file true false), (0, .file true false),
    (1, .file true false), (1, .file true false)]

theorem redispatch_halts_exampleStopped :
    (run step exampleStopped ((0, .call .before 24) :: exampleRedispatch)).files.halt = true :=
  redispatch_halts rfl rfl (by simp [exampleRedispatch, isOperator])
    (by simp [exampleRedispatch]) rfl

/-- The issue 24 is stopped and has been dispatched again. -/
def exampleHalted : Gates := ⟨⟨fun _ ↦ false, fun n ↦ n = 24, true⟩, fun _ ↦ .idle, []⟩

/-- It is dispatched once more, and so is another issue. GitHub would admit both. -/
def exampleDispatch : List (ℕ × GateInput) :=
  [(0, .call .before 24), (1, .call .before 7), (0, .file true false), (0, .file true false),
    (1, .file true false), (0, .file true false), (0, .file true false), (1, .file true false),
    (0, .answered (exampleAnswers 24) .started), (1, .file true false), (1, .file true false),
    (1, .answered (exampleAnswers 7) .started)]

theorem latch_law_exampleHalted :
    Adds (fun e ↦ ∀ mode, e.isRun mode 24 = false) exampleHalted
        (run step exampleHalted exampleDispatch) ∧
      Adds (fun e ↦ e.isStart = false) exampleHalted (run step exampleHalted exampleDispatch) := by
  obtain ⟨hstop, hhalt⟩ := latch_law exampleHalted exampleDispatch
  exact ⟨(hstop 24 ⟨rfl, fun _ ↦ rfl⟩ (by simp [exampleDispatch])).2,
    (hhalt ⟨rfl, fun _ ↦ rfl⟩ (by simp [exampleDispatch])).2⟩

end Gates

end TunnelDeck.Symphony
