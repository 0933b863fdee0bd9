import Mathlib.Data.Finset.Basic
import Mathlib.Data.List.AList
import TunnelDeck.Config.Store
import TunnelDeck.Daemon.Policy

/-!
# The state of the daemon

What the daemon manager keeps behind its lock, and the requests and replies it exchanges with
clients. A hash map is an association list with distinct keys; the order in which the source walks
over one is arbitrary, so a section that does so takes the order as an input.

`State.view` is the state as one rule sees it: the rule stored under an id, its runtime entry, its
diagnostics, and whether it is manually stopped or being edited. Every lookup of the daemon goes
by id and takes the first rule under it.
-/

namespace TunnelDeck

open Json (Value)

/-! ## Requests and replies -/

inductive Operation where
  | hostList
  | hostShow
  | hostTest
  | forwardList
  | forwardAdd
  | forwardEditActive
  | forwardImport
  | forwardRemove
  | forwardStart
  | forwardStop
  | settingsGet
  | settingsUpdate
  | status
  | subscribe
  deriving DecidableEq

/-- A request, as far as the manager reads it. -/
structure Request where
  operation : Operation
  payload : Value
  deriving DecidableEq

inductive ErrorCode where
  | invalidRequest
  | messageTooLarge
  | unsupportedVersion
  | notFound
  | conflict
  | unavailable
  | internal
  deriving DecidableEq

/-- The code and the message of a failure. -/
abbrev Failure := ErrorCode × String

/-- The result of handling a request. -/
abbrev Reply := Except Failure Value

/-- A published event. Its sequence number is its place in the list of events. -/
structure Event where
  event : String
  payload : Value
  deriving DecidableEq

/-- `internal`. -/
def internal (crates : Crates) (error : StoreError) : Failure :=
  (.internal, error.toString crates)

def ruleNotFound : Failure := (.notFound, "rule was not found")

def ruleBeingEdited : Failure := (.conflict, "rule is being edited")

/-- `save_error_code`. -/
def saveErrorCode : StoreError → ErrorCode
  | .invalidRules _ => .conflict
  | _ => .internal

/-- `save_outcome`: a durability error comes after the replacement, so it is kept apart from the
errors that leave the document alone. -/
def saveOutcome (crates : Crates) : Except StoreError Unit → Except Failure (Option Failure)
  | .ok () => .ok none
  | .error (.durabilityUncertain error) => .ok (some (internal crates (.durabilityUncertain error)))
  | .error error => .error (internal crates error)

/-! ## Runtime entries -/

/-- An attempt that has started: which of the spawned processes it is, and its own UUID. -/
structure ManagedAttempt where
  process : ℕ
  attemptId : Uuid
  deriving DecidableEq

/-- The runtime entry of a rule; a stopped rule has none. An instant is in milliseconds. -/
inductive Attempt where
  | starting (attemptId : Uuid)
  | active (attempt : ManagedAttempt)
  | reconnecting (due : ℕ)
  | failed
  deriving DecidableEq

structure LastError where
  kind : DiagnosticKind
  message : String
  deriving DecidableEq

structure RuntimeInfo where
  activeSince : Option ℕ := none
  reconnectCount : ℕ := 0
  retryAttempt : ℕ := 0
  lastError : Option LastError := none
  deriving DecidableEq

/-! ## The state -/

structure State where
  directory : Directory
  rules : List Rule
  settings : Settings
  running : AList fun _ : Uuid ↦ Attempt
  diagnostics : AList fun _ : Uuid ↦ RuntimeInfo
  manuallyStopped : Finset Uuid
  editing : Finset Uuid

def findRule (rules : List Rule) (id : Uuid) : Option Rule :=
  rules.find? fun rule ↦ rule.id = id

/-- The rules with `rule` in the place of the one that `findRule` gives for `id`. -/
def replaceRule (id : Uuid) (rule : Rule) : List Rule → List Rule
  | [] => []
  | r :: rs => if r.id = id then rule :: rs else r :: replaceRule id rule rs

/-- `DaemonManager::open`. -/
def openState (crates : Crates) (faults : OpenFaults) (directory : Directory) :
    Except StoreError State :=
  match loadOrMigrateV1 crates faults directory with
  | (.error e, _) => .error e
  | (.ok persisted, directory) =>
    .ok {
      directory
      rules := (persisted.getD .empty).rules
      settings := (persisted.getD .empty).settings
      running := ∅
      diagnostics := ∅
      manuallyStopped := ∅
      editing := ∅ }

namespace State

/-! ### Updates under one id -/

def setEntry (s : State) (id : Uuid) (entry : Attempt) : State :=
  { s with running := s.running.insert id entry }

def removeEntry (s : State) (id : Uuid) : State := { s with running := s.running.erase id }

/-- `entry(id).or_default()` of the diagnostics, changed by `f`. -/
def updateInfo (s : State) (id : Uuid) (f : RuntimeInfo → RuntimeInfo) : State :=
  { s with diagnostics := s.diagnostics.insert id (f ((s.diagnostics.lookup id).getD {})) }

def removeInfo (s : State) (id : Uuid) : State :=
  { s with diagnostics := s.diagnostics.erase id }

def markStopped (s : State) (id : Uuid) : State :=
  { s with manuallyStopped := insert id s.manuallyStopped }

def unmarkStopped (s : State) (id : Uuid) : State :=
  { s with manuallyStopped := s.manuallyStopped.erase id }

/-- A manual start takes back a stop. -/
def release (s : State) (manual : Bool) (id : Uuid) : State :=
  if manual then s.unmarkStopped id else s

/-- A start forgets a failure. -/
def clearFailed (s : State) (id : Uuid) : State :=
  if s.running.lookup id = some .failed then s.removeEntry id else s

def reserve (s : State) (id : Uuid) : State := { s with editing := insert id s.editing }

def unreserve (s : State) (id : Uuid) : State := { s with editing := s.editing.erase id }

end State

/-- The state as the rule under one id sees it. -/
structure RuleView where
  rule : Option Rule
  entry : Option Attempt
  info : Option RuntimeInfo
  stopped : Prop
  editing : Prop

def State.view (s : State) (id : Uuid) : RuleView where
  rule := findRule s.rules id
  entry := s.running.lookup id
  info := s.diagnostics.lookup id
  stopped := id ∈ s.manuallyStopped
  editing := id ∈ s.editing

/-! ## Selecting a rule -/

section Sections

variable (crates : Crates)

def decodeSelector {α : Type} (name : String) (decode : Value → Option α)
    (payload : Value) : Option α :=
  (Json.structFields [name] payload).bind fun fields ↦ Json.field fields name decode

/-- `rule_id`: a selector by id is taken as it is, one by name is looked up. -/
def ruleId (payload : Value) (s : State) : Except Failure Uuid :=
  match decodeSelector "rule_id" (decodeUuid crates) payload with
  | some id => .ok id
  | none =>
    match decodeSelector "rule_name" Json.decodeString payload with
    | none => .error (.invalidRequest, crates.jsonError .selectorName payload)
    | some name =>
      match s.rules.find? fun rule ↦ rule.name.asStr = name with
      | some rule => .ok rule.id
      | none => .error ruleNotFound

/-- The payload of the starts that the daemon makes itself. -/
def selectId (id : Uuid) : Value := .object [("rule_id", encodeUuid crates id)]

/-- The payload by which a client names a rule. -/
def selectName (name : String) : Value := .object [("rule_name", .string name)]

/-! ## Starting -/

/-- `check_local_port`, where binding the listener fails with `bind` or succeeds. -/
def checkLocalPort (bind : Option IoError) (rule : Rule) : Except Failure Unit :=
  match rule.localListener with
  | none => .ok ()
  | some (address, port) =>
    let address := if address.asStr = "*" then "0.0.0.0" else address.asStr
    match bind with
    | none => .ok ()
    | some error =>
      if error.kind = .addrInUse then
        .error (.conflict, "local listener " ++ address ++ ":" ++
          ToString.toString port.get.toNat ++ " is already in use")
      else .error (.unavailable, "local listener cannot be checked: " ++ error.message)

/-- A launch that a start has to make: the rule it found and the marker it stored. -/
structure Launch where
  id : Uuid
  rule : Rule
  attemptId : Uuid
  deriving DecidableEq

inductive StartEntry where
  | refused (failure : Failure)
  /-- There is nothing to start. -/
  | unchanged (id : Uuid) (startRequested : Bool)
  | launch (launch : Launch)

/-- The first section of `start_inner`: up to the marker. -/
def startEnter (automatic editOwned : Bool) (payload : Value) (attemptId : Uuid)
    (bind : Option IoError) (s : State) : StartEntry × State :=
  match ruleId crates payload s with
  | .error e => (.refused e, s)
  | .ok id =>
    if id ∈ s.editing ∧ ¬ editOwned then (.refused ruleBeingEdited, s)
    else if automatic ∧ id ∈ s.manuallyStopped then (.unchanged id false, s)
    else
      let s := s.release (!automatic && !editOwned) id
      match findRule s.rules id with
      | none => (.refused ruleNotFound, s)
      | some rule =>
        let s := s.clearFailed id
        if (s.running.lookup id).isSome then (.unchanged id true, s)
        else
          match checkLocalPort bind rule with
          | .error e => (.refused e, s)
          | .ok () => (.launch ⟨id, rule, attemptId⟩, s.setEntry id (.starting attemptId))

/-- The marker of the launch is still the entry of its rule. -/
def Launch.current (launch : Launch) (s : State) : Prop :=
  s.running.lookup launch.id = some (.starting launch.attemptId)

instance (launch : Launch) (s : State) : Decidable (launch.current s) :=
  inferInstanceAs (Decidable (_ = _))

/-- Scheduling a reconnect: the delay, and the diagnostics that count it. -/
def RuntimeInfo.retry (info : RuntimeInfo) : RuntimeInfo :=
  { info with
    retryAttempt := saturatingSucc info.retryAttempt
    reconnectCount := saturatingSucc info.reconnectCount }

/-- The section of `start_inner` after a failed launch: whether the failure was recorded, and if
so whether a reconnect was scheduled. -/
def startFailed (editOwned : Bool) (launch : Launch) (error : ProcessError) (now : ℕ)
    (s : State) : Option Bool × State :=
  let diagnostic := classifyDiagnostic error.toString
  if launch.current s then
    let reconnectEnabled := launch.rule.reconnect && diagnostic.retryable && !editOwned
    let s := s.updateInfo launch.id fun info ↦
      { info with activeSince := none, lastError := some ⟨diagnostic.kind, diagnostic.message⟩ }
    if reconnectEnabled then
      let attempt := ((s.diagnostics.lookup launch.id).getD {}).retryAttempt
      let s := s.updateInfo launch.id RuntimeInfo.retry
      let due := now + fullJitter attempt (uuidEntropy launch.attemptId)
      (some true, s.setEntry launch.id (.reconnecting due))
    else if editOwned then (some false, s.removeEntry launch.id)
    else (some false, s.setEntry launch.id .failed)
  else (none, s)

/-- The last section of `start_inner`: whether the launch was still wanted. -/
def startFinish (editOwned : Bool) (launch : Launch) (attempt : Option ManagedAttempt) (now : ℕ)
    (s : State) : Bool × State :=
  if launch.current s then
    let entry :=
      match attempt with
      | some attempt => .active attempt
      | none => .starting launch.attemptId
    let s := s.setEntry launch.id entry
    let s := if editOwned then s.unmarkStopped launch.id else s
    (true, s.updateInfo launch.id fun info ↦
      { info with activeSince := some now, lastError := none })
  else (false, s)

/-! ## Stopping -/

/-- The section of `stop`: the id and the entry it removed. -/
def stopEnter (payload : Value) (s : State) : Except Failure (Uuid × Option Attempt) × State :=
  match ruleId crates payload s with
  | .error e => (.error e, s)
  | .ok id =>
    if id ∈ s.editing then (.error ruleBeingEdited, s)
    else if ¬ s.rules.any (fun rule ↦ rule.id = id) then (.error ruleNotFound, s)
    else
      (.ok (id, s.running.lookup id), ((s.markStopped id).removeInfo id).removeEntry id)

/-! ## Editing an active rule -/

/-- The two rules of an edit, which have one id. -/
structure Edit where
  expected : Rule
  replacement : Rule
  sameId : replacement.id = expected.id
  deriving DecidableEq

def Edit.id (edit : Edit) : Uuid := edit.expected.id

/-- The checks of `edit_active` before its first section. -/
def parseEdit (payload : Value) : Except Failure Edit :=
  match decodeEdit crates payload with
  | none => .error (.invalidRequest, crates.jsonError .editPayload payload)
  | some (expected, replacement) =>
    match Rule.ofWire expected with
    | .error e => .error (.invalidRequest, e.toString)
    | .ok expected =>
      match Rule.ofWire replacement with
      | .error e => .error (.invalidRequest, e.toString)
      | .ok replacement =>
        if h : replacement.id = expected.id then .ok ⟨expected, replacement, h⟩
        else .error (.invalidRequest, "replacement rule ID differs")

def Attempt.isActive : Attempt → Bool
  | .active _ => true
  | _ => false

/-- The section of `edit_active` that reserves the rule: the entry it removed. -/
def editReserve (edit : Edit) (s : State) : Except Failure (Option Attempt) × State :=
  match findRule s.rules edit.id with
  | none => (.error ruleNotFound, s)
  | some current =>
    if current ≠ edit.expected ∨ edit.id ∈ s.editing then
      (.error (.conflict, "rule changed since editing began"), s)
    else if ¬ (s.running.lookup edit.id).any Attempt.isActive then
      (.error (.conflict, "rule is no longer active"), s)
    else
      match validateRuleSet (replaceRule edit.id edit.replacement s.rules) with
      | .error errors => (.error (.conflict, (StoreError.invalidRules errors).toString crates), s)
      | .ok () =>
        (.ok (s.running.lookup edit.id),
          (((s.reserve edit.id).markStopped edit.id).removeInfo edit.id).removeEntry edit.id)

/-- The section of `edit_active` after a failed stop. -/
def editStopFailed (edit : Edit) (s : State) : State :=
  (s.setEntry edit.id .failed).updateInfo edit.id fun info ↦
    { info with lastError := some ⟨.unknown, "stop failed; forwarding state uncertain"⟩ }

/-- The section of `edit_active` that saves the replacement. Without the rule there is nothing to
save. -/
def editSave (faults : SaveFaults) (edit : Edit) (s : State) :
    Option (Except StoreError Unit) × State :=
  if s.rules.any (fun rule ↦ rule.id = edit.id) then
    let next := replaceRule edit.id edit.replacement s.rules
    match validateRuleSet next with
    | .error errors => (some (.error (.invalidRules errors)), s)
    | .ok () =>
      let (outcome, directory) := saveConfig crates faults s.directory next s.settings
      if committed outcome then (some outcome, { s with directory, rules := next })
      else (some outcome, { s with directory })
  else (none, s)

/-- `finish_edit`. -/
def finishEdit (id : Uuid) (s : State) : State := s.unreserve id

/-! ## Maintenance -/

/-- What the section of `maintain` found: the attempts that ended and were dropped, their rules by
whether they reconnect, and the rules whose reconnect is due. -/
structure Scan where
  dropped : List ManagedAttempt
  reconnecting : List Uuid
  terminalFailures : List Uuid
  retry : List Uuid

/-- `order` if it is an order of the keys of the map. -/
def iterationOrder (order : List Uuid) (running : AList fun _ : Uuid ↦ Attempt) : List Uuid :=
  if order.Perm running.keys then order else running.keys

def Attempt.managed : Attempt → Option ManagedAttempt
  | .active attempt => some attempt
  | _ => none

/-- The attempt behind the entry has ended. -/
def Attempt.hasExited (exited : ℕ → Bool) : Attempt → Bool
  | .active attempt => exited attempt.process
  | _ => false

/-- The attempt behind the entry still runs. -/
def Attempt.stillRuns (exited : ℕ → Bool) : Attempt → Bool
  | .active attempt => !exited attempt.process
  | _ => false

def Attempt.isDue (now : ℕ) : Attempt → Bool
  | .reconnecting due => due ≤ now
  | _ => false

def reconnectEnabled (rules : List Rule) (id : Uuid) : Bool :=
  (findRule rules id).any Rule.reconnect

/-- The loop body of `maintain` over attempts that still run. -/
def resetRetries (now : ℕ) (s : State) (id : Uuid) : State :=
  match s.diagnostics.lookup id with
  | none => s
  | some info =>
    if info.activeSince.any fun since ↦ resetAfter ≤ now - since then
      s.updateInfo id fun info ↦ { info with retryAttempt := 0 }
    else s

/-- The loop body of `maintain` over attempts that ended. `fresh` stands for the UUID drawn when
the entry is not an active attempt, which does not happen. -/
def recordExit (now : ℕ) (fresh : Uuid) (s : State) (id : Uuid) : State :=
  let failedAttempt :=
    match s.running.lookup id with
    | some (.active attempt) => attempt.attemptId
    | _ => fresh
  let enabled := reconnectEnabled s.rules id
  let s := s.updateInfo id fun info ↦
    { info with
      activeSince := none
      lastError := some ⟨.unknown, "the SSH connection ended unexpectedly"⟩ }
  if enabled then
    let attempt := ((s.diagnostics.lookup id).getD {}).retryAttempt
    let s := s.updateInfo id RuntimeInfo.retry
    let due := now + fullJitter attempt (uuidEntropy failedAttempt)
    s.setEntry id (.reconnecting due)
  else s.setEntry id .failed

/-- The loop body of `maintain` over reconnects that are due. -/
def takeRetry (s : State) (id : Uuid) : State := s.removeEntry id

/-- The section of `maintain`. -/
def maintainScan (order : List Uuid) (exited : ℕ → Bool) (now : ℕ) (fresh : Uuid) (s : State) :
    Scan × State :=
  let ids := iterationOrder order s.running
  let reset := ids.filter fun id ↦ (s.running.lookup id).any (Attempt.stillRuns exited)
  let ended := ids.filter fun id ↦ (s.running.lookup id).any (Attempt.hasExited exited)
  let retry := ids.filter fun id ↦ (s.running.lookup id).any (Attempt.isDue now)
  let scan : Scan := {
    dropped := ended.filterMap fun id ↦ (s.running.lookup id).bind Attempt.managed
    reconnecting := ended.filter (reconnectEnabled s.rules)
    terminalFailures := ended.filter fun id ↦ !reconnectEnabled s.rules id
    retry }
  let s := reset.foldl (resetRetries now) s
  let s := ended.foldl (recordExit now fresh) s
  (scan, retry.foldl takeRetry s)

end Sections

end TunnelDeck
