import TunnelDeck.Daemon.State

/-!
# Requests handled under the lock

`dispatch` handles a request in one section of the state lock: the queries, and the four requests
that change the configuration. Each of the four builds the rules or settings it wants, saves them,
and takes them over in memory exactly when the document was replaced; `commitChange` is that tail.
-/

namespace TunnelDeck

open Json (Value)

/-- What a section under the lock gives: the reply, the events it published and the state. -/
abbrev Handled := Reply × List Event × State

section Dispatch

variable (crates : Crates)

def ruleIdPayload (id : Uuid) : Value := .object [("rule_id", encodeUuid crates id)]

def ruleIdsPayload (ids : List Uuid) : Value :=
  .object [("rule_ids", .array (ids.map (encodeUuid crates)))]

/-- Saves the rules and the settings and, when the document was replaced, takes them over,
publishes the event and only then reports a durability error. -/
def commitChange (faults : SaveFaults) (rules : List Rule) (settings : Settings) (event : Event)
    (result : Value) (s : State) : Handled :=
  let (outcome, directory) := saveConfig crates faults s.directory rules settings
  match saveOutcome crates outcome with
  | .error failure => (.error failure, [], { s with directory })
  | .ok durabilityError =>
    let reply :=
      match durabilityError with
      | some failure => .error failure
      | none => .ok result
    (reply, [event], { s with directory, rules, settings })

/-- The tail of a change of the rules that has to be validated first. -/
def commitRules (faults : SaveFaults) (rules : List Rule) (payload : Value) (s : State) :
    Handled :=
  match validateRuleSet rules with
  | .error errors => (.error (.conflict, (StoreError.invalidRules errors).toString crates), [], s)
  | .ok () =>
    commitChange crates faults rules s.settings ⟨"configuration_changed", payload⟩ payload s

/-! ## Changes -/

/-- `ForwardAdd`: adds a rule, or replaces the rule under its id if that is not running. -/
def forwardAdd (faults : SaveFaults) (payload : Value) (s : State) : Handled :=
  match decodeRule crates payload with
  | none => (.error (.invalidRequest, crates.jsonError .rule payload), [], s)
  | some wire =>
    match Rule.ofWire wire with
    | .error e => (.error (.invalidRequest, e.toString), [], s)
    | .ok rule =>
      if rule.id ∈ s.editing then (.error ruleBeingEdited, [], s)
      else
        match findRule s.rules rule.id with
        | some _ =>
          if (s.running.lookup rule.id).isSome then
            (.error (.conflict, "an active rule cannot be edited"), [], s)
          else
            commitRules crates faults (replaceRule rule.id rule s.rules)
              (ruleIdPayload crates rule.id) s
        | none =>
          commitRules crates faults (s.rules ++ [rule]) (ruleIdPayload crates rule.id) s

/-- The first of the ids that is seen already, where an id is seen once it has been looked at. -/
def firstSeen (seen : Finset Uuid) : List Uuid → Option Uuid
  | [] => none
  | id :: ids => if id ∈ seen then some id else firstSeen (insert id seen) ids

/-- `ForwardImport`: adds several rules, all of them under new ids. -/
def forwardImport (faults : SaveFaults) (payload : Value) (s : State) : Handled :=
  match decodeImport crates payload with
  | none => (.error (.invalidRequest, crates.jsonError .importPayload payload), [], s)
  | some wires =>
    if wires = [] then
      (.error (.invalidRequest, "at least one imported rule is required"), [], s)
    else
      match wires.mapM Rule.ofWire with
      | .error e => (.error (.invalidRequest, e.toString), [], s)
      | .ok imported =>
        let ids := imported.map Rule.id
        match firstSeen (s.rules.map Rule.id).toFinset ids with
        | some id =>
          (.error (.conflict, "imported rule ID already exists: " ++ crates.formatUuid id), [], s)
        | none =>
          commitRules crates faults (s.rules ++ imported) (ruleIdsPayload crates ids) s

/-- `ForwardRemove`: removes a rule that is not running. -/
def forwardRemove (faults : SaveFaults) (payload : Value) (s : State) : Handled :=
  match ruleId crates payload s with
  | .error e => (.error e, [], s)
  | .ok id =>
    if id ∈ s.editing then (.error ruleBeingEdited, [], s)
    else if (s.running.lookup id).isSome then
      (.error (.conflict, "an active rule cannot be removed"), [], s)
    else
      let next := s.rules.filter fun rule ↦ rule.id ≠ id
      if next.length = s.rules.length then (.error ruleNotFound, [], s)
      else
        commitChange crates faults next s.settings
          ⟨"configuration_changed", ruleIdPayload crates id⟩
          (.object [("rule_id", encodeUuid crates id), ("removed", .bool true)]) s

/-- `SettingsUpdate`. -/
def settingsUpdate (faults : SaveFaults) (payload : Value) (s : State) : Handled :=
  match decodeSettings payload with
  | none => (.error (.invalidRequest, crates.jsonError .settings payload), [], s)
  | some settings =>
    commitChange crates faults s.rules settings ⟨"settings_changed", encodeSettings settings⟩
      (encodeSettings settings) s

/-! ## Queries -/

/-- `ForwardList`. -/
def forwardList (s : State) : Reply :=
  match ConfigV2.fromDomain s.rules s.settings with
  | .error e => .error (internal crates e)
  | .ok config => .ok (.array (config.rules.map (encodeRule crates)))

def stateName : Option Attempt → String
  | some (.starting _) => "starting"
  | some (.active _) => "active"
  | some (.reconnecting _) => "reconnecting"
  | some .failed => "failed"
  | none => "stopped"

/-- One rule in the status. -/
def forwardStatus (now : ℕ) (s : State) (rule : Rule) : Value :=
  let info := s.diagnostics.lookup rule.id
  let uptimeSeconds := ((info.bind RuntimeInfo.activeSince).map fun since ↦
    (now - since) / 1000).getD 0
  let lastError := info.bind RuntimeInfo.lastError
  .object [("rule_id", encodeUuid crates rule.id), ("name", .string rule.name.asStr),
    ("state", .string (stateName (s.running.lookup rule.id))),
    ("uptime_seconds", .int uptimeSeconds),
    ("reconnect_count", .int ((info.map RuntimeInfo.reconnectCount).getD 0)),
    ("error_kind", (lastError.map fun e ↦ Value.string e.kind.asStr).getD .null),
    ("last_error", (lastError.map fun e ↦ Value.string e.message).getD .null)]

def countEntries (s : State) (kind : Attempt → Bool) : ℕ :=
  s.running.entries.countP fun entry ↦ kind entry.2

def Attempt.isStarting : Attempt → Bool
  | .starting _ => true
  | _ => false

/-- `Status`. -/
def status (now : ℕ) (s : State) : Value :=
  .object [("rules", .int s.rules.length), ("active", .int (countEntries s Attempt.isActive)),
    ("starting", .int (countEntries s Attempt.isStarting)),
    ("forwards", .array (s.rules.map (forwardStatus crates now s)))]

/-! ## The handler -/

/-- `dispatch`. Starting, stopping and editing are handled elsewhere and do not come here. -/
def dispatch (faults : SaveFaults) (now : ℕ) (request : Request) (s : State) : Handled :=
  match request.operation with
  | .forwardList => (forwardList crates s, [], s)
  | .forwardAdd => forwardAdd crates faults request.payload s
  | .forwardImport => forwardImport crates faults request.payload s
  | .forwardRemove => forwardRemove crates faults request.payload s
  | .settingsGet => (.ok (encodeSettings s.settings), [], s)
  | .settingsUpdate => settingsUpdate crates faults request.payload s
  | .status => (.ok (status crates now s), [], s)
  | .subscribe => (.ok (.object [("subscribed", .bool true)]), [], s)
  | _ => (.error (.unavailable, "operation is not handled by the daemon yet"), [], s)

end Dispatch

end TunnelDeck
