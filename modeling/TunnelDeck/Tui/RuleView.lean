import TunnelDeck.Daemon.Dispatch

/-!
# Rules as the terminal interface shows them

The terminal interface keeps a rule as one flat record, `RuleView`, whose destination is optional
and whose kind is a text. It is filled from the wire rules that `ForwardList` gives and from the
runtime states that `Status` gives, and it is turned back into a wire rule when the rule is edited.

## Main results

* `toWire_fromWire`: a wire rule survives the view.
* `toWire_applyRuntimeStatus`: the runtime states change nothing that goes back on the wire.
* `loadRules_spec`: the views that are loaded from a list show the rules of the list in order.
-/

namespace TunnelDeck.Tui

open Json (Value)

/-- `RuleView`. -/
structure RuleView where
  id : Uuid
  name : String
  host : String
  bindAddress : String
  bindPort : UInt16
  destinationPort : Option UInt16
  destinationHost : Option String
  state : String
  kind : String
  autoStart : Bool
  reconnect : Bool
  uptimeSeconds : ℕ
  reconnectCount : ℕ
  lastError : Option String
  deriving DecidableEq

namespace RuleView

/-- `from_wire`. -/
def fromWire : WireRule → RuleView
  | .localRule id name sshHostAlias bindAddress bindPort destinationHost destinationPort autoStart
      reconnect =>
    { id, name, host := sshHostAlias, bindAddress, bindPort
      destinationPort := some destinationPort
      destinationHost := some destinationHost
      state := "stopped"
      kind := "local"
      autoStart, reconnect
      uptimeSeconds := 0
      reconnectCount := 0
      lastError := none }
  | .remoteRule id name sshHostAlias bindAddress bindPort destinationHost destinationPort autoStart
      reconnect =>
    { id, name, host := sshHostAlias, bindAddress, bindPort
      destinationPort := some destinationPort
      destinationHost := some destinationHost
      state := "stopped"
      kind := "remote"
      autoStart, reconnect
      uptimeSeconds := 0
      reconnectCount := 0
      lastError := none }
  | .dynamicRule id name sshHostAlias bindAddress bindPort autoStart reconnect =>
    { id, name, host := sshHostAlias, bindAddress, bindPort
      destinationPort := none
      destinationHost := none
      state := "stopped"
      kind := "dynamic"
      autoStart, reconnect
      uptimeSeconds := 0
      reconnectCount := 0
      lastError := none }

/-- `to_wire`. A kind that is neither of the two named here is local. -/
def toWire (view : RuleView) : WireRule :=
  match view.kind with
  | "remote" =>
    .remoteRule view.id view.name view.host view.bindAddress view.bindPort
      (view.destinationHost.getD "") (view.destinationPort.getD 0) view.autoStart view.reconnect
  | "dynamic" =>
    .dynamicRule view.id view.name view.host view.bindAddress view.bindPort view.autoStart
      view.reconnect
  | _ =>
    .localRule view.id view.name view.host view.bindAddress view.bindPort
      (view.destinationHost.getD "") (view.destinationPort.getD 0) view.autoStart view.reconnect

/-- **A wire rule survives the view.** -/
@[simp] theorem toWire_fromWire (wire : WireRule) : (fromWire wire).toWire = wire := by
  rcases wire with _ | _ | _
  · rfl
  · rfl
  · rfl

end RuleView

/-! ## Loading -/

section Load

variable (crates : Crates)

/-- A view with the runtime state that the status reports for its rule. -/
def applyState (states : List Value) (rule : RuleView) : Except String RuleView :=
  match states.find? fun state ↦ (state.get "rule_id").asStr = some (crates.formatUuid rule.id) with
  | none => .error "daemon status did not include a listed rule"
  | some state =>
    match (state.get "state").asStr with
    | none => .error "daemon status did not include a rule state"
    | some name =>
      .ok { rule with
        state := name
        uptimeSeconds := (state.get "uptime_seconds").asU64.getD 0
        reconnectCount := (state.get "reconnect_count").asU64.getD 0
        lastError := (state.get "last_error").asStr }

/-- `apply_runtime_status`. -/
def applyRuntimeStatus (rules : List RuleView) (status : Value) : Except String (List RuleView) :=
  match (status.get "forwards").asArray with
  | none => .error "daemon status did not include forwarding states"
  | some states => rules.mapM (applyState crates states)

/-- `load_rules`, from the results of `ForwardList` and of `Status`. -/
def loadRules (listed status : Value) : Except String (List RuleView) :=
  match Json.decodeList (decodeRule crates) listed with
  | none => .error (crates.jsonError .rules listed)
  | some wire => applyRuntimeStatus crates (wire.map RuleView.fromWire) status

/-- The payload of `ForwardEditActive`: the rule as the client saw it and its replacement. -/
def editPayload (expected : WireRule) (replacement : Value) : Value :=
  .object [("expected", encodeRule crates expected), ("replacement", replacement)]

end Load

variable {crates : Crates}

theorem toWire_applyState {states : List Value} {rule rule' : RuleView}
    (h : applyState crates states rule = .ok rule') : rule'.toWire = rule.toWire := by
  unfold applyState at h
  split at h
  · cases h
  · split at h
    · cases h
    · cases h
      rfl

theorem toWire_mapM_applyState {states : List Value} {rules views : List RuleView}
    (h : rules.mapM (applyState crates states) = .ok views) :
    views.map RuleView.toWire = rules.map RuleView.toWire := by
  induction rules generalizing views with
  | nil =>
    cases h
    rfl
  | cons rule rules ih =>
    rw [List.mapM_cons] at h
    rcases hrule : applyState crates states rule with e | view
    · rw [hrule] at h
      cases h
    · rcases hrules : rules.mapM (applyState crates states) with e | rest
      · rw [hrule, hrules] at h
        cases h
      · rw [hrule, hrules] at h
        cases h
        rw [List.map_cons, List.map_cons, toWire_applyState hrule, ih hrules]

/-- The runtime states change nothing that goes back on the wire. -/
theorem toWire_applyRuntimeStatus {rules views : List RuleView} {status : Value}
    (h : applyRuntimeStatus crates rules status = .ok views) :
    views.map RuleView.toWire = rules.map RuleView.toWire := by
  unfold applyRuntimeStatus at h
  split at h
  · cases h
  · exact toWire_mapM_applyState h

/-! ## Views of a list -/

theorem decodeList_encodeRule (hcrates : crates.Faithful) (wires : List WireRule) :
    Json.decodeList (decodeRule crates) (.array (wires.map (encodeRule crates))) = some wires := by
  rw [Json.decodeList]
  induction wires with
  | nil => rfl
  | cons wire wires ih =>
    rw [List.map_cons, List.mapM_cons, decodeRule_encodeRule hcrates, ih]
    rfl

theorem forwardList_eq_ok {s : State} {listed : Value} (h : forwardList crates s = .ok listed) :
    listed = .array ((s.rules.map WireRule.ofRule).map (encodeRule crates)) := by
  unfold forwardList ConfigV2.fromDomain at h
  split at h
  · cases h
  · rename_i config hconfig
    cases h
    split at hconfig <;> cases hconfig
    rfl

/-- **The views that are loaded from a list** show its rules in order, whatever the status says. -/
theorem loadRules_spec (hcrates : crates.Faithful) {s : State} {listed status : Value}
    {views : List RuleView} (hlist : forwardList crates s = .ok listed)
    (h : loadRules crates listed status = .ok views) :
    views.map RuleView.toWire = s.rules.map WireRule.ofRule := by
  rw [forwardList_eq_ok hlist, loadRules, decodeList_encodeRule hcrates] at h
  have hround : RuleView.toWire ∘ RuleView.fromWire = id := funext RuleView.toWire_fromWire
  rw [toWire_applyRuntimeStatus h, List.map_map, hround, List.map_id]

theorem applyState_status {now : ℕ} {s : State} {rule : Rule} (h : rule ∈ s.rules)
    {view : RuleView} (hid : view.id = rule.id) :
    ∃ view', applyState crates (s.rules.map (forwardStatus crates now s)) view = .ok view' := by
  rcases hfind : (s.rules.map (forwardStatus crates now s)).find? fun state ↦
      (state.get "rule_id").asStr = some (crates.formatUuid view.id) with _ | state
  · -- the entry of the rule itself would be found
    have hnone := List.find?_eq_none.mp hfind _ (List.mem_map_of_mem h)
    refine absurd ?_ hnone
    rw [hid, decide_eq_true_iff]
    rfl
  · obtain ⟨other, -, rfl⟩ := List.mem_map.mp (List.mem_of_find?_eq_some hfind)
    exact ⟨_, by rw [applyState, hfind]; rfl⟩

theorem loadRules_status (hcrates : crates.Faithful) {s : State} {listed : Value} (now : ℕ)
    (hlist : forwardList crates s = .ok listed) :
    ∃ views, loadRules crates listed (status crates now s) = .ok views := by
  have hstates : ∀ rules : List Rule, (∀ rule ∈ rules, rule ∈ s.rules) →
      ∃ views, ((rules.map WireRule.ofRule).map RuleView.fromWire).mapM
        (applyState crates (s.rules.map (forwardStatus crates now s))) = Except.ok views := by
    intro rules hrules
    induction rules with
    | nil => exact ⟨[], rfl⟩
    | cons rule rules ih =>
      have hid : (RuleView.fromWire (WireRule.ofRule rule)).id = rule.id := by
        rw [WireRule.ofRule]
        split <;> rfl
      obtain ⟨view, hview⟩ := applyState_status
        (hrules rule List.mem_cons_self) hid
      obtain ⟨views, hviews⟩ := ih fun r hr ↦ hrules r (List.mem_cons_of_mem _ hr)
      refine ⟨view :: views, ?_⟩
      rw [List.map_cons, List.map_cons, List.mapM_cons, hview, hviews]
      rfl
  obtain ⟨views, hviews⟩ := hstates s.rules fun _ h ↦ h
  refine ⟨views, ?_⟩
  rw [forwardList_eq_ok hlist, loadRules, decodeList_encodeRule hcrates]
  exact hviews

end TunnelDeck.Tui
