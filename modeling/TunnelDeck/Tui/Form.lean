import TunnelDeck.Daemon.Configuration
import TunnelDeck.Text.Decimal
import TunnelDeck.Tui.RuleView

/-!
# The form of a rule

The form shows the name and two ports of a rule. For a remote rule the first port is that of the
listener, for the others it is that of the destination. The JSON that is saved is built anew from
what the form shows, with the loopback address for the bind address and the destination host, and
when the form keeps the rule it was opened with, these two are put back from there. It keeps the
rule only when an active rule is edited.

## Main result

`form_keeps_iff`: what is saved without a key pressed is the rule exactly when the form kept it or
the two addresses are loopback anyway.
-/

namespace TunnelDeck.Tui

open Json (Value)

/-- `LOOPBACK`. -/
def loopback : String := "127.0.0.1"

/-- `Form`. -/
structure Form where
  id : Uuid
  editing : Bool
  activeOriginal : Option WireRule
  host : String
  name : String
  remotePort : String
  localPort : String
  field : ℕ
  suggestion : Option UInt16
  error : Option String
  kind : String
  autoStart : Bool
  reconnect : Bool

namespace Form

/-! ## Opening -/

def portText (port : Option UInt16) : String :=
  (port.map fun port ↦ toString port.toNat).getD ""

/-- `Form::edit`. -/
def edit (rule : RuleView) : Form where
  id := rule.id
  editing := true
  activeOriginal := if rule.state = "active" then some rule.toWire else none
  host := rule.host
  name := rule.name
  remotePort :=
    if rule.kind = "remote" then toString rule.bindPort.toNat else portText rule.destinationPort
  localPort :=
    if rule.kind = "remote" then portText rule.destinationPort else toString rule.bindPort.toNat
  field := 0
  suggestion := none
  error := none
  kind := rule.kind
  autoStart := rule.autoStart
  reconnect := rule.reconnect

/-- `Form::duplicate`, under a new id. -/
def duplicate (fresh : Uuid) (rule : RuleView) : Form :=
  { edit rule with
    id := fresh
    editing := false
    activeOriginal := none
    name := rule.name ++ " copy" }

/-! ## Saving -/

/-- The number that a port field is read as. -/
def portOf (text : String) : UInt16 := (Text.parseU16 text.toList).getD 0

/-- `port_available`, where `bindable` says what can be bound. -/
def portAvailable (bindable : String → UInt16 → Bool) (address : String) (port : UInt16) : Bool :=
  port ≠ 0 && bindable address port

/-- `next_available_port`. -/
def nextAvailablePort (bindable : String → UInt16 → Bool) (address : String) (port : UInt16) :
    Option UInt16 :=
  let first := min (port.toNat + 1) 65535
  let candidates := (List.range' first (65536 - first)).take 100
  (candidates.map UInt16.ofNat).find? (portAvailable bindable address)

/-- `own_active_port`. -/
def ownActivePort (form : Form) (port : UInt16) : Bool :=
  (match form.activeOriginal with
    | some (.localRule _ _ _ _ bindPort _ _ _ _) => decide (bindPort = port)
    | some (.dynamicRule _ _ _ _ bindPort _ _) => decide (bindPort = port)
    | some (.remoteRule ..) | none => false) && form.kind ≠ "remote"

/-- `probe_address`. -/
def probeAddress (form : Form) : String :=
  let address :=
    match form.activeOriginal with
    | some (.localRule _ _ _ bindAddress _ _ _ _ _) =>
      if form.kind = "local" then some bindAddress else none
    | some (.dynamicRule _ _ _ bindAddress _ _ _) =>
      if form.kind = "dynamic" then some bindAddress else none
    | some (.remoteRule ..) | none => none
  match address with
  | none => loopback
  | some address => if address = "*" then "0.0.0.0" else address

/-- The check that the rule of the form can be built. -/
def validation (form : Form) : Except ValidationError Rule :=
  let remote := portOf form.remotePort
  let locally := portOf form.localPort
  if form.kind = "remote" then
    Rule.newRemote form.id form.name form.host remote loopback locally
  else if form.kind = "dynamic" then Rule.newDynamic form.id form.name form.host locally
  else Rule.newLocal form.id form.name form.host locally loopback remote

section Payload

variable (crates : Crates)

def shown (form : Form) : Value :=
  let remote := portOf form.remotePort
  let locally := portOf form.localPort
  let bindPort := if form.kind = "remote" then remote else locally
  let value := Value.object [("kind", .string form.kind), ("id", encodeUuid crates form.id),
    ("name", .string form.name), ("ssh_host_alias", .string form.host),
    ("bind_address", .string loopback), ("bind_port", .int bindPort.toNat),
    ("auto_start", .bool form.autoStart), ("reconnect", .bool form.reconnect)]
  if form.kind = "dynamic" then value
  else
    (value.set "destination_host" (.string loopback)).set "destination_port"
      (.int (if form.kind = "remote" then locally else remote).toNat)

/-- The JSON with the addresses of the rule that the form kept. -/
def restored (form : Form) (value : Value) : Value :=
  match form.activeOriginal with
  | none => value
  | some original =>
    let original := encodeRule crates original
    if original.get "kind" = value.get "kind" then
      let value := value.set "bind_address" (original.get "bind_address")
      if form.kind = "dynamic" then value
      else value.set "destination_host" (original.get "destination_host")
    else value

/-- `Form::payload`: what is saved, and the form after it. -/
def payload (bindable : String → UInt16 → Bool) (form : Form) : Option Value × Form :=
  let locally := portOf form.localPort
  match form.validation with
  | .error e => (none, { form with error := some e.toString })
  | .ok _ =>
    if form.kind ≠ "remote" ∧ form.ownActivePort locally = false ∧
        portAvailable bindable form.probeAddress locally = false then
      (none, { form with
        suggestion := nextAvailablePort bindable form.probeAddress locally
        error := some ("ローカルポート " ++ toString locally.toNat ++
          " は使用中です。候補を選択してください") })
    else (some (restored crates form (shown crates form)), form)

end Payload

/-! ## What is saved -/

variable {crates : Crates}

def kinds : List String := ["local", "remote", "dynamic"]

/-- The wire rule of what the form shows, with two addresses. -/
def wire (form : Form) (bindAddress destinationHost : String) : WireRule :=
  let remote := portOf form.remotePort
  let locally := portOf form.localPort
  if form.kind = "remote" then
    .remoteRule form.id form.name form.host bindAddress remote destinationHost locally
      form.autoStart form.reconnect
  else if form.kind = "dynamic" then
    .dynamicRule form.id form.name form.host bindAddress locally form.autoStart form.reconnect
  else
    .localRule form.id form.name form.host bindAddress locally destinationHost remote
      form.autoStart form.reconnect

theorem restored_of_payload {bindable : String → UInt16 → Bool} {form : Form} {v : Value}
    (h : (payload crates bindable form).1 = some v) :
    v = restored crates form (shown crates form) := by
  rw [payload] at h
  split at h
  · cases h
  · split at h
    · cases h
    · exact (Option.some.inj h).symm

theorem decodeRule_shown (hcrates : crates.Faithful) {form : Form} (hkind : form.kind ∈ kinds) :
    decodeRule crates (shown crates form) = some (form.wire loopback loopback) := by
  simp only [kinds, List.mem_cons, List.not_mem_nil, or_false] at hkind
  rcases hkind with hkind | hkind | hkind <;>
    simp [shown, wire, hkind, Value.set, Value.setField, decodeRule, decodeEndpoints,
      decodeDynamic, Json.tagged, Json.structFields, Json.field, List.lookup_cons,
      Json.decodeString, Json.decodeBool, decodeUuid_encodeUuid hcrates, decodeU16_toNat,
      endpointFields, dynamicFields]

theorem decodeRule_restored (hcrates : crates.Faithful) {form : Form} (hkind : form.kind ∈ kinds)
    {bindAddress destinationHost : String}
    (horiginal : form.activeOriginal = some (form.wire bindAddress destinationHost)) :
    decodeRule crates (restored crates form (shown crates form)) =
      some (form.wire bindAddress destinationHost) := by
  rw [restored, horiginal]
  simp only [kinds, List.mem_cons, List.not_mem_nil, or_false] at hkind
  rcases hkind with hkind | hkind | hkind <;>
    simp [shown, wire, hkind, encodeRule, Value.get, Value.set, Value.setField, decodeRule,
      decodeEndpoints, decodeDynamic, Json.tagged, Json.structFields, Json.field, List.lookup_cons,
      Json.decodeString, Json.decodeBool, decodeUuid_encodeUuid hcrates, decodeU16_toNat,
      endpointFields, dynamicFields]

/-! ## What the form was opened with -/

theorem portOf_repr (port : UInt16) : portOf port.toNat.repr = port := by
  rw [← Nat.toString_eq_repr, portOf, Text.parseU16_toString, Option.getD_some]

theorem portOf_portText (port : Option UInt16) : portOf (portText port) = port.getD 0 := by
  cases port with
  | none => decide
  | some port => exact portOf_repr port

/-- The form shows every field of the rule but two. -/
theorem wire_edit {rule : RuleView} (hkind : rule.kind ∈ kinds) :
    (edit rule).wire rule.bindAddress (rule.destinationHost.getD "") = rule.toWire := by
  simp only [kinds, List.mem_cons, List.not_mem_nil, or_false] at hkind
  rcases hkind with hkind | hkind | hkind <;>
    simp [wire, edit, RuleView.toWire, hkind, portOf_repr, portOf_portText]

def renamed (fresh : Uuid) (name : String) (rule : RuleView) : RuleView :=
  { rule with id := fresh, name }

theorem wire_duplicate (fresh : Uuid) (rule : RuleView) :
    (duplicate fresh rule).wire = (edit (renamed fresh (rule.name ++ " copy") rule)).wire :=
  rfl

/-- The two fields that the form does not show are loopback addresses. -/
def HiddenLoopback (rule : RuleView) : Prop :=
  rule.bindAddress = loopback ∧
    (rule.kind = "dynamic" ∨ rule.destinationHost.getD "" = loopback)

theorem wire_loopback_iff {rule : RuleView} (hkind : rule.kind ∈ kinds) :
    (edit rule).wire loopback loopback = rule.toWire ↔ HiddenLoopback rule := by
  rw [← wire_edit hkind, HiddenLoopback]
  simp only [kinds, List.mem_cons, List.not_mem_nil, or_false] at hkind
  rcases hkind with hkind | hkind | hkind <;> simp [wire, edit, hkind, eq_comm]

/-- **What the form keeps.** A rule that is opened and saved without a key pressed is saved as it is
exactly when it was active, or when its bind address and its destination host are loopback. A
duplicate is saved as the rule under a new id and name exactly when the two are loopback. -/
theorem form_keeps_iff (hcrates : crates.Faithful) (bindable : String → UInt16 → Bool)
    (fresh : Uuid) {rule : RuleView} (hkind : rule.kind ∈ kinds) :
    (∀ v, (payload crates bindable (edit rule)).1 = some v →
      (decodeRule crates v = some rule.toWire ↔ rule.state = "active" ∨ HiddenLoopback rule)) ∧
    ∀ v, (payload crates bindable (duplicate fresh rule)).1 = some v →
      (decodeRule crates v = some (renamed fresh (rule.name ++ " copy") rule).toWire ↔
        HiddenLoopback rule) := by
  refine ⟨fun v hv ↦ ?_, fun v hv ↦ ?_⟩
  · rw [restored_of_payload hv]
    by_cases hactive : rule.state = "active"
    · have horiginal : (edit rule).activeOriginal =
          some ((edit rule).wire rule.bindAddress (rule.destinationHost.getD "")) := by
        rw [wire_edit hkind]
        exact if_pos hactive
      rw [decodeRule_restored hcrates hkind horiginal, wire_edit hkind]
      simp [hactive]
    · have hnone : (edit rule).activeOriginal = none := if_neg hactive
      rw [restored, hnone, decodeRule_shown hcrates hkind, Option.some.injEq,
        wire_loopback_iff hkind]
      simp [hactive]
  · rw [restored_of_payload hv]
    have hnone : (duplicate fresh rule).activeOriginal = none := rfl
    rw [restored, hnone, decodeRule_shown hcrates hkind, Option.some.injEq, wire_duplicate]
    have hrenamed : (renamed fresh (rule.name ++ " copy") rule).kind ∈ kinds := hkind
    exact wire_loopback_iff hrenamed

end Form

open Form

/-- A stopped rule to a host behind the SSH host. -/
def exampleView : RuleView where
  id := 1
  name := "database"
  host := "production"
  bindAddress := "127.0.0.1"
  bindPort := 5433
  destinationPort := some 5432
  destinationHost := some "db.internal"
  state := "stopped"
  kind := "local"
  autoStart := false
  reconnect := true
  uptimeSeconds := 0
  reconnectCount := 0
  lastError := none

/-- While it is active, the rule is saved as it is. -/
theorem form_keeps_iff_exampleView :
    ∃ v, (payload exampleCrates (fun _ _ ↦ true)
        (edit { exampleView with state := "active" })).1 = some v ∧
      decodeRule exampleCrates v = some exampleView.toWire := by
  refine ⟨_, rfl, ?_⟩
  have hkind : { exampleView with state := "active" }.kind ∈ kinds := by decide
  exact ((form_keeps_iff exampleCrates_faithful (fun _ _ ↦ true) 0 hkind).1 _ rfl).mpr (Or.inl rfl)

/-- Opened and saved while it is stopped, and duplicated, the rule leads to the loopback address. -/
theorem exampleView_not_kept :
    (∃ v, (payload exampleCrates (fun _ _ ↦ true) (edit exampleView)).1 = some v ∧
      decodeRule exampleCrates v = some (.localRule 1 "database" "production" "127.0.0.1" 5433
        "127.0.0.1" 5432 false true) ∧
      decodeRule exampleCrates v ≠ some exampleView.toWire) ∧
    ∃ v, (payload exampleCrates (fun _ _ ↦ true) (duplicate 2 exampleView)).1 = some v ∧
      decodeRule exampleCrates v = some (.localRule 2 "database copy" "production" "127.0.0.1" 5433
        "127.0.0.1" 5432 false true) := by
  refine ⟨⟨_, rfl, ?_, ?_⟩, _, rfl, ?_⟩
  · decide +kernel
  · decide +kernel
  · decide +kernel

end TunnelDeck.Tui
