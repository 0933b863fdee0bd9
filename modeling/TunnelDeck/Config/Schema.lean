import TunnelDeck.Domain.Validation
import TunnelDeck.Text.Hex
import TunnelDeck.Text.Json

/-!
# The configuration contract

The types that cross the boundary of the daemon: settings, the wire form of a rule, and the two
versions of the configuration document. A wire rule is what a client sends and what the document
stores; its texts are unchecked.

The text formats themselves belong to third-party crates. `Crates` names the functions the daemon
calls and `Crates.Faithful` states what it relies on: a UUID is read back from the text it is
printed as, and a document from the TOML text it is encoded as.
-/

namespace TunnelDeck

open Json (Value)

/-- `SCHEMA_VERSION`. -/
def schemaVersion : ℕ := 2

/-! ## Settings -/

inductive Theme where
  | system
  | dark
  | light
  deriving DecidableEq

inductive LogLevel where
  | error
  | warn
  | info
  | debug
  | trace
  deriving DecidableEq

structure Settings where
  theme : Theme
  logLevel : LogLevel
  defaultReconnect : Bool
  defaultAutoStart : Bool
  deriving DecidableEq

/-- `Settings::default`. -/
def Settings.default : Settings where
  theme := .system
  logLevel := .info
  defaultReconnect := false
  defaultAutoStart := false

def Theme.variants : List (String × Theme) :=
  [("system", .system), ("dark", .dark), ("light", .light)]

def LogLevel.variants : List (String × LogLevel) :=
  [("error", .error), ("warn", .warn), ("info", .info), ("debug", .debug), ("trace", .trace)]

def variantName {α : Type} [DecidableEq α] (variants : List (String × α)) (a : α) : String :=
  ((variants.find? fun v ↦ v.2 = a).map Prod.fst).getD ""

/-! ## Rules and documents -/

/-- The wire form of a rule. -/
inductive WireRule where
  | localRule (id : Uuid) (name sshHostAlias bindAddress : String) (bindPort : UInt16)
      (destinationHost : String) (destinationPort : UInt16) (autoStart reconnect : Bool)
  | remoteRule (id : Uuid) (name sshHostAlias bindAddress : String) (bindPort : UInt16)
      (destinationHost : String) (destinationPort : UInt16) (autoStart reconnect : Bool)
  | dynamicRule (id : Uuid) (name sshHostAlias bindAddress : String) (bindPort : UInt16)
      (autoStart reconnect : Bool)
  deriving DecidableEq

structure ConfigV2 where
  schemaVersion : ℕ
  rules : List WireRule
  settings : Settings
  deriving DecidableEq

structure ConfigV1 where
  schemaVersion : ℕ
  rules : List WireRule
  deriving DecidableEq

/-! ## The crates behind the texts -/

/-- The types that a payload or a result is decoded as. -/
inductive JsonType where
  | rule
  | rules
  | importPayload
  | editPayload
  | settings
  | selectorName
  deriving DecidableEq

/-- The functions of the `uuid`, `toml` and `serde_json` crates that the daemon calls, and the table
behind the `Debug` of a text. An error is its text. -/
structure Crates where
  /-- Reading a UUID in any spelling the crate accepts. -/
  parseUuid : String → Option Uuid
  /-- The `Display` of a UUID. -/
  formatUuid : Uuid → String
  /-- The `schema_version` of a document, its other fields ignored. -/
  tomlHeader : String → Except String ℕ
  /-- Decoding a document of version 1. -/
  tomlV1 : String → Except String ConfigV1
  /-- Decoding a document of version 2. -/
  tomlV2 : String → Except String ConfigV2
  /-- `to_string_pretty`. -/
  tomlToString : ConfigV2 → Except String String
  /-- What is said of a JSON value that does not decode as the type. -/
  jsonError : JsonType → Value → String
  /-- The characters that `Debug` prints as they are. -/
  printable : Char → Bool

/-- What the daemon relies on. -/
structure Crates.Faithful (crates : Crates) : Prop where
  /-- A UUID is read back from its `Display`. -/
  parse_format : ∀ id, crates.parseUuid (crates.formatUuid id) = some id
  /-- A document is read back from its encoding, its version from the header too. -/
  decode_encode : ∀ config text, config.schemaVersion = schemaVersion →
    crates.tomlToString config = .ok text →
      crates.tomlHeader text = .ok config.schemaVersion ∧ crates.tomlV2 text = .ok config

/-- The crates on a finite table of documents of version 2 and their texts. UUIDs are read and
printed in full, and `Debug` prints ASCII. -/
def Crates.ofTable (table : List (ConfigV2 × String)) : Crates where
  parseUuid := Text.parseUuid
  formatUuid := Text.formatUuid
  tomlHeader text :=
    match table.find? fun entry ↦ entry.2 = text with
    | some entry => .ok entry.1.schemaVersion
    | none => .error "missing field schema_version"
  tomlV1 _ := .error "missing field rules"
  tomlV2 text :=
    match table.find? fun entry ↦ entry.2 = text with
    | some entry => .ok entry.1
    | none => .error "missing field schema_version"
  tomlToString config :=
    match table.find? fun entry ↦ entry.1 = config with
    | some entry => .ok entry.2
    | none => .error "unsupported value"
  jsonError
    | .selectorName, .object [] => "missing field `rule_name`"
    | _, _ => "invalid payload"
  printable c := 32 ≤ c.toNat && c.toNat < 127

theorem Crates.ofTable_decode {table : List (ConfigV2 × String)}
    (h : (table.map Prod.snd).Nodup) {config : ConfigV2} {text : String}
    (henc : (Crates.ofTable table).tomlToString config = .ok text) :
    (table.find? fun entry ↦ entry.2 = text) = some (config, text) := by
  cases hconfig : table.find? fun entry ↦ entry.1 = config with
  | none => simp [ofTable, hconfig] at henc
  | some entry =>
    have htext : entry.2 = text := by simpa [ofTable, hconfig] using henc
    have hfst : entry.1 = config := by simpa using List.find?_some hconfig
    have hmem := List.mem_of_find?_eq_some hconfig
    have hsome : (table.find? fun entry ↦ entry.2 = text).isSome = true := by
      rw [List.find?_isSome]
      exact ⟨entry, hmem, decide_eq_true htext⟩
    obtain ⟨found, hfound⟩ := Option.isSome_iff_exists.mp hsome
    have hsnd : found.2 = text := by simpa using List.find?_some hfound
    have hsame : found = entry :=
      List.inj_on_of_nodup_map h (List.mem_of_find?_eq_some hfound) hmem (hsnd.trans htext.symm)
    rw [hfound, hsame, ← hfst, ← htext]

theorem Crates.ofTable_faithful {table : List (ConfigV2 × String)}
    (h : (table.map Prod.snd).Nodup) : (Crates.ofTable table).Faithful := by
  refine ⟨fun id ↦ ?_, fun config text _ henc ↦ ?_⟩
  · simp only [ofTable]
    exact Text.parseUuid_formatUuid id
  · have hfind := ofTable_decode h henc
    simp only [ofTable, hfind]
    exact ⟨trivial, trivial⟩

/-! ## Decoding payloads -/

section Decoders

variable (crates : Crates)

def decodeUuid : Value → Option Uuid :=
  Json.decodeVia crates.parseUuid

def encodeUuid (id : Uuid) : Value := .string (crates.formatUuid id)

theorem decodeUuid_encodeUuid {crates : Crates} (h : crates.Faithful) (id : Uuid) :
    decodeUuid crates (encodeUuid crates id) = some id := by
  simp [decodeUuid, encodeUuid, Json.decodeVia, h.parse_format]

/-- The fields that a local and a remote rule have besides the tag. -/
def endpointFields : List String :=
  ["id", "name", "ssh_host_alias", "bind_address", "bind_port", "destination_host",
    "destination_port", "auto_start", "reconnect"]

/-- The fields that a dynamic rule has besides the tag. -/
def dynamicFields : List String :=
  ["id", "name", "ssh_host_alias", "bind_address", "bind_port", "auto_start", "reconnect"]

/-- The fields of a local or a remote rule, put together by the constructor of its variant. -/
def decodeEndpoints
    (variant : Uuid → String → String → String → UInt16 → String → UInt16 → Bool → Bool → WireRule)
    (v : Value) : Option WireRule := do
  let fields ← Json.structFields endpointFields v
  let id ← Json.field fields "id" (decodeUuid crates)
  let name ← Json.field fields "name" Json.decodeString
  let sshHostAlias ← Json.field fields "ssh_host_alias" Json.decodeString
  let bindAddress ← Json.field fields "bind_address" Json.decodeString
  let bindPort ← Json.field fields "bind_port" Json.decodeU16
  let destinationHost ← Json.field fields "destination_host" Json.decodeString
  let destinationPort ← Json.field fields "destination_port" Json.decodeU16
  let autoStart ← Json.field fields "auto_start" Json.decodeBool
  let reconnect ← Json.field fields "reconnect" Json.decodeBool
  return variant id name sshHostAlias bindAddress bindPort destinationHost destinationPort
    autoStart reconnect

def decodeDynamic (v : Value) : Option WireRule := do
  let fields ← Json.structFields dynamicFields v
  let id ← Json.field fields "id" (decodeUuid crates)
  let name ← Json.field fields "name" Json.decodeString
  let sshHostAlias ← Json.field fields "ssh_host_alias" Json.decodeString
  let bindAddress ← Json.field fields "bind_address" Json.decodeString
  let bindPort ← Json.field fields "bind_port" Json.decodeU16
  let autoStart ← Json.field fields "auto_start" Json.decodeBool
  let reconnect ← Json.field fields "reconnect" Json.decodeBool
  return .dynamicRule id name sshHostAlias bindAddress bindPort autoStart reconnect

/-- A wire rule from JSON, tagged by `kind`. -/
def decodeRule (v : Value) : Option WireRule := do
  let (kind, rest) ← Json.tagged "kind" v
  if kind = "local" then decodeEndpoints crates .localRule rest
  else if kind = "remote" then decodeEndpoints crates .remoteRule rest
  else if kind = "dynamic" then decodeDynamic crates rest
  else none

def encodeRule : WireRule → Value
  | .localRule id name sshHostAlias bindAddress bindPort destinationHost destinationPort autoStart
      reconnect =>
    .object [("kind", .string "local"), ("id", encodeUuid crates id), ("name", .string name),
      ("ssh_host_alias", .string sshHostAlias), ("bind_address", .string bindAddress),
      ("bind_port", .int bindPort.toNat), ("destination_host", .string destinationHost),
      ("destination_port", .int destinationPort.toNat), ("auto_start", .bool autoStart),
      ("reconnect", .bool reconnect)]
  | .remoteRule id name sshHostAlias bindAddress bindPort destinationHost destinationPort autoStart
      reconnect =>
    .object [("kind", .string "remote"), ("id", encodeUuid crates id), ("name", .string name),
      ("ssh_host_alias", .string sshHostAlias), ("bind_address", .string bindAddress),
      ("bind_port", .int bindPort.toNat), ("destination_host", .string destinationHost),
      ("destination_port", .int destinationPort.toNat), ("auto_start", .bool autoStart),
      ("reconnect", .bool reconnect)]
  | .dynamicRule id name sshHostAlias bindAddress bindPort autoStart reconnect =>
    .object [("kind", .string "dynamic"), ("id", encodeUuid crates id), ("name", .string name),
      ("ssh_host_alias", .string sshHostAlias), ("bind_address", .string bindAddress),
      ("bind_port", .int bindPort.toNat), ("auto_start", .bool autoStart),
      ("reconnect", .bool reconnect)]

theorem decodeU16_toNat (n : UInt16) : Json.decodeU16 (.int n.toNat) = some n := by
  have h := n.toNat_lt
  rw [Json.decodeU16, if_pos (by omega)]
  simp

theorem decodeRule_encodeRule {crates : Crates} (h : crates.Faithful) (wire : WireRule) :
    decodeRule crates (encodeRule crates wire) = some wire := by
  cases wire <;>
    simp [encodeRule, decodeRule, decodeEndpoints, decodeDynamic, Json.tagged, Json.structFields,
      Json.field, List.lookup_cons, Json.decodeString, Json.decodeBool, decodeUuid_encodeUuid h,
      decodeU16_toNat, endpointFields, dynamicFields]

/-- The payload of `ForwardImport`. -/
def decodeImport (payload : Value) : Option (List WireRule) := do
  let fields ← Json.structFields ["rules"] payload
  Json.field fields "rules" (Json.decodeList (decodeRule crates))

/-- The payload of `ForwardEditActive`: the rule the client saw and the one to put in its place. -/
def decodeEdit (payload : Value) : Option (WireRule × WireRule) := do
  let fields ← Json.structFields ["expected", "replacement"] payload
  let expected ← Json.field fields "expected" (decodeRule crates)
  let replacement ← Json.field fields "replacement" (decodeRule crates)
  return (expected, replacement)

end Decoders

def decodeSettings (payload : Value) : Option Settings := do
  let fields ← Json.structFields
    ["theme", "log_level", "default_reconnect", "default_auto_start"] payload
  let theme ← Json.field fields "theme" (Json.decodeVariant Theme.variants)
  let logLevel ← Json.field fields "log_level" (Json.decodeVariant LogLevel.variants)
  let defaultReconnect ← Json.field fields "default_reconnect" Json.decodeBool
  let defaultAutoStart ← Json.field fields "default_auto_start" Json.decodeBool
  return { theme, logLevel, defaultReconnect, defaultAutoStart }

def encodeSettings (settings : Settings) : Value :=
  .object [("theme", .string (variantName Theme.variants settings.theme)),
    ("log_level", .string (variantName LogLevel.variants settings.logLevel)),
    ("default_reconnect", .bool settings.defaultReconnect),
    ("default_auto_start", .bool settings.defaultAutoStart)]

end TunnelDeck
