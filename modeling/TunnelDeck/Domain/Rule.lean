import TunnelDeck.Domain.ValidationError
import TunnelDeck.Text.IpAddr

/-!
# Forwarding rules

A rule forwards one listener through one SSH host alias. Its fields are validated newtypes: each
structure below carries the check its constructor made, so a rule with an invalid field cannot be
built, and `new` of the text of a value gives the value back.

`new` follows the order of the checks of the source, since the order decides which error a value
with several faults is refused with.
-/

namespace TunnelDeck

/-- A 128-bit UUID. `RuleId` is a transparent newtype of it. -/
abbrev Uuid := BitVec 128

/-! ## Validated fields -/

/-- `validate_text`. -/
def validateText (value : String) (field : Field) (maxCharacters : ℕ) (allowSpaces : Bool) :
    Except ValidationError Unit :=
  let cs := value.toList
  if cs = [] then .error (.empty field)
  else if Text.trim cs ≠ cs then .error (.surroundingWhitespace field)
  else if maxCharacters < cs.length then .error (.tooLong field maxCharacters)
  else if cs.any Text.isControl then .error (.controlCharacter field)
  else if ¬ allowSpaces ∧ cs.any Text.isWhitespace then .error (.whitespace field)
  else .ok ()

/-- A text without white space and control characters is only checked for its length. -/
theorem validateText_eq_ok {value : String} {maxCharacters : ℕ} (field : Field)
    (allowSpaces : Bool) (hne : value.toList ≠ []) (hlength : value.length ≤ maxCharacters)
    (h : ∀ c ∈ value.toList, Text.isControl c = false ∧ Text.isWhitespace c = false) :
    validateText value field maxCharacters allowSpaces = .ok () := by
  have htrim := Text.trim_eq_self fun c hc ↦ (h c hc).2
  have hcontrol : value.toList.any Text.isControl = false := by
    rw [List.any_eq_false]
    exact fun c hc ↦ by rw [(h c hc).1]; exact Bool.false_ne_true
  have hspace : value.toList.any Text.isWhitespace = false := by
    rw [List.any_eq_false]
    exact fun c hc ↦ by rw [(h c hc).2]; exact Bool.false_ne_true
  rw [← String.length_toList] at hlength
  simp only [validateText, hne, htrim, hcontrol, hspace, Nat.not_lt.mpr hlength, ne_eq, not_true,
    and_false, if_false, Bool.false_eq_true]

/-- The check of `RuleName::new`. -/
def checkRuleName (value : String) : Except ValidationError Unit :=
  validateText value .ruleName 128 true

/-- The check of `HostAlias::new`. -/
def checkHostAlias (value : String) : Except ValidationError Unit :=
  let cs := value.toList
  if cs = [] then .error (.empty .sshHostAlias)
  else if Text.trim cs ≠ cs then .error (.surroundingWhitespace .sshHostAlias)
  else if 255 < cs.length then .error (.tooLong .sshHostAlias 255)
  else if cs.any Text.isControl then .error (.controlCharacter .sshHostAlias)
  else if cs.any Text.isWhitespace then .error (.whitespace .sshHostAlias)
  else if cs.head? = some '-' then .error (.looksLikeOption .sshHostAlias)
  else .ok ()

/-- The check of `BindAddress::new`. -/
def checkBindAddress (value : String) : Except ValidationError Unit :=
  if value = "localhost" ∨ value = "*" ∨ (Text.IpAddr.parse value).isSome then .ok ()
  else .error (.invalidBindAddress value)

/-- The check of `DestinationHost::new`. -/
def checkDestinationHost (value : String) : Except ValidationError Unit :=
  match validateText value .destinationHost 253 false with
  | .error e => .error e
  | .ok () =>
    if ':' ∈ value.toList ∧ (Text.IpAddr.parse value).isNone then
      .error (.invalidDestinationHost value)
    else .ok ()

/-- A text that passed `check`. The four text newtypes of a rule are this one at their check. -/
structure Checked (check : String → Except ValidationError Unit) where
  /-- `as_str`. -/
  asStr : String
  /-- The check of the constructor. -/
  valid : check asStr = .ok ()
  deriving DecidableEq

namespace Checked

variable {check : String → Except ValidationError Unit}

/-- `new`: the text if it passes the check, else the error of the check. -/
def new (check : String → Except ValidationError Unit) (value : String) :
    Except ValidationError (Checked check) :=
  match h : check value with
  | .ok () => .ok ⟨value, h⟩
  | .error e => .error e

@[simp] theorem new_asStr (c : Checked check) : new check c.asStr = .ok c := by
  unfold new
  split
  · rfl
  · rename_i e h
    exact absurd (h.symm.trans c.valid) (by simp)

theorem asStr_of_new {value : String} {c : Checked check} (h : new check value = .ok c) :
    c.asStr = value := by
  unfold new at h
  split at h
  · cases h; rfl
  · cases h

end Checked

/-- A rule's name, unique in its set. -/
abbrev RuleName := Checked checkRuleName

/-- An exact OpenSSH `Host` alias passed to `ssh` as one argument. -/
abbrev HostAlias := Checked checkHostAlias

/-- The address a listener binds to. -/
abbrev BindAddress := Checked checkBindAddress

abbrev DestinationHost := Checked checkDestinationHost

/-- `BindAddress::loopback`. -/
def BindAddress.loopback : BindAddress := ⟨"127.0.0.1", by decide⟩

/-- A port, which is never zero. -/
structure Port where
  /-- `get`. -/
  get : UInt16
  /-- The port is a `NonZeroU16`. -/
  ne_zero : get ≠ 0
  deriving DecidableEq

namespace Port

def new (value : UInt16) (field : Field) : Except ValidationError Port :=
  if h : value ≠ 0 then .ok ⟨value, h⟩ else .error (.portZero field)

@[simp] theorem new_get (p : Port) (field : Field) : new p.get field = .ok p :=
  dif_pos p.ne_zero

end Port

/-! ## Rules -/

/-- A listener on this machine, forwarded to a destination behind the SSH host. -/
structure LocalForwarding where
  bindAddress : BindAddress
  bindPort : Port
  destinationHost : DestinationHost
  destinationPort : Port
  deriving DecidableEq

/-- A listener on the SSH host, forwarded to a destination behind this machine. -/
structure RemoteForwarding where
  bindAddress : BindAddress
  bindPort : Port
  destinationHost : DestinationHost
  destinationPort : Port
  deriving DecidableEq

/-- A local SOCKS listener. -/
structure DynamicForwarding where
  bindAddress : BindAddress
  bindPort : Port
  deriving DecidableEq

inductive Forwarding where
  | localForwarding (value : LocalForwarding)
  | remoteForwarding (value : RemoteForwarding)
  | dynamicForwarding (value : DynamicForwarding)
  deriving DecidableEq

/-- A forwarding rule. -/
structure Rule where
  id : Uuid
  name : RuleName
  sshHostAlias : HostAlias
  forwarding : Forwarding
  autoStart : Bool
  reconnect : Bool
  deriving DecidableEq

namespace Rule

/-- `Rule::local`. -/
def newLocal (id : Uuid) (name sshHostAlias : String) (bindPort : UInt16)
    (destinationHost : String) (destinationPort : UInt16) : Except ValidationError Rule := do
  let name ← Checked.new checkRuleName name
  let sshHostAlias ← Checked.new checkHostAlias sshHostAlias
  let bindPort ← Port.new bindPort .bindPort
  let destinationHost ← Checked.new checkDestinationHost destinationHost
  let destinationPort ← Port.new destinationPort .destinationPort
  return {
    id, name, sshHostAlias
    forwarding := .localForwarding
      { bindAddress := BindAddress.loopback, bindPort, destinationHost, destinationPort }
    autoStart := false
    reconnect := false }

/-- `Rule::remote`. -/
def newRemote (id : Uuid) (name sshHostAlias : String) (bindPort : UInt16)
    (destinationHost : String) (destinationPort : UInt16) : Except ValidationError Rule := do
  let name ← Checked.new checkRuleName name
  let sshHostAlias ← Checked.new checkHostAlias sshHostAlias
  let bindPort ← Port.new bindPort .bindPort
  let destinationHost ← Checked.new checkDestinationHost destinationHost
  let destinationPort ← Port.new destinationPort .destinationPort
  return {
    id, name, sshHostAlias
    forwarding := .remoteForwarding
      { bindAddress := BindAddress.loopback, bindPort, destinationHost, destinationPort }
    autoStart := false
    reconnect := false }

/-- `Rule::dynamic`. -/
def newDynamic (id : Uuid) (name sshHostAlias : String) (bindPort : UInt16) :
    Except ValidationError Rule := do
  let name ← Checked.new checkRuleName name
  let sshHostAlias ← Checked.new checkHostAlias sshHostAlias
  let bindPort ← Port.new bindPort .bindPort
  return {
    id, name, sshHostAlias
    forwarding := .dynamicForwarding { bindAddress := BindAddress.loopback, bindPort }
    autoStart := false
    reconnect := false }

/-- `with_bind_address`. -/
def withBindAddress (rule : Rule) (bindAddress : String) : Except ValidationError Rule := do
  let bindAddress ← Checked.new checkBindAddress bindAddress
  return { rule with
    forwarding :=
      match rule.forwarding with
      | .localForwarding value => .localForwarding { value with bindAddress }
      | .remoteForwarding value => .remoteForwarding { value with bindAddress }
      | .dynamicForwarding value => .dynamicForwarding { value with bindAddress } }

/-- `with_policy`. -/
def withPolicy (rule : Rule) (autoStart reconnect : Bool) : Rule :=
  { rule with autoStart, reconnect }

/-- `local_listener`: the listener a rule opens on this machine. -/
def localListener (rule : Rule) : Option (BindAddress × Port) :=
  match rule.forwarding with
  | .localForwarding value => some (value.bindAddress, value.bindPort)
  | .dynamicForwarding value => some (value.bindAddress, value.bindPort)
  | .remoteForwarding _ => none

end Rule

end TunnelDeck
