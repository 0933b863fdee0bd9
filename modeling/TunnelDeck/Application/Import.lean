import Mathlib.Data.Finset.Card
import Mathlib.Data.List.AList
import TunnelDeck.Config.Conversion
import TunnelDeck.Text.Lines

/-!
# Importing the forwards that `ssh -G` reports

The preview reads the forwarding directives of the output one after the other and classifies each
against the existing rules and against the candidates before it. `selected_rules` then builds
rules from the candidates that were chosen, under names it makes up.

A candidate keeps its addresses as texts. The classification compares them through the checks of
the domain, and a rule is built from them by the public constructors.
-/

namespace TunnelDeck

/-! ## Candidates -/

/-- What a directive forwards. -/
inductive ImportForwarding where
  | localForward (bindAddress : String) (bindPort : UInt16) (destinationHost : String)
      (destinationPort : UInt16)
  | remoteForward (bindAddress : String) (bindPort : UInt16) (destinationHost : String)
      (destinationPort : UInt16)
  | dynamicForward (bindAddress : String) (bindPort : UInt16)
  deriving DecidableEq

inductive DirectiveKind where
  | localDirective
  | remoteDirective
  | dynamicDirective
  deriving DecidableEq

inductive UnsupportedReason where
  | unixSocket
  | remoteDynamic
  deriving DecidableEq

inductive InvalidReason where
  | syntaxError
  | bindAddress
  | destinationHost
  | port
  | nonUtf8Output
  deriving DecidableEq

inductive ImportClassification where
  | supported
  | duplicateDirective (firstIndex : ℕ)
  | duplicateRule (ruleId : Uuid) (running : Bool)
  | conflict (ruleId : Option Uuid) (running : Bool)
  | unsupported (reason : UnsupportedReason)
  | invalid (reason : InvalidReason)
  deriving DecidableEq

structure ImportCandidate where
  kind : DirectiveKind
  forwarding : Option ImportForwarding
  classification : ImportClassification
  deriving DecidableEq

structure ImportPreview where
  sshHostAlias : String
  candidates : List ImportCandidate
  deriving DecidableEq

/-- The candidate under a one-based id. -/
def ImportPreview.candidate? (preview : ImportPreview) : ℕ → Option ImportCandidate
  | 0 => none
  | index + 1 => preview.candidates[index]?

/-! ## Reading a directive -/

inductive ParseFailure where
  | unsupported (reason : UnsupportedReason)
  | invalid (reason : InvalidReason)
  deriving DecidableEq

/-- `parse_port`. -/
def parsePort (value : List Char) : Except ParseFailure UInt16 :=
  match (Text.parseU16 value).filter fun port ↦ port ≠ 0 with
  | some port => .ok port
  | none => .error (.invalid .port)

/-- The two parts of an endpoint, the host of which stands in brackets or before the last colon. -/
def endpointParts : List Char → Except ParseFailure (List Char × List Char)
  | '[' :: rest =>
    match Text.splitOnce (· = ']') rest with
    | some (host, ':' :: port) => .ok (host, port)
    | _ => .error (.invalid .syntaxError)
  | value =>
    match Text.rsplitOnce (· = ':') value with
    | some parts => .ok parts
    | none => .error (.invalid .syntaxError)

/-- `split_endpoint`. -/
def splitEndpoint (value : List Char) : Except ParseFailure (String × UInt16) := do
  let (host, port) ← endpointParts value
  if host = [] then .error (.invalid .syntaxError)
  else return (String.ofList host, ← parsePort port)

/-- `parse_listener`: a port alone, or an endpoint with a bind address. -/
def parseListener (value : List Char) (defaultBind : String) :
    Except ParseFailure (String × UInt16) :=
  if value.all Char.isDigit then (parsePort value).map fun port ↦ (defaultBind, port)
  else do
    let (address, port) ← splitEndpoint value
    match checkBindAddress address with
    | .error _ => .error (.invalid .bindAddress)
    | .ok () => return (address, port)

/-- `parse_destination`. -/
def parseDestination (value : List Char) : Except ParseFailure (String × UInt16) := do
  let (host, port) ← splitEndpoint value
  match checkDestinationHost host with
  | .error _ => .error (.invalid .destinationHost)
  | .ok () => return (host, port)

/-- `looks_like_socket`. -/
def looksLikeSocket (value : List Char) : Bool := value.contains '/'

/-- `parse_forward`. -/
def parseForward (kind : DirectiveKind) (value : List Char) (localDefaultBind : String) :
    Except ParseFailure ImportForwarding :=
  let fields := Text.splitWhitespace value
  if fields.any looksLikeSocket then .error (.unsupported .unixSocket)
  else
    match kind, fields with
    | .localDirective, [listen, destination] => do
      let (bindAddress, bindPort) ← parseListener listen localDefaultBind
      let (destinationHost, destinationPort) ← parseDestination destination
      return .localForward bindAddress bindPort destinationHost destinationPort
    | .remoteDirective, [listen, destination] => do
      let (bindAddress, bindPort) ← parseListener listen "localhost"
      let (destinationHost, destinationPort) ← parseDestination destination
      return .remoteForward bindAddress bindPort destinationHost destinationPort
    | .remoteDirective, [listen] => do
      let _ ← parseListener listen "localhost"
      .error (.unsupported .remoteDynamic)
    | .dynamicDirective, [listen] => do
      let (bindAddress, bindPort) ← parseListener listen localDefaultBind
      return .dynamicForward bindAddress bindPort
    | _, _ => .error (.invalid .syntaxError)

/-- The kind of directive that a keyword names, in any case of its letters. -/
def directiveKind (keyword : List Char) : Option DirectiveKind :=
  let keyword := keyword.map Text.toAsciiLowercase
  if keyword = "localforward".toList then some .localDirective
  else if keyword = "remoteforward".toList then some .remoteDirective
  else if keyword = "dynamicforward".toList then some .dynamicDirective
  else none

/-- The line says that listeners are open to other machines. -/
def opensGateway (line : List Char) : Bool :=
  match Text.splitOnce Text.isWhitespace line with
  | none => false
  | some (key, value) =>
    key.map Text.toAsciiLowercase = "gatewayports".toList && Text.trim value = "yes".toList

/-- `effective_local_default_bind`. -/
def effectiveLocalDefaultBind (output : List Char) : String :=
  if (Text.lines output).any opensGateway then "*" else "localhost"

/-- The forwarding directive on a line, if there is one, and what it is read as. -/
def directive (localDefaultBind : String) (line : List Char) :
    Option (DirectiveKind × Except ParseFailure ImportForwarding) := do
  let (keyword, value) ← Text.splitOnce Text.isWhitespace line
  let kind ← directiveKind keyword
  return (kind, parseForward kind (Text.trim value) localDefaultBind)

/-! ## Comparing forwards -/

/-- `listener`. -/
def listener : ImportForwarding → Option (BindAddress × UInt16)
  | .localForward address port _ _ | .remoteForward address port _ _
  | .dynamicForward address port =>
    match Checked.new checkBindAddress address with
    | .ok address => some (address, port)
    | .error _ => none

/-- `listeners_conflict`. -/
def listenersConflict (left right : ImportForwarding) : Bool :=
  match listener left, listener right with
  | some (leftAddress, leftPort), some (rightAddress, rightPort) =>
    leftPort = rightPort && bindAddressesOverlap leftAddress rightAddress
  | _, _ => false

/-- `forwards_conflict`. -/
def forwardsConflict (left right : ImportForwarding) : Bool :=
  match left, right with
  | .remoteForward .., .remoteForward .. => listenersConflict left right
  | .remoteForward .., _ | _, .remoteForward .. => false
  | _, _ => listenersConflict left right

/-- `forwarding_matches_rule`. -/
def forwardingMatchesRule (forwarding : ImportForwarding) (rule : Rule) : Bool :=
  match forwarding, rule.forwarding with
  | .localForward bindAddress bindPort destinationHost destinationPort, .localForwarding rule =>
    bindAddress = rule.bindAddress.asStr && bindPort = rule.bindPort.get &&
      destinationHost = rule.destinationHost.asStr && destinationPort = rule.destinationPort.get
  | .remoteForward bindAddress bindPort destinationHost destinationPort, .remoteForwarding rule =>
    bindAddress = rule.bindAddress.asStr && bindPort = rule.bindPort.get &&
      destinationHost = rule.destinationHost.asStr && destinationPort = rule.destinationPort.get
  | .dynamicForward bindAddress bindPort, .dynamicForwarding rule =>
    bindAddress = rule.bindAddress.asStr && bindPort = rule.bindPort.get
  | _, _ => false

/-- `forwarding_conflicts_rule`. -/
def forwardingConflictsRule (sshHostAlias : String) (forwarding : ImportForwarding) (rule : Rule) :
    Bool :=
  match forwarding with
  | .localForward .. | .dynamicForward .. =>
    match rule.localListener, listener forwarding with
    | some (address, port), some (candidateAddress, candidatePort) =>
      candidatePort = port.get && bindAddressesOverlap candidateAddress address
    | _, _ => false
  | .remoteForward bindAddress bindPort _ _ =>
    rule.sshHostAlias.asStr = sshHostAlias &&
      match rule.forwarding with
      | .remoteForwarding remote =>
        remote.bindPort.get = bindPort &&
          match Checked.new checkBindAddress bindAddress with
          | .ok candidate => bindAddressesOverlap candidate remote.bindAddress
          | .error _ => false
      | _ => false

/-! ## The preview -/

/-- `classify`. -/
def classify (sshHostAlias : String) (forwarding : ImportForwarding)
    (seen : AList fun _ : ImportForwarding ↦ ℕ) (accepted : List ImportForwarding)
    (existing : List Rule) (running : Finset Uuid) : ImportClassification :=
  match seen.lookup forwarding with
  | some firstIndex => .duplicateDirective firstIndex
  | none =>
    let ofAlias := existing.filter fun rule ↦ rule.sshHostAlias.asStr = sshHostAlias
    match ofAlias.find? (forwardingMatchesRule forwarding) with
    | some rule => .duplicateRule rule.id (rule.id ∈ running)
    | none =>
      if accepted.any (forwardsConflict forwarding) then .conflict none false
      else
        match existing.find? (forwardingConflictsRule sshHostAlias forwarding) with
        | some rule => .conflict (some rule.id) (rule.id ∈ running)
        | none => .supported

/-- What the loop of the preview keeps. -/
structure PreviewScan where
  /-- The index of the first candidate with a forwarding. -/
  seen : AList fun _ : ImportForwarding ↦ ℕ
  /-- The forwardings of the supported candidates. -/
  accepted : List ImportForwarding
  candidates : List ImportCandidate

namespace PreviewScan

def empty : PreviewScan := ⟨∅, [], []⟩

section

variable (sshHostAlias : String) (existing : List Rule) (running : Finset Uuid)

def push (scan : PreviewScan) (kind : DirectiveKind) :
    Except ParseFailure ImportForwarding → PreviewScan
  | .error (.unsupported reason) =>
    { scan with candidates := scan.candidates ++ [⟨kind, none, .unsupported reason⟩] }
  | .error (.invalid reason) =>
    { scan with candidates := scan.candidates ++ [⟨kind, none, .invalid reason⟩] }
  | .ok forwarding =>
    let classification :=
      classify sshHostAlias forwarding scan.seen scan.accepted existing running
    { seen :=
        if forwarding ∈ scan.seen then scan.seen
        else scan.seen.insert forwarding scan.candidates.length
      accepted :=
        if classification = .supported then scan.accepted ++ [forwarding] else scan.accepted
      candidates := scan.candidates ++ [⟨kind, some forwarding, classification⟩] }

/-- One turn of the loop. -/
def line (localDefaultBind : String) (scan : PreviewScan) (line : List Char) : PreviewScan :=
  match directive localDefaultBind line with
  | none => scan
  | some (kind, parsed) => scan.push sshHostAlias existing running kind parsed

def ofText (text : String) : PreviewScan :=
  (Text.lines text.toList).foldl
    (line sshHostAlias existing running (effectiveLocalDefaultBind text.toList)) empty

end

end PreviewScan

/-- `preview_effective_forwards`. -/
def previewEffectiveForwards (sshHostAlias : String) (output : ByteArray) (existing : List Rule)
    (runningRuleIds : List Uuid) : Except InvalidReason ImportPreview :=
  match checkHostAlias sshHostAlias with
  | .error _ => .error .syntaxError
  | .ok () =>
    match String.fromUTF8? output with
    | none => .error .nonUtf8Output
    | some text =>
      let scan := PreviewScan.ofText sshHostAlias existing runningRuleIds.toFinset text
      .ok ⟨sshHostAlias, scan.candidates⟩

/-! ## The selection -/

/-- The loop of `import_rule_name`. The names it tries are distinct, so it ends after as many turns
as there are names. -/
def freeName (base : String) (names : Finset String) : ℕ → ℕ → String → String
  | 0, _, name => name
  | turns + 1, suffix, name =>
    if name ∈ names then
      freeName base names turns (suffix + 1) (base ++ "-" ++ toString suffix)
    else name

/-- The name that `import_rule_name` tries first. -/
def importBaseName : ImportForwarding → String
  | .localForward _ bindPort _ _ => "import-local-" ++ toString bindPort.toNat
  | .remoteForward _ bindPort _ _ => "import-remote-" ++ toString bindPort.toNat
  | .dynamicForward _ bindPort => "import-dynamic-" ++ toString bindPort.toNat

/-- `import_rule_name`, which adds the name to `names` as well. -/
def importRuleName (forwarding : ImportForwarding) (candidateId : ℕ) (names : Finset String) :
    String :=
  let base := importBaseName forwarding
  freeName base names names.card candidateId base

def ImportForwarding.toRule (forwarding : ImportForwarding) (id : Uuid)
    (name sshHostAlias : String) (autoStart reconnect : Bool) : Except ValidationError Rule :=
  Except.map (fun rule ↦ rule.withPolicy autoStart reconnect)
    (match forwarding with
    | .localForward bindAddress bindPort destinationHost destinationPort => do
      (← Rule.newLocal id name sshHostAlias bindPort destinationHost
        destinationPort).withBindAddress bindAddress
    | .remoteForward bindAddress bindPort destinationHost destinationPort => do
      (← Rule.newRemote id name sshHostAlias bindPort destinationHost
        destinationPort).withBindAddress bindAddress
    | .dynamicForward bindAddress bindPort => do
      (← Rule.newDynamic id name sshHostAlias bindPort).withBindAddress bindAddress)

/-- The loop of `selected_rules`, from the candidate at `index` on. `ids` gives the id that is
drawn for a candidate. -/
def selectFrom (sshHostAlias : String) (selected : Finset ℕ) (autoStart reconnect : Bool)
    (ids : ℕ → Uuid) : ℕ → Finset String → List ImportCandidate → Except String (List Rule)
  | _, _, [] => .ok []
  | index, names, candidate :: rest =>
    let candidateId := index + 1
    if candidateId ∉ selected then
      selectFrom sshHostAlias selected autoStart reconnect ids (index + 1) names rest
    else if candidate.classification ≠ .supported then
      .error ("candidate " ++ toString candidateId ++
        " cannot be saved because it is unavailable")
    else
      match candidate.forwarding with
      | none => .error ("candidate " ++ toString candidateId ++ " has no forwarding")
      | some forwarding =>
        let name := importRuleName forwarding candidateId names
        match forwarding.toRule (ids candidateId) name sshHostAlias autoStart reconnect with
        | .error e => .error e.toString
        | .ok rule =>
          (selectFrom sshHostAlias selected autoStart reconnect ids (index + 1)
            (insert name names) rest).map fun rules ↦ rule :: rules

/-- `selected_rules`. -/
def selectedRules (preview : ImportPreview) (selected : Finset ℕ) (existing : List Rule)
    (autoStart reconnect : Bool) (ids : ℕ → Uuid) : Except String (List Rule) :=
  if selected = ∅ ∨ 0 ∈ selected then .error "at least one candidate must be selected"
  else if ∃ id ∈ selected, preview.candidates.length < id then
    .error "selected candidate ID does not exist"
  else
    selectFrom preview.sshHostAlias selected autoStart reconnect ids 0
      (existing.map fun rule ↦ rule.name.asStr).toFinset preview.candidates

end TunnelDeck
