import TunnelDeck.Config.Schema

/-!
# Conversion between wire rules and domain rules

`Rule.ofWire` is `Rule::try_from`: it goes through the public constructors, so it checks every
field. `WireRule.ofRule` forgets the checks. A domain rule survives the round trip, and so does a
whole valid document, which is why what the daemon writes is what it reads back. An accepted wire
rule survives it too.
-/

namespace TunnelDeck

/-- `Rule::try_from`. -/
def Rule.ofWire : WireRule → Except ValidationError Rule
  | .localRule id name sshHostAlias bindAddress bindPort destinationHost destinationPort autoStart
      reconnect => do
    let rule ← Rule.newLocal id name sshHostAlias bindPort destinationHost destinationPort
    return (← rule.withBindAddress bindAddress).withPolicy autoStart reconnect
  | .remoteRule id name sshHostAlias bindAddress bindPort destinationHost destinationPort autoStart
      reconnect => do
    let rule ← Rule.newRemote id name sshHostAlias bindPort destinationHost destinationPort
    return (← rule.withBindAddress bindAddress).withPolicy autoStart reconnect
  | .dynamicRule id name sshHostAlias bindAddress bindPort autoStart reconnect => do
    let rule ← Rule.newDynamic id name sshHostAlias bindPort
    return (← rule.withBindAddress bindAddress).withPolicy autoStart reconnect

/-- `From<&Rule>` for the wire form. -/
def WireRule.ofRule (rule : Rule) : WireRule :=
  match rule.forwarding with
  | .localForwarding v =>
    .localRule rule.id rule.name.asStr rule.sshHostAlias.asStr v.bindAddress.asStr v.bindPort.get
      v.destinationHost.asStr v.destinationPort.get rule.autoStart rule.reconnect
  | .remoteForwarding v =>
    .remoteRule rule.id rule.name.asStr rule.sshHostAlias.asStr v.bindAddress.asStr v.bindPort.get
      v.destinationHost.asStr v.destinationPort.get rule.autoStart rule.reconnect
  | .dynamicForwarding v =>
    .dynamicRule rule.id rule.name.asStr rule.sshHostAlias.asStr v.bindAddress.asStr v.bindPort.get
      rule.autoStart rule.reconnect

/-- **A rule survives the wire.** -/
@[simp] theorem Rule.ofWire_ofRule (rule : Rule) :
    Rule.ofWire (WireRule.ofRule rule) = .ok rule := by
  obtain ⟨id, name, host, forwarding, autoStart, reconnect⟩ := rule
  cases forwarding <;>
    simp [WireRule.ofRule, Rule.ofWire, Rule.newLocal, Rule.newRemote, Rule.newDynamic,
      Rule.withBindAddress, Rule.withPolicy, bind, Except.bind, pure, Except.pure]

theorem ok_of_bind {ε α β : Type} {x : Except ε α} {f : α → Except ε β} {b : β}
    (h : x >>= f = .ok b) : ∃ a, x = .ok a ∧ f a = .ok b := by
  cases x with
  | error e => nomatch h
  | ok a => exact ⟨a, rfl, h⟩

theorem get_of_portNew {value : UInt16} {field : Field} {port : Port}
    (h : Port.new value field = .ok port) : port.get = value := by
  unfold Port.new at h
  split at h <;> cases h
  rfl

/-- **A wire rule survives the domain.** The constructors check its texts and ports and normalise
none of them, and the bind address and the policy that they install first are all overridden. -/
theorem ofRule_of_ofWire {wire : WireRule} {rule : Rule} (h : Rule.ofWire wire = .ok rule) :
    WireRule.ofRule rule = wire := by
  cases wire with
  | localRule | remoteRule =>
    obtain ⟨plain, hplain, h⟩ := ok_of_bind h
    obtain ⟨name, hname, hplain⟩ := ok_of_bind hplain
    obtain ⟨host, hhost, hplain⟩ := ok_of_bind hplain
    obtain ⟨port, hport, hplain⟩ := ok_of_bind hplain
    obtain ⟨destination, hdestination, hplain⟩ := ok_of_bind hplain
    obtain ⟨destinationPort, hdestinationPort, hplain⟩ := ok_of_bind hplain
    cases hplain
    obtain ⟨bound, hbound, h⟩ := ok_of_bind h
    obtain ⟨address, haddress, hbound⟩ := ok_of_bind hbound
    cases hbound
    cases h
    simp [WireRule.ofRule, Rule.withPolicy, Checked.asStr_of_new hname, Checked.asStr_of_new hhost,
      Checked.asStr_of_new hdestination, Checked.asStr_of_new haddress, get_of_portNew hport,
      get_of_portNew hdestinationPort]
  | dynamicRule =>
    obtain ⟨plain, hplain, h⟩ := ok_of_bind h
    obtain ⟨name, hname, hplain⟩ := ok_of_bind hplain
    obtain ⟨host, hhost, hplain⟩ := ok_of_bind hplain
    obtain ⟨port, hport, hplain⟩ := ok_of_bind hplain
    cases hplain
    obtain ⟨bound, hbound, h⟩ := ok_of_bind h
    obtain ⟨address, haddress, hbound⟩ := ok_of_bind hbound
    cases hbound
    cases h
    simp [WireRule.ofRule, Rule.withPolicy, Checked.asStr_of_new hname, Checked.asStr_of_new hhost,
      Checked.asStr_of_new haddress, get_of_portNew hport]

/-! ## Documents -/

/-- Why a configuration cannot be read or written. An I/O error or an error of the `toml` crate
is its text. -/
inductive StoreError where
  | io (error : String)
  | decode (error : String)
  | encode (error : String)
  | unsupportedSchema (version : ℕ)
  | invalidRule (error : ValidationError)
  | invalidRules (errors : List ValidationError)
  | durabilityUncertain (error : String)
  deriving DecidableEq

/-- The `Display` of a store error. -/
def StoreError.toString (crates : Crates) : StoreError → String
  | .io error => "configuration I/O failed: " ++ error
  | .decode error => "invalid configuration TOML: " ++ error
  | .encode error => "configuration serialization failed: " ++ error
  | .unsupportedSchema version => "unsupported schema version " ++ ToString.toString version
  | .invalidRule error => "invalid rule: " ++ error.toString
  | .invalidRules errors =>
    "invalid rule set: " ++ ValidationError.debugList crates.printable errors
  | .durabilityUncertain error =>
    "configuration was replaced, but directory sync failed: " ++ error

/-- The rules of a document, converted and validated together. -/
def domainRules (wires : List WireRule) : Except StoreError (List Rule) :=
  match wires.mapM Rule.ofWire with
  | .error e => .error (.invalidRule e)
  | .ok rules =>
    match validateRuleSet rules with
    | .error errors => .error (.invalidRules errors)
    | .ok () => .ok rules

/-- `ConfigV1::into_domain`. -/
def ConfigV1.intoDomain (config : ConfigV1) : Except StoreError (List Rule) :=
  if config.schemaVersion ≠ 1 then .error (.unsupportedSchema config.schemaVersion)
  else domainRules config.rules

/-- `ConfigV2::into_domain`. -/
def ConfigV2.intoDomain (config : ConfigV2) : Except StoreError (List Rule × Settings) :=
  if config.schemaVersion ≠ TunnelDeck.schemaVersion then
    .error (.unsupportedSchema config.schemaVersion)
  else (domainRules config.rules).map fun rules ↦ (rules, config.settings)

/-- `ConfigV2::from_domain`. -/
def ConfigV2.fromDomain (rules : List Rule) (settings : Settings) : Except StoreError ConfigV2 :=
  match validateRuleSet rules with
  | .error errors => .error (.invalidRules errors)
  | .ok () =>
    .ok { schemaVersion := TunnelDeck.schemaVersion, rules := rules.map WireRule.ofRule, settings }

theorem mapM_ofWire_ofRule (rules : List Rule) :
    (rules.map WireRule.ofRule).mapM Rule.ofWire = Except.ok rules := by
  induction rules with
  | nil => rfl
  | cons rule rules ih =>
    rw [List.map_cons, List.mapM_cons, Rule.ofWire_ofRule, ih]
    rfl

theorem valid_of_domainRules {wires : List WireRule} {rules : List Rule}
    (h : domainRules wires = .ok rules) : validateRuleSet rules = .ok () := by
  unfold domainRules at h
  split at h
  · cases h
  · split at h
    · cases h
    · rename_i hvalid
      cases h
      exact hvalid

theorem domainRules_ofRule {rules : List Rule} (h : validateRuleSet rules = .ok ()) :
    domainRules (rules.map WireRule.ofRule) = .ok rules := by
  rw [domainRules, mapM_ofWire_ofRule]
  simp [h]

/-- `from_domain` accepts exactly the valid sets, and gives a document of the current version. -/
theorem fromDomain_eq_ok {rules : List Rule} {settings : Settings} {config : ConfigV2}
    (h : ConfigV2.fromDomain rules settings = .ok config) :
    validateRuleSet rules = .ok () ∧ config.schemaVersion = schemaVersion ∧
      config.intoDomain = .ok (rules, settings) := by
  unfold ConfigV2.fromDomain at h
  split at h
  · cases h
  · rename_i hvalid
    cases h
    refine ⟨hvalid, rfl, ?_⟩
    rw [ConfigV2.intoDomain, if_neg (by simp), domainRules_ofRule hvalid]
    rfl

end TunnelDeck
