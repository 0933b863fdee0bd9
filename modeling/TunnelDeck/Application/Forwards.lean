import TunnelDeck.Application.Import

/-!
# The forwardings of a preview and the forwardings of rules

A forwarding that the preview read is the text of a forwarding of the domain, `parseForward_valid`.
Between such texts the comparisons of the preview are the ones that the domain makes between rules:
a candidate matches a rule when the two forward the same, a candidate is in conflict with a rule
when it is in conflict with the candidate the rule would be, and the local listeners of two rules
clash when the rules do as candidates.
-/

namespace TunnelDeck

/-! ## Texts of forwardings -/

/-- The forwarding as the preview writes it. -/
def ImportForwarding.ofForwarding : Forwarding → ImportForwarding
  | .localForwarding v =>
    .localForward v.bindAddress.asStr v.bindPort.get v.destinationHost.asStr v.destinationPort.get
  | .remoteForwarding v =>
    .remoteForward v.bindAddress.asStr v.bindPort.get v.destinationHost.asStr
      v.destinationPort.get
  | .dynamicForwarding v => .dynamicForward v.bindAddress.asStr v.bindPort.get

def ImportForwarding.kind : ImportForwarding → DirectiveKind
  | .localForward .. => .localDirective
  | .remoteForward .. => .remoteDirective
  | .dynamicForward .. => .dynamicDirective

def Rule.candidate (rule : Rule) : ImportForwarding :=
  ImportForwarding.ofForwarding rule.forwarding

/-! ## Reading -/

theorem ok_of_map {ε α β : Type} {x : Except ε α} {f : α → β} {b : β}
    (h : x.map f = .ok b) : ∃ a, x = .ok a ∧ f a = b := by
  cases x with
  | error e => nomatch h
  | ok a => exact ⟨a, rfl, Except.ok.inj h⟩

theorem parsePort_ne_zero {value : List Char} {port : UInt16} (h : parsePort value = .ok port) :
    port ≠ 0 := by
  rw [parsePort] at h
  split at h
  · rename_i p hp
    injection h with h
    rw [← h]
    simpa using (Option.filter_eq_some_iff.mp hp).2
  · nomatch h

theorem splitEndpoint_ne_zero {value : List Char} {host : String} {port : UInt16}
    (h : splitEndpoint value = .ok (host, port)) : port ≠ 0 := by
  obtain ⟨⟨host', port'⟩, -, h⟩ := ok_of_bind h
  simp only at h
  split at h
  · nomatch h
  · obtain ⟨p, hp, h⟩ := ok_of_bind h
    cases h
    exact parsePort_ne_zero hp

theorem parseListener_valid {value : List Char} {defaultBind address : String} {port : UInt16}
    (hdefault : checkBindAddress defaultBind = .ok ())
    (h : parseListener value defaultBind = .ok (address, port)) :
    checkBindAddress address = .ok () ∧ port ≠ 0 := by
  rw [parseListener] at h
  split at h
  · obtain ⟨p, hp, h⟩ := ok_of_map h
    cases h
    exact ⟨hdefault, parsePort_ne_zero hp⟩
  · obtain ⟨⟨address', port'⟩, hsplit, h⟩ := ok_of_bind h
    simp only at h
    split at h
    · nomatch h
    · rename_i hcheck
      cases h
      exact ⟨hcheck, splitEndpoint_ne_zero hsplit⟩

theorem parseDestination_valid {value : List Char} {host : String} {port : UInt16}
    (h : parseDestination value = .ok (host, port)) :
    checkDestinationHost host = .ok () ∧ port ≠ 0 := by
  obtain ⟨⟨host', port'⟩, hsplit, h⟩ := ok_of_bind h
  simp only at h
  split at h
  · nomatch h
  · rename_i hcheck
    cases h
    exact ⟨hcheck, splitEndpoint_ne_zero hsplit⟩

/-- **What is read is valid**: it is the text of a forwarding of the directive's kind. -/
theorem parseForward_valid {kind : DirectiveKind} {value : List Char} {defaultBind : String}
    {forwarding : ImportForwarding} (hdefault : checkBindAddress defaultBind = .ok ())
    (h : parseForward kind value defaultBind = .ok forwarding) :
    forwarding.kind = kind ∧ ∃ f, ImportForwarding.ofForwarding f = forwarding := by
  have hlocalhost : checkBindAddress "localhost" = .ok () := by decide
  simp only [parseForward] at h
  split at h
  · nomatch h
  · split at h
    · obtain ⟨⟨address, port⟩, hlisten, h⟩ := ok_of_bind h
      obtain ⟨⟨host, target⟩, hdestination, h⟩ := ok_of_bind h
      obtain ⟨haddress, hport⟩ := parseListener_valid hdefault hlisten
      obtain ⟨hhost, htarget⟩ := parseDestination_valid hdestination
      cases h
      exact ⟨rfl, .localForwarding ⟨⟨address, haddress⟩, ⟨port, hport⟩, ⟨host, hhost⟩,
        ⟨target, htarget⟩⟩, rfl⟩
    · obtain ⟨⟨address, port⟩, hlisten, h⟩ := ok_of_bind h
      obtain ⟨⟨host, target⟩, hdestination, h⟩ := ok_of_bind h
      obtain ⟨haddress, hport⟩ := parseListener_valid hlocalhost hlisten
      obtain ⟨hhost, htarget⟩ := parseDestination_valid hdestination
      cases h
      exact ⟨rfl, .remoteForwarding ⟨⟨address, haddress⟩, ⟨port, hport⟩, ⟨host, hhost⟩,
        ⟨target, htarget⟩⟩, rfl⟩
    · obtain ⟨-, -, h⟩ := ok_of_bind h
      nomatch h
    · obtain ⟨⟨address, port⟩, hlisten, h⟩ := ok_of_bind h
      obtain ⟨haddress, hport⟩ := parseListener_valid hdefault hlisten
      cases h
      exact ⟨rfl, .dynamicForwarding ⟨⟨address, haddress⟩, ⟨port, hport⟩⟩, rfl⟩
    · nomatch h

theorem directive_eq_some {localDefaultBind : String} {line : List Char} {kind : DirectiveKind}
    {parsed : Except ParseFailure ImportForwarding}
    (h : directive localDefaultBind line = some (kind, parsed)) :
    ∃ value, parsed = parseForward kind value localDefaultBind := by
  obtain ⟨⟨keyword, value⟩, -, h⟩ := Option.bind_eq_some_iff.mp h
  obtain ⟨kind', -, h⟩ := Option.bind_eq_some_iff.mp h
  cases h
  exact ⟨_, rfl⟩

theorem effectiveLocalDefaultBind_valid (output : List Char) :
    checkBindAddress (effectiveLocalDefaultBind output) = .ok () := by
  rw [effectiveLocalDefaultBind]
  split <;> decide

/-! ## Comparing -/

theorem listenersConflict_comm (left right : ImportForwarding) :
    listenersConflict left right = listenersConflict right left := by
  simp only [listenersConflict]
  cases listener left with
  | none => cases listener right <;> rfl
  | some l =>
    cases listener right with
    | none => rfl
    | some r =>
      simp only [bindAddressesOverlap_comm l.1 r.1, eq_comm]

theorem forwardsConflict_comm (left right : ImportForwarding) :
    forwardsConflict left right = forwardsConflict right left := by
  cases left <;> cases right <;> first | rfl | exact listenersConflict_comm _ _

theorem forwardingMatchesRule_iff (forwarding : ImportForwarding) (rule : Rule) :
    forwardingMatchesRule forwarding rule = true ↔ forwarding = rule.candidate := by
  obtain ⟨id, name, host, target, autoStart, reconnect⟩ := rule
  cases forwarding <;> cases target <;>
    simp [forwardingMatchesRule, Rule.candidate, ImportForwarding.ofForwarding, and_assoc]

/-- A candidate is in conflict with a rule when it is in conflict with the candidate the rule would
be. For a remote one the rule has to be of the same host. -/
theorem forwardingConflictsRule_eq {sshHostAlias : String} (forwarding : ImportForwarding)
    {rule : Rule} (h : rule.sshHostAlias.asStr = sshHostAlias) :
    forwardingConflictsRule sshHostAlias forwarding rule =
      forwardsConflict forwarding rule.candidate := by
  have hport (p q : UInt16) : decide (p = q) = decide (q = p) := decide_eq_decide.mpr eq_comm
  cases forwarding with
  | localForward address | dynamicForward address =>
    cases hnew : Checked.new checkBindAddress address <;> cases htarget : rule.forwarding <;>
      simp [forwardingConflictsRule, Rule.localListener, htarget, Rule.candidate, hnew,
        ImportForwarding.ofForwarding, forwardsConflict, listenersConflict, listener]
  | remoteForward address port =>
    cases hnew : Checked.new checkBindAddress address <;> cases htarget : rule.forwarding <;>
      simp [forwardingConflictsRule, htarget, Rule.candidate, hnew, h, hport port,
        ImportForwarding.ofForwarding, forwardsConflict, listenersConflict, listener]

theorem conflictsRule_of_listenersClash {rule other : Rule} (h : listenersClash rule other = true)
    (sshHostAlias : String) : forwardingConflictsRule sshHostAlias rule.candidate other = true := by
  simp only [listenersClash] at h
  cases htarget : rule.forwarding <;> cases hother : other.forwarding <;>
    simp only [Rule.localListener, htarget, hother, Bool.and_eq_true, decide_eq_true_eq,
      Bool.false_eq_true] at h
  all_goals
    simp [forwardingConflictsRule, Rule.localListener, htarget, hother, Rule.candidate,
      ImportForwarding.ofForwarding, listener, congrArg Port.get h.1, h.2]

end TunnelDeck
