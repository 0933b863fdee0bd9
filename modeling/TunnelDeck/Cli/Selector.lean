import TunnelDeck.Daemon.Selection

/-!
# Naming a rule on the command line

`tdeck forward start`, `stop` and `remove` take a name or a UUID. `daemon_rule_call` decides which
of the two it has by trying to read a UUID, and the daemon takes an id as it is and looks a name up.
A name may be almost any text, a UUID too, and the client sends such a name as an id. The name then
stands for the rule that has this id, if there is one, and not for the rule that has the name.
-/

namespace TunnelDeck.Cli

variable {crates : Crates} {managed : Bool}

/-! ## The command -/

/-- `daemon_rule_call`: the request that the daemon is called with. -/
def daemonRuleCall (crates : Crates) (operation : Operation) (rule : String) : Request where
  operation
  payload :=
    match crates.parseUuid rule with
    | some id => selectId crates id
    | none => selectName rule

/-- The id that the daemon finds for what was typed. It does so for any operation. -/
def resolve (crates : Crates) (rule : String) (s : State) : Except Failure Uuid :=
  ruleId crates (daemonRuleCall crates .forwardStart rule).payload s

theorem resolve_of_parse (hcrates : crates.Faithful) {text : String} {id : Uuid}
    (h : crates.parseUuid text = some id) (s : State) : resolve crates text s = .ok id := by
  rw [resolve, daemonRuleCall, h]
  exact ruleId_selectId hcrates id s

theorem resolve_of_not_uuid {text : String} (h : crates.parseUuid text = none) (s : State) :
    resolve crates text s = ruleId crates (selectName text) s := by
  rw [resolve, daemonRuleCall, h]

/-- The first sections of the commands that start, stop or remove what was typed. -/
inductive TypedRequest (crates : Crates) (rule : String) : Pc → Prop
  | start : TypedRequest crates rule
      (.start (.client (daemonRuleCall crates .forwardStart rule)) .enter)
  | stop : TypedRequest crates rule (.stop (daemonRuleCall crates .forwardStop rule) .enter)
  | remove : TypedRequest crates rule (.dispatch (daemonRuleCall crates .forwardRemove rule))

/-! ## What a text stands for -/

/-- A text that is found stands for a rule that has it as its name or, in some spelling, as its id.
-/
theorem name_or_uuid_of_resolve (hcrates : crates.Faithful) {s : State}
    (hids : (s.rules.map Rule.id).Nodup) {text : String} {rule : Rule} (hrule : rule ∈ s.rules)
    (h : resolve crates text s = .ok rule.id) :
    rule.name.asStr = text ∨ crates.parseUuid text = some rule.id := by
  rcases hparse : crates.parseUuid text with _ | id
  · rw [resolve_of_not_uuid hparse, ruleId_selectName] at h
    split at h
    · next found hfound =>
      have hsame : found = rule := List.inj_on_of_nodup_map hids
        (List.mem_of_find?_eq_some hfound) hrule (Except.ok.inj h)
      rw [← hsame]
      exact Or.inl (by simpa using List.find?_some hfound)
    · cases h
  · rw [resolve_of_parse hcrates hparse] at h
    rw [Except.ok.inj h]
    exact Or.inr rfl

/-- The name of a rule stands for the rule unless it is the UUID of something else. -/
theorem resolve_name_iff (hcrates : crates.Faithful) {s : State}
    (hvalid : validateRuleSet s.rules = .ok ()) {rule : Rule} (hrule : rule ∈ s.rules) :
    resolve crates rule.name.asStr s = .ok rule.id ↔
      ∀ id, crates.parseUuid rule.name.asStr = some id → id = rule.id := by
  rcases hparse : crates.parseUuid rule.name.asStr with _ | id
  · rw [resolve_of_not_uuid hparse, ruleId_of_name crates hvalid hrule]
    simp
  · rw [resolve_of_parse hcrates hparse]
    simp

theorem actsOnly_of_resolve (hcrates : crates.Faithful) {d : Daemon}
    (hids : (d.state.rules.map Rule.id).Nodup) {text : String} {rule : Rule}
    (hrule : rule ∈ d.state.rules) (hselects : resolve crates text d.state = .ok rule.id) {p : Pc}
    (hp : TypedRequest crates text p) (env : Env) : ActsOnly crates managed env d rule p := by
  cases hp with
  | start => exact start_actsOnly hcrates hids hrule hselects
  | stop => exact stop_actsOnly hids hrule hselects
  | remove => exact remove_actsOnly hids hrule hselects

/-! ## The requirement -/

/-- What a user relies on when a rule is typed. -/
structure Selectable (crates : Crates) (managed : Bool) (d : Daemon) : Prop where
  /-- A name stands for its rule. -/
  name : ∀ rule ∈ d.state.rules, resolve crates rule.name.asStr d.state = .ok rule.id
  /-- Every spelling of a UUID stands for its rule. -/
  uuid : ∀ rule ∈ d.state.rules, ∀ text, crates.parseUuid text = some rule.id →
    resolve crates text d.state = .ok rule.id
  /-- No text stands for a rule with another name and another UUID. -/
  text : ∀ text, ∀ rule ∈ d.state.rules, resolve crates text d.state = .ok rule.id →
    rule.name.asStr = text ∨ crates.parseUuid text = some rule.id
  /-- A command typed with a name acts on no other rule. -/
  acts : ∀ rule ∈ d.state.rules, ∀ p, TypedRequest crates rule.name.asStr p → ∀ env,
    ActsOnly crates managed env d rule p

/-- **Names and UUIDs share one space.** In a valid set with distinct ids what is typed stands for
the rule that is meant exactly when no rule has for its name the UUID of something else. -/
theorem selectable_iff (hcrates : crates.Faithful) {d : Daemon}
    (hvalid : validateRuleSet d.state.rules = .ok ())
    (hids : (d.state.rules.map Rule.id).Nodup) :
    Selectable crates managed d ↔
      ∀ rule ∈ d.state.rules, ∀ id, crates.parseUuid rule.name.asStr = some id → id = rule.id := by
  constructor
  · intro h rule hrule
    exact (resolve_name_iff hcrates hvalid hrule).mp (h.name rule hrule)
  · intro h
    have hname (rule) (hrule : rule ∈ d.state.rules) :
        resolve crates rule.name.asStr d.state = .ok rule.id :=
      (resolve_name_iff hcrates hvalid hrule).mpr (h rule hrule)
    exact {
      name := hname
      uuid := fun _ _ _ hparse ↦ resolve_of_parse hcrates hparse _
      text := fun _ _ hrule hresolve ↦ name_or_uuid_of_resolve hcrates hids hrule hresolve
      acts := fun rule hrule _ hp env ↦
        actsOnly_of_resolve hcrates hids hrule (hname rule hrule) hp env }

/-- Two rules whose names are no UUIDs can be typed by name and by id. -/
theorem selectable_iff_examplePair : Selectable exampleCrates true examplePair.shared := by
  have hparse : ∀ rule ∈ [exampleRule, exampleOther],
      exampleCrates.parseUuid rule.name.asStr = none := by decide +kernel
  refine (selectable_iff exampleCrates_faithful (by decide +kernel) (by decide)).mpr ?_
  intro rule hrule id hid
  rw [hparse rule hrule] at hid
  cases hid

/-- A rule whose name is the UUID of the example rule. -/
def exampleImpostor : Rule := { exampleTwin with
  id := 1
  name := ⟨"018F6BA0-3BE8-7C42-9F1F-61B99FC2E076", by decide⟩ }

/-- The two rules are a valid set with distinct ids, yet the name of the second one stands for the
first: a start typed with the name launches the first rule, and a removal removes it. -/
theorem exampleImpostor_not_selectable :
    ∃ d : Daemon, d = (System.opened (exampleState (fun _ ↦ none)
        [exampleRule, exampleImpostor])).shared ∧
      validateRuleSet d.state.rules = .ok () ∧ (d.state.rules.map Rule.id).Nodup ∧
      resolve exampleCrates exampleImpostor.name.asStr d.state = .ok exampleRule.id ∧
      (exec exampleCrates true {} d (.start (.client (daemonRuleCall exampleCrates .forwardStart
        exampleImpostor.name.asStr)) .enter)).2.launching = some ⟨exampleRule.id, exampleRule, 0⟩ ∧
      ¬ Selectable exampleCrates true d := by
  refine ⟨_, rfl, by decide +kernel, by decide +kernel, by decide +kernel, by decide +kernel,
    fun h ↦ ?_⟩
  have hname := h.name exampleImpostor (by decide)
  exact absurd hname (by decide +kernel)

end TunnelDeck.Cli
