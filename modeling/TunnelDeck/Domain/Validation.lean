import Mathlib.Data.List.Nodup
import TunnelDeck.Domain.Rule

/-!
# Validation of a rule set

`validate_rule_set` walks over the list and compares each rule with the rules before it: a name
must not repeat, and a local listener must not overlap an earlier one on the same port. What it
accepts is a pairwise condition on the list, `validateRuleSet_eq_ok_iff`.
-/

namespace TunnelDeck

/-! ## Overlap of bind addresses -/

/-- The class of a bind address that `bind_addresses_overlap` compares. -/
inductive BindingClass where
  | any
  | localhost
  | v4Any
  | v6Any
  | v4 (address : BitVec 32)
  | v6 (address : BitVec 128)
  deriving DecidableEq

/-- `BindingClass::from`. -/
def BindingClass.ofAddress (value : BindAddress) : BindingClass :=
  if value.asStr = "*" then .any
  else if value.asStr = "localhost" then .localhost
  else
    match Text.IpAddr.parse value.asStr with
    | some (.v4 address) => if Text.IpAddr.isUnspecified (.v4 address) then .v4Any else .v4 address
    | some (.v6 address) => if Text.IpAddr.isUnspecified (.v6 address) then .v6Any else .v6 address
    -- `BindAddress` construction prevents this
    | none => .any

def BindingClass.overlap : BindingClass → BindingClass → Bool
  | .any, _ => true
  | _, .any => true
  | .v4Any, .v4 _ => true
  | .v4Any, .localhost => true
  | .v4 _, .v4Any => true
  | .localhost, .v4Any => true
  | .v6Any, .v6 _ => true
  | .v6Any, .localhost => true
  | .v6 _, .v6Any => true
  | .localhost, .v6Any => true
  | .localhost, .localhost => true
  | .localhost, .v4 value => Text.IpAddr.isLoopback (.v4 value)
  | .v4 value, .localhost => Text.IpAddr.isLoopback (.v4 value)
  | .localhost, .v6 value => Text.IpAddr.isLoopback (.v6 value)
  | .v6 value, .localhost => Text.IpAddr.isLoopback (.v6 value)
  | .v4 left, .v4 right => left = right
  | .v6 left, .v6 right => left = right
  | _, _ => false

/-- `bind_addresses_overlap`. -/
def bindAddressesOverlap (left right : BindAddress) : Bool :=
  (BindingClass.ofAddress left).overlap (BindingClass.ofAddress right)

theorem BindingClass.overlap_comm (left right : BindingClass) :
    left.overlap right = right.overlap left := by
  cases left with
  | v4 left =>
    cases right with
    | v4 right => exact decide_eq_decide.mpr eq_comm
    | any | localhost | v4Any | v6Any | v6 => rfl
  | v6 left =>
    cases right with
    | v6 right => exact decide_eq_decide.mpr eq_comm
    | any | localhost | v4Any | v6Any | v4 => rfl
  | any | localhost | v4Any | v6Any => cases right <;> rfl

theorem bindAddressesOverlap_comm (left right : BindAddress) :
    bindAddressesOverlap left right = bindAddressesOverlap right left :=
  BindingClass.overlap_comm _ _

/-! ## The rule set -/

/-- The local listeners of the two rules have one port and overlapping addresses. -/
def listenersClash (rule other : Rule) : Bool :=
  match rule.localListener, other.localListener with
  | some (address, port), some (otherAddress, otherPort) =>
    port = otherPort && bindAddressesOverlap address otherAddress
  | _, _ => false

/-- The errors a rule contributes after the rules `earlier`. -/
def ruleErrors (earlier : List Rule) (rule : Rule) : List ValidationError :=
  (if earlier.any fun other ↦ other.name = rule.name then [.duplicateName rule.name.asStr]
    else []) ++
  match rule.localListener with
  | none => []
  | some (address, port) =>
    if earlier.any fun other ↦ listenersClash rule other then
      [.duplicateLocalListener address.asStr port.get]
    else []

/-- The errors of the rules of the list that come after the rules `earlier`. -/
def ruleSetErrors (earlier : List Rule) : List Rule → List ValidationError
  | [] => []
  | rule :: rest => ruleErrors earlier rule ++ ruleSetErrors (earlier ++ [rule]) rest

/-- `validate_rule_set`. -/
def validateRuleSet (rules : List Rule) : Except (List ValidationError) Unit :=
  if ruleSetErrors [] rules = [] then .ok () else .error (ruleSetErrors [] rules)

/-- Two rules that cannot stand in one set, the second before the first. -/
def Clash (rule earlier : Rule) : Prop :=
  earlier.name = rule.name ∨ listenersClash rule earlier = true

theorem ruleErrors_eq_nil_iff (earlier : List Rule) (rule : Rule) :
    ruleErrors earlier rule = [] ↔ ∀ other ∈ earlier, ¬ Clash rule other := by
  have hlistener : rule.localListener = none → ∀ other, listenersClash rule other = false := by
    intro h other
    simp [listenersClash, h]
  rw [ruleErrors, List.append_eq_nil_iff]
  cases h : rule.localListener with
  | none =>
    simp [Clash, hlistener h]
  | some listener =>
    simp only [Clash, not_or, ite_eq_right_iff, List.any_eq_true, reduceCtorEq, imp_false]
    simp only [not_exists, not_and, decide_eq_true_eq]
    exact ⟨fun ⟨hn, hl⟩ other ho ↦ ⟨hn other ho, hl other ho⟩,
      fun h ↦ ⟨fun other ho ↦ (h other ho).1, fun other ho ↦ (h other ho).2⟩⟩

theorem ruleSetErrors_eq_nil_iff (earlier rules : List Rule) :
    ruleSetErrors earlier rules = [] ↔
      (∀ rule ∈ rules, ∀ other ∈ earlier, ¬ Clash rule other) ∧
        rules.Pairwise fun other rule ↦ ¬ Clash rule other := by
  induction rules generalizing earlier with
  | nil => simp [ruleSetErrors]
  | cons rule rest ih =>
    rw [ruleSetErrors, List.append_eq_nil_iff, ruleErrors_eq_nil_iff, ih, List.pairwise_cons]
    simp only [List.mem_append, List.mem_cons, List.not_mem_nil, or_false, forall_eq_or_imp]
    constructor
    · rintro ⟨hrule, hrest, hpair⟩
      exact ⟨⟨hrule, fun r hr o ho ↦ hrest r hr o (Or.inl ho)⟩,
        fun r hr ↦ hrest r hr rule (Or.inr rfl), hpair⟩
    · rintro ⟨⟨hrule, hrest⟩, hfirst, hpair⟩
      refine ⟨hrule, ?_, hpair⟩
      rintro r hr o (ho | rfl)
      · exact hrest r hr o ho
      · exact hfirst r hr

/-- **What a valid rule set is**: no rule clashes with one before it. -/
theorem validateRuleSet_eq_ok_iff (rules : List Rule) :
    validateRuleSet rules = .ok () ↔ rules.Pairwise fun other rule ↦ ¬ Clash rule other := by
  have h : validateRuleSet rules = .ok () ↔ ruleSetErrors [] rules = [] := by
    rw [validateRuleSet]
    split <;> simp_all
  rw [h, ruleSetErrors_eq_nil_iff]
  simp

@[simp] theorem validateRuleSet_nil : validateRuleSet [] = .ok () := rfl

theorem nodup_names_of_valid {rules : List Rule} (h : validateRuleSet rules = .ok ()) :
    (rules.map Rule.name).Nodup := by
  rw [List.Nodup, List.pairwise_map]
  exact ((validateRuleSet_eq_ok_iff rules).mp h).imp fun hclash hname ↦ hclash (Or.inl hname)

end TunnelDeck
