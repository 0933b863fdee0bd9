import Mathlib.Data.List.FinRange
import TunnelDeck.Domain.Validation

/-!
# The verdict on a rule set

`validate_rule_set` compares each rule with the rules before it only, and calls the overlap test in
one argument order. Since the test is symmetric, what it accepts is a property of the pairs of
positions of the list, so that the verdict depends neither on the order of the rules nor on rules
that are not there any more.
-/

namespace TunnelDeck

/-! ## Clashes -/

theorem listenersClash_iff (rule other : Rule) :
    listenersClash rule other = true ↔
      ∃ address otherAddress port, rule.localListener = some (address, port) ∧
        other.localListener = some (otherAddress, port) ∧
        bindAddressesOverlap address otherAddress = true := by
  rw [listenersClash]
  constructor
  · intro h
    split at h
    · next address port otherAddress otherPort hrule hother =>
      rw [Bool.and_eq_true, decide_eq_true_eq] at h
      exact ⟨address, otherAddress, port, hrule, h.1 ▸ hother, h.2⟩
    · exact absurd h Bool.false_ne_true
  · rintro ⟨address, otherAddress, port, hrule, hother, hoverlap⟩
    simp [hrule, hother, hoverlap]

theorem listenersClash_comm (rule other : Rule) :
    listenersClash rule other = listenersClash other rule := by
  rw [Bool.eq_iff_iff, listenersClash_iff, listenersClash_iff]
  constructor
  all_goals
    rintro ⟨address, otherAddress, port, hrule, hother, hoverlap⟩
    exact ⟨otherAddress, address, port, hother, hrule, bindAddressesOverlap_comm _ _ ▸ hoverlap⟩

theorem clash_comm (rule other : Rule) : Clash rule other ↔ Clash other rule := by
  rw [Clash, Clash, listenersClash_comm, eq_comm]

/-- A pairwise condition that is symmetric, read off the positions of the list. -/
theorem pairwise_not_clash_iff (rules : List Rule) :
    (rules.Pairwise fun other rule ↦ ¬ Clash rule other) ↔
      (rules.map Rule.name).Nodup ∧
        ∀ (i j : ℕ) (hi : i < rules.length) (hj : j < rules.length), i ≠ j →
          listenersClash rules[i] rules[j] = false := by
  have hsplit : (rules.Pairwise fun other rule ↦ ¬ Clash rule other) ↔
      (rules.Pairwise fun other rule ↦ other.name ≠ rule.name) ∧
        rules.Pairwise fun other rule ↦ listenersClash rule other = false := by
    simp only [Clash, not_or, ← ne_eq, Bool.not_eq_true]
    exact ⟨fun h ↦ ⟨h.imp And.left, h.imp And.right⟩, fun h ↦ h.1.and h.2⟩
  rw [hsplit, List.Nodup, List.pairwise_map]
  refine and_congr_right fun _ ↦ ?_
  rw [List.pairwise_iff_getElem]
  constructor
  · intro h i j hi hj hne
    rcases Nat.lt_or_gt_of_ne hne with hlt | hgt
    · exact listenersClash_comm _ _ ▸ h i j hi hj hlt
    · exact h j i hj hi hgt
  · intro h i j hi hj hlt
    exact h j i hj hi hlt.ne'

/-! ## Errors by position -/

theorem ruleSetErrors_eq_flatMap (earlier rules : List Rule) :
    ruleSetErrors earlier rules = (List.finRange rules.length).flatMap fun i : Fin rules.length ↦
      ruleErrors (earlier ++ rules.take i) rules[i] := by
  induction rules generalizing earlier with
  | nil => rfl
  | cons rule rest ih =>
    rw [ruleSetErrors, ih]
    simp [List.finRange_succ, List.flatMap_map]

theorem ruleSetErrors_append (earlier front back : List Rule) :
    ruleSetErrors earlier (front ++ back) =
      ruleSetErrors earlier front ++ ruleSetErrors (earlier ++ front) back := by
  induction front generalizing earlier with
  | nil => simp [ruleSetErrors]
  | cons rule rest ih => simp [ruleSetErrors, ih]

theorem errors_of_validateRuleSet {rules : List Rule} {errors : List ValidationError}
    (h : validateRuleSet rules = .error errors) : errors = ruleSetErrors [] rules := by
  rw [validateRuleSet] at h
  split at h
  · cases h
  · exact (Except.error.inj h).symm

/-- A rule contributes an error exactly when it clashes with an earlier one. -/
theorem ruleErrors_take_ne_nil_iff (rules : List Rule) (i : Fin rules.length) :
    ruleErrors (rules.take i) rules[i] ≠ [] ↔ ∃ j < i, Clash rules[i] rules[j] := by
  rw [ne_eq, ruleErrors_eq_nil_iff]
  push Not
  constructor
  · rintro ⟨other, hmem, hclash⟩
    obtain ⟨j, hj, rfl⟩ := List.mem_take_iff_getElem.mp hmem
    have hlt : j < i.1 := by omega
    exact ⟨⟨j, by omega⟩, hlt, hclash⟩
  · rintro ⟨j, hlt, hclash⟩
    have hlt : j.1 < i.1 := hlt
    exact ⟨rules[j], List.mem_take_iff_getElem.mpr ⟨j, by omega, rfl⟩, hclash⟩

/-! ## The verdict -/

theorem validateRuleSet_perm {rules other : List Rule} (h : rules.Perm other) :
    validateRuleSet rules = .ok () ↔ validateRuleSet other = .ok () := by
  rw [validateRuleSet_eq_ok_iff, validateRuleSet_eq_ok_iff]
  exact h.pairwise_iff fun hclash hcontra ↦ hclash ((clash_comm _ _).mp hcontra)

/-- Rules that are left out cannot spoil the others. -/
theorem validateRuleSet_sublist {rules sub : List Rule} (h : sub.Sublist rules)
    (hvalid : validateRuleSet rules = .ok ()) : validateRuleSet sub = .ok () := by
  rw [validateRuleSet_eq_ok_iff] at hvalid ⊢
  exact hvalid.sublist h

/-- **The verdict on a rule set.** `validate_rule_set` accepts a list exactly when its names are
distinct and the local listeners at different positions do not overlap on one port. So it accepts
every permutation of what it accepts, and every sub-list, in particular what a removal leaves. The
errors of a refused list are those of its positions in order, and a position contributes one exactly
when its rule clashes with an earlier rule. -/
theorem validateRuleSet_verdict (rules : List Rule) :
    (validateRuleSet rules = .ok () ↔
      (rules.map Rule.name).Nodup ∧
        ∀ (i j : ℕ) (hi : i < rules.length) (hj : j < rules.length), i ≠ j →
          ∀ address otherAddress port, rules[i].localListener = some (address, port) →
            rules[j].localListener = some (otherAddress, port) →
              bindAddressesOverlap address otherAddress = false) ∧
    (∀ other, rules.Perm other →
      (validateRuleSet rules = .ok () ↔ validateRuleSet other = .ok ())) ∧
    (∀ sub : List Rule, sub.Sublist rules → validateRuleSet rules = .ok () →
      validateRuleSet sub = .ok ()) ∧
    (∀ id, validateRuleSet rules = .ok () →
      validateRuleSet (rules.filter fun rule ↦ rule.id ≠ id) = .ok ()) ∧
    ∀ errors, validateRuleSet rules = .error errors →
      (errors = (List.finRange rules.length).flatMap fun i : Fin rules.length ↦
        ruleErrors (rules.take i) rules[i]) ∧
      ∀ i : Fin rules.length,
        ruleErrors (rules.take i) rules[i] ≠ [] ↔ ∃ j < i, Clash rules[i] rules[j] := by
  refine ⟨?_, fun other h ↦ validateRuleSet_perm h, fun sub h ↦ validateRuleSet_sublist h,
    fun id ↦ validateRuleSet_sublist List.filter_sublist, fun errors h ↦ ⟨?_, ?_⟩⟩
  · rw [validateRuleSet_eq_ok_iff, pairwise_not_clash_iff]
    have hclear (rule other : Rule) : listenersClash rule other = false ↔
        ∀ address otherAddress port, rule.localListener = some (address, port) →
          other.localListener = some (otherAddress, port) →
            bindAddressesOverlap address otherAddress = false := by
      rw [← Bool.not_eq_true, listenersClash_iff]
      simp
    simp only [hclear]
  · rw [errors_of_validateRuleSet h, ruleSetErrors_eq_flatMap]
    rfl
  · exact ruleErrors_take_ne_nil_iff rules

def exampleListener (id : Uuid) (name address : String) : Except ValidationError Rule := do
  (← Rule.newDynamic id name "host" 3000).withBindAddress address

/-- The second proxy takes the loopback port of the first one, and turning the two around does not
help. -/
theorem validateRuleSet_verdict_exampleListener :
    ∃ first second, exampleListener 1 "proxy" "localhost" = .ok first ∧
      exampleListener 2 "other" "127.0.0.1" = .ok second ∧
      validateRuleSet [first, second] = .error [.duplicateLocalListener "127.0.0.1" 3000] ∧
      validateRuleSet [second, first] ≠ .ok () := by
  refine ⟨_, _, rfl, rfl, by decide +kernel, fun h ↦ ?_⟩
  have hperm := (validateRuleSet_verdict _).2.1 _ (List.Perm.swap _ _ []) |>.mp h
  exact absurd hperm (by decide +kernel)

end TunnelDeck
