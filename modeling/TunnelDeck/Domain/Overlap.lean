import Mathlib.Data.Set.Basic
import TunnelDeck.Domain.RuleSet

/-!
# What the overlap of bind addresses means

A bind address denotes a set of addresses, and two listeners on one port are in each other's way
when their sets meet. `bind_addresses_overlap` is a match over pairs of classes that ends in a
catch-all `false`. It says what the sets say on every pair but two: an unspecified address paired
with itself falls through to the catch-all, although it denotes its whole family.
-/

namespace TunnelDeck

open Text (IpAddr)

/-! ## The addresses a value denotes -/

def loopbackAddresses : Set IpAddr := {address | address.isLoopback}

def v4Addresses : Set IpAddr := Set.range IpAddr.v4

def v6Addresses : Set IpAddr := Set.range IpAddr.v6

/-- What a bind address stands for: `*` for every address, an unspecified literal for its family,
`localhost` for the loopback addresses, and any other literal for itself. -/
def BindAddress.denotes (value : BindAddress) : Set IpAddr :=
  if value.asStr = "*" then Set.univ
  else if value.asStr = "localhost" then loopbackAddresses
  else
    match IpAddr.parse value.asStr with
    | some (.v4 bits) => if bits = 0 then v4Addresses else {.v4 bits}
    | some (.v6 bits) => if bits = 0 then v6Addresses else {.v6 bits}
    | none => ∅

/-- The value is a spelling of `0.0.0.0`. -/
def BindAddress.IsV4Any (value : BindAddress) : Prop :=
  IpAddr.parse value.asStr = some (.v4 0)

/-- The value is a spelling of `::`. -/
def BindAddress.IsV6Any (value : BindAddress) : Prop :=
  IpAddr.parse value.asStr = some (.v6 0)

def BindingClass.addresses : BindingClass → Set IpAddr
  | .any => Set.univ
  | .localhost => loopbackAddresses
  | .v4Any => v4Addresses
  | .v6Any => v6Addresses
  | .v4 address => {.v4 address}
  | .v6 address => {.v6 address}

/-! ## Classes of values -/

/-- A value that was accepted is a literal address unless it is one of the two words. -/
theorem BindAddress.parse_isSome {value : BindAddress} (hany : value.asStr ≠ "*")
    (hlocal : value.asStr ≠ "localhost") : (IpAddr.parse value.asStr).isSome := by
  have h := value.valid
  rw [checkBindAddress] at h
  split at h
  · next hok => exact (hok.resolve_left hlocal).resolve_left hany
  · cases h

theorem BindAddress.denotes_eq (value : BindAddress) :
    value.denotes = (BindingClass.ofAddress value).addresses := by
  rw [BindAddress.denotes, BindingClass.ofAddress]
  by_cases hany : value.asStr = "*"
  · rw [if_pos hany, if_pos hany]
    rfl
  by_cases hlocal : value.asStr = "localhost"
  · rw [if_neg hany, if_neg hany, if_pos hlocal, if_pos hlocal]
    rfl
  rw [if_neg hany, if_neg hany, if_neg hlocal]
  obtain ⟨address, haddress⟩ := Option.isSome_iff_exists.mp (parse_isSome hany hlocal)
  rw [haddress]
  rw [if_neg hlocal]
  cases address with
  | v4 bits | v6 bits =>
    by_cases hbits : bits = 0
    · rw [hbits]
      rfl
    · simp only [IpAddr.isUnspecified, hbits, decide_false, Bool.false_eq_true, if_false]
      rfl

theorem BindAddress.asStr_ne_of_parse {value : BindAddress} {address : IpAddr}
    (h : IpAddr.parse value.asStr = some address) :
    value.asStr ≠ "*" ∧ value.asStr ≠ "localhost" := by
  constructor
  all_goals
    intro hword
    rw [hword] at h
    exact absurd h (by simp [show IpAddr.parse "*" = none by decide,
      show IpAddr.parse "localhost" = none by decide])

theorem BindAddress.ofAddress_eq_v4Any_iff (value : BindAddress) :
    BindingClass.ofAddress value = .v4Any ↔ value.IsV4Any := by
  rw [BindAddress.IsV4Any, BindingClass.ofAddress]
  constructor
  · intro h
    split at h
    · cases h
    split at h
    · cases h
    split at h
    · next address hparse =>
      split at h
      · next hbits => simp_all [IpAddr.isUnspecified]
      · cases h
    · split at h <;> cases h
    · cases h
  · intro h
    obtain ⟨hany, hlocal⟩ := asStr_ne_of_parse h
    rw [if_neg hany, if_neg hlocal, h]
    rfl

theorem BindAddress.ofAddress_eq_v6Any_iff (value : BindAddress) :
    BindingClass.ofAddress value = .v6Any ↔ value.IsV6Any := by
  rw [BindAddress.IsV6Any, BindingClass.ofAddress]
  constructor
  · intro h
    split at h
    · cases h
    split at h
    · cases h
    split at h
    · split at h <;> cases h
    · next address hparse =>
      split at h
      · next hbits => simp_all [IpAddr.isUnspecified]
      · cases h
    · cases h
  · intro h
    obtain ⟨hany, hlocal⟩ := asStr_ne_of_parse h
    rw [if_neg hany, if_neg hlocal, h]
    rfl

/-! ## Overlap of classes -/

theorem loopback_v4 : IpAddr.v4 0x7F000001 ∈ loopbackAddresses :=
  show IpAddr.isLoopback _ = true by decide

theorem loopback_v6 : IpAddr.v6 1 ∈ loopbackAddresses :=
  show IpAddr.isLoopback _ = true by decide

theorem v4_notMem_v6Addresses (bits : BitVec 32) : IpAddr.v4 bits ∉ v6Addresses := by
  rintro ⟨_, h⟩
  cases h

theorem v6_notMem_v4Addresses (bits : BitVec 128) : IpAddr.v6 bits ∉ v4Addresses := by
  rintro ⟨_, h⟩
  cases h

theorem not_nonempty_v4_inter_v6 : ¬ (v4Addresses ∩ v6Addresses).Nonempty := by
  rintro ⟨address, ⟨bits, rfl⟩, hv6⟩
  exact v4_notMem_v6Addresses bits hv6

namespace BindingClass

theorem addresses_nonempty (c : BindingClass) : c.addresses.Nonempty := by
  cases c with
  | any => exact ⟨.v4 0, Set.mem_univ _⟩
  | localhost => exact ⟨_, loopback_v4⟩
  | v4Any => exact ⟨_, 0, rfl⟩
  | v6Any => exact ⟨_, 0, rfl⟩
  | v4 address => exact ⟨.v4 address, rfl⟩
  | v6 address => exact ⟨.v6 address, rfl⟩

theorem overlap_any_iff (c : BindingClass) :
    c.overlap .any = true ↔ (c.addresses ∩ addresses .any).Nonempty := by
  refine iff_of_true ?_ ((Set.inter_univ _).symm ▸ c.addresses_nonempty)
  cases c <;> rfl

theorem overlap_localhost_iff (c : BindingClass) :
    c.overlap .localhost = true ↔ (c.addresses ∩ addresses .localhost).Nonempty := by
  cases c with
  | any => exact iff_of_true rfl ⟨_, Set.mem_univ _, loopback_v4⟩
  | localhost => exact iff_of_true rfl ⟨_, loopback_v4, loopback_v4⟩
  | v4Any => exact iff_of_true rfl ⟨_, ⟨_, rfl⟩, loopback_v4⟩
  | v6Any => exact iff_of_true rfl ⟨_, ⟨_, rfl⟩, loopback_v6⟩
  | v4 address | v6 address =>
    rw [show addresses _ = {_} from rfl, Set.singleton_inter_nonempty]
    exact Iff.rfl

theorem overlap_v4Any_iff {c : BindingClass} (h : c ≠ .v4Any) :
    c.overlap .v4Any = true ↔ (c.addresses ∩ addresses .v4Any).Nonempty := by
  cases c with
  | any => exact iff_of_true rfl ⟨.v4 0, Set.mem_univ _, 0, rfl⟩
  | localhost => exact iff_of_true rfl ⟨_, loopback_v4, _, rfl⟩
  | v4Any => exact absurd rfl h
  | v6Any =>
    refine iff_of_false Bool.false_ne_true ?_
    rw [Set.inter_comm]
    exact not_nonempty_v4_inter_v6
  | v4 address => exact iff_of_true rfl ⟨_, rfl, address, rfl⟩
  | v6 address =>
    refine iff_of_false Bool.false_ne_true fun hmeet ↦ ?_
    exact v6_notMem_v4Addresses address (Set.singleton_inter_nonempty.mp hmeet)

theorem overlap_v6Any_iff {c : BindingClass} (h : c ≠ .v6Any) :
    c.overlap .v6Any = true ↔ (c.addresses ∩ addresses .v6Any).Nonempty := by
  cases c with
  | any => exact iff_of_true rfl ⟨.v6 0, Set.mem_univ _, 0, rfl⟩
  | localhost => exact iff_of_true rfl ⟨_, loopback_v6, _, rfl⟩
  | v4Any => exact iff_of_false Bool.false_ne_true not_nonempty_v4_inter_v6
  | v6Any => exact absurd rfl h
  | v4 address =>
    refine iff_of_false Bool.false_ne_true fun hmeet ↦ ?_
    exact v4_notMem_v6Addresses address (Set.singleton_inter_nonempty.mp hmeet)
  | v6 address => exact iff_of_true rfl ⟨_, rfl, address, rfl⟩

theorem overlap_v4_iff (c : BindingClass) (address : BitVec 32) :
    c.overlap (.v4 address) = true ↔ (c.addresses ∩ addresses (.v4 address)).Nonempty := by
  rw [show addresses (.v4 address) = {.v4 address} from rfl, Set.inter_singleton_nonempty]
  cases c with
  | any => exact iff_of_true rfl (Set.mem_univ _)
  | localhost => exact Iff.rfl
  | v4Any => exact iff_of_true rfl ⟨_, rfl⟩
  | v6Any => exact iff_of_false Bool.false_ne_true (v4_notMem_v6Addresses address)
  | v4 value =>
    rw [show overlap (.v4 value) (.v4 address) = decide (value = address) from rfl,
      decide_eq_true_iff, eq_comm, ← IpAddr.v4.injEq]
    exact Iff.rfl
  | v6 value => exact iff_of_false Bool.false_ne_true fun h ↦ IpAddr.noConfusion h

theorem overlap_v6_iff (c : BindingClass) (address : BitVec 128) :
    c.overlap (.v6 address) = true ↔ (c.addresses ∩ addresses (.v6 address)).Nonempty := by
  rw [show addresses (.v6 address) = {.v6 address} from rfl, Set.inter_singleton_nonempty]
  cases c with
  | any => exact iff_of_true rfl (Set.mem_univ _)
  | localhost => exact Iff.rfl
  | v4Any => exact iff_of_false Bool.false_ne_true (v6_notMem_v4Addresses address)
  | v6Any => exact iff_of_true rfl ⟨_, rfl⟩
  | v4 value => exact iff_of_false Bool.false_ne_true fun h ↦ IpAddr.noConfusion h
  | v6 value =>
    rw [show overlap (.v6 value) (.v6 address) = decide (value = address) from rfl,
      decide_eq_true_iff, eq_comm, ← IpAddr.v6.injEq]
    exact Iff.rfl

/-- The pairs of classes that the catch-all gets wrong. -/
def Missed (left right : BindingClass) : Prop :=
  left = .v4Any ∧ right = .v4Any ∨ left = .v6Any ∧ right = .v6Any

/-- Outside the missed pairs the comparison says whether the classes meet. -/
theorem overlap_iff {left right : BindingClass} (h : ¬ left.Missed right) :
    left.overlap right = true ↔ (left.addresses ∩ right.addresses).Nonempty := by
  cases right with
  | any => exact left.overlap_any_iff
  | localhost => exact left.overlap_localhost_iff
  | v4Any => exact overlap_v4Any_iff fun hleft ↦ h (Or.inl ⟨hleft, rfl⟩)
  | v6Any => exact overlap_v6Any_iff fun hleft ↦ h (Or.inr ⟨hleft, rfl⟩)
  | v4 address => exact left.overlap_v4_iff address
  | v6 address => exact left.overlap_v6_iff address

/-- The classes of a missed pair meet, which the comparison denies. -/
theorem overlap_of_missed {left right : BindingClass} (h : left.Missed right) :
    left.overlap right = false ∧ (left.addresses ∩ right.addresses).Nonempty := by
  rcases h with ⟨rfl, rfl⟩ | ⟨rfl, rfl⟩
  · exact ⟨rfl, .v4 0, ⟨0, rfl⟩, 0, rfl⟩
  · exact ⟨rfl, .v6 0, ⟨0, rfl⟩, 0, rfl⟩

end BindingClass

/-! ## Overlap of values -/

/-- The two values are spellings of one unspecified address. -/
def SameUnspecified (left right : BindAddress) : Prop :=
  left.IsV4Any ∧ right.IsV4Any ∨ left.IsV6Any ∧ right.IsV6Any

theorem missed_ofAddress_iff (left right : BindAddress) :
    (BindingClass.ofAddress left).Missed (BindingClass.ofAddress right) ↔
      SameUnspecified left right := by
  rw [BindingClass.Missed, SameUnspecified]
  simp only [BindAddress.ofAddress_eq_v4Any_iff, BindAddress.ofAddress_eq_v6Any_iff]

/-- The comparison agrees with the sets on every pair but two. -/
theorem bindAddressesOverlap_iff (left right : BindAddress) :
    (bindAddressesOverlap left right = true ↔ (left.denotes ∩ right.denotes).Nonempty) ↔
      ¬ SameUnspecified left right := by
  rw [← missed_ofAddress_iff, left.denotes_eq, right.denotes_eq, bindAddressesOverlap]
  refine ⟨fun h hmissed ↦ ?_, BindingClass.overlap_iff⟩
  obtain ⟨hfalse, hmeet⟩ := BindingClass.overlap_of_missed hmissed
  exact absurd (h.mpr hmeet) (hfalse ▸ Bool.false_ne_true)

/-- The value is a spelling of an unspecified address. -/
def BindAddress.IsUnspecified (value : BindAddress) : Prop :=
  value.IsV4Any ∨ value.IsV6Any

theorem sameUnspecified_self_iff (value : BindAddress) :
    SameUnspecified value value ↔ value.IsUnspecified := by
  simp only [SameUnspecified, and_self, BindAddress.IsUnspecified]

theorem bindAddressesOverlap_self_iff (value : BindAddress) :
    bindAddressesOverlap value value = true ↔ ¬ value.IsUnspecified := by
  rw [← sameUnspecified_self_iff, ← bindAddressesOverlap_iff]
  have hmeet : (value.denotes ∩ value.denotes).Nonempty := by
    rw [Set.inter_self, value.denotes_eq]
    exact BindingClass.addresses_nonempty _
  simp only [hmeet, iff_true]

/-! ## Two listeners written alike -/

/-- Wherever two rules of a list listen on this address and one port, the second is reported. -/
def AlwaysReported (address : BindAddress) : Prop :=
  ∀ (port : Port) (before between after : List Rule) (first second : Rule),
    first.localListener = some (address, port) → second.localListener = some (address, port) →
      ∃ errors, validateRuleSet (before ++ first :: between ++ second :: after) = .error errors ∧
        .duplicateLocalListener address.asStr port.get ∈ errors

/-- A listener that overlaps an earlier one is reported with its own text. -/
theorem mem_ruleErrors_of_listenersClash {earlier : List Rule} {rule other : Rule}
    {address : BindAddress} {port : Port} (hrule : rule.localListener = some (address, port))
    (hother : other ∈ earlier) (hclash : listenersClash rule other = true) :
    .duplicateLocalListener address.asStr port.get ∈ ruleErrors earlier rule := by
  have hany : (earlier.any fun other ↦ listenersClash rule other) = true :=
    List.any_eq_true.mpr ⟨other, hother, hclash⟩
  rw [ruleErrors, hrule, List.mem_append]
  simp [hany]

theorem validateRuleSet_eq_error_of_mem {rules : List Rule} {error : ValidationError}
    (h : error ∈ ruleSetErrors [] rules) :
    validateRuleSet rules = .error (ruleSetErrors [] rules) := by
  rw [validateRuleSet, if_neg (List.ne_nil_of_mem h)]

theorem alwaysReported_iff (address : BindAddress) :
    AlwaysReported address ↔ ¬ address.IsUnspecified := by
  rw [← bindAddressesOverlap_self_iff]
  constructor
  · intro h
    -- two proxies on the address, with different names
    let proxy (name : RuleName) : Rule := {
      id := 0, name, sshHostAlias := ⟨"host", by decide⟩
      forwarding := .dynamicForwarding ⟨address, ⟨1, by decide⟩⟩
      autoStart := false, reconnect := false }
    let first := proxy ⟨"first", by decide⟩
    let second := proxy ⟨"second", by decide⟩
    obtain ⟨errors, herrors, hmem⟩ := h _ [] [] [] first second rfl rfl
    by_contra hoverlap
    have hvalid : validateRuleSet [first, second] = .ok () := by
      rw [validateRuleSet_eq_ok_iff, List.pairwise_pair]
      rintro (hname | hclash)
      · exact absurd (congrArg Checked.asStr hname) (show ¬ "first" = "second" by decide)
      · rw [listenersClash_iff] at hclash
        obtain ⟨a, b, p, ha, hb, hab⟩ := hclash
        cases ha
        cases hb
        exact hoverlap hab
    exact absurd (hvalid.symm.trans herrors) (by simp)
  · intro hoverlap port before between after first second hfirst hsecond
    have hclash : listenersClash second first = true :=
      (listenersClash_iff _ _).mpr ⟨address, address, port, hsecond, hfirst, hoverlap⟩
    have hearlier : first ∈ before ++ first :: between := by simp
    have hmem : .duplicateLocalListener address.asStr port.get ∈
        ruleSetErrors [] (before ++ first :: between ++ second :: after) := by
      rw [ruleSetErrors_append, List.mem_append, ruleSetErrors, List.mem_append]
      exact Or.inr (Or.inl (mem_ruleErrors_of_listenersClash hsecond hearlier hclash))
    exact ⟨_, validateRuleSet_eq_error_of_mem hmem, hmem⟩

/-- **What the overlap means.** The comparison says of two bind addresses whether the addresses they
denote intersect, exactly when they are not the same unspecified address. It is symmetric; it holds
of an address and itself, and two listeners written alike are always reported, exactly when the
address is not an unspecified one. -/
theorem bindAddressesOverlap_meaning (left right : BindAddress) :
    ((bindAddressesOverlap left right = true ↔ (left.denotes ∩ right.denotes).Nonempty) ↔
      ¬ SameUnspecified left right) ∧
    bindAddressesOverlap left right = bindAddressesOverlap right left ∧
    (bindAddressesOverlap left left = true ↔ ¬ left.IsUnspecified) ∧
    (AlwaysReported left ↔ ¬ left.IsUnspecified) :=
  ⟨bindAddressesOverlap_iff left right, bindAddressesOverlap_comm left right,
    bindAddressesOverlap_self_iff left, alwaysReported_iff left⟩

/-- Two proxies on `0.0.0.0:3000` are accepted in one set, although the value meets itself. -/
theorem exampleListener_unspecified :
    ∃ first second, exampleListener 1 "proxy" "0.0.0.0" = .ok first ∧
      exampleListener 2 "other" "0.0.0.0" = .ok second ∧
      first.localListener = second.localListener ∧
      validateRuleSet [first, second] = .ok () ∧
      ∃ address : BindAddress, address.asStr = "0.0.0.0" ∧
        bindAddressesOverlap address address = false ∧
        (address.denotes ∩ address.denotes).Nonempty := by
  refine ⟨_, _, rfl, rfl, rfl, by decide +kernel, ⟨"0.0.0.0", by decide⟩, rfl, by decide, ?_⟩
  rw [Set.inter_self, BindAddress.denotes_eq]
  exact BindingClass.addresses_nonempty _

end TunnelDeck
