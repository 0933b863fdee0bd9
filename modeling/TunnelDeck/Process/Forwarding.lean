import TunnelDeck.Application.Forwards
import TunnelDeck.Text.AddressText
import TunnelDeck.Text.Decimal
import TunnelDeck.Text.Fields

/-!
# The forwarding argument of `ssh`

`forwarding` writes the forwarding of a rule as one argument of `ssh`, with brackets around an
address that contains a colon. `ssh` reads the fields back. Brackets are added for the sake of the
colon only, so a destination host that begins with a bracket itself is written as it is, and read as
a field in brackets.
-/

namespace TunnelDeck.Process

open Text (Bare FieldMode parseU16 readFields)

/-! ## Writing -/

/-- `bracket`. -/
def bracket (value : String) : String :=
  if ':' ∈ value.toList then "[" ++ value ++ "]" else value

/-- `forwarding`: the flag and the argument. -/
def forwarding (rule : Rule) : String × String :=
  match rule.forwarding with
  | .localForwarding value =>
    ("-L", bracket value.bindAddress.asStr ++ ":" ++ toString value.bindPort.get.toNat ++ ":" ++
      bracket value.destinationHost.asStr ++ ":" ++ toString value.destinationPort.get.toNat)
  | .remoteForwarding value =>
    ("-R", bracket value.bindAddress.asStr ++ ":" ++ toString value.bindPort.get.toNat ++ ":" ++
      bracket value.destinationHost.asStr ++ ":" ++ toString value.destinationPort.get.toNat)
  | .dynamicForwarding value =>
    ("-D", bracket value.bindAddress.asStr ++ ":" ++ toString value.bindPort.get.toNat)

/-! ## Reading -/

def readListener : List (List Char) → Option (String × UInt16)
  | [address, port] => (parseU16 port).map fun port ↦ (String.ofList address, port)
  | _ => none

/-- A bind address, a port, and the host and port it leads to. -/
def readForward : List (List Char) → Option ((String × UInt16) × String × UInt16)
  | [address, port, host, hostPort] => do
    return (← readListener [address, port], ← readListener [host, hostPort])
  | _ => none

/-- What `ssh` understands a flag and its argument as. -/
def readForwarding (argument : String × String) : Option ImportForwarding := do
  let fields ← readFields .start argument.2.toList
  if argument.1 = "-L" then
    let ((address, port), host, hostPort) ← readForward fields
    return .localForward address port host hostPort
  else if argument.1 = "-R" then
    let ((address, port), host, hostPort) ← readForward fields
    return .remoteForward address port host hostPort
  else if argument.1 = "-D" then
    let (address, port) ← readListener fields
    return .dynamicForward address port
  else none

/-! ## Values -/

/-- A text that comes back when it is written with `bracket` and read. -/
structure Writable (value : String) : Prop where
  bracketed : ':' ∈ value.toList → ']' ∉ value.toList
  bare : ':' ∉ value.toList → value.toList.head? ≠ some '['

/-- A text without white space and control characters. -/
def Clean (value : String) : Prop :=
  ∀ c ∈ value.toList, Text.isWhitespace c = false ∧ Text.isControl c = false

/-- An argument that `ssh` does not take for an option, in one piece. -/
structure Plain (value : String) : Prop where
  option : value.toList.head? ≠ some '-'
  clean : Clean value

theorem toList_bracket (value : String) :
    (bracket value).toList =
      if ':' ∈ value.toList then '[' :: (value.toList ++ [']']) else value.toList := by
  rw [bracket]
  split
  · simp only [String.toList_append]
    rfl
  · rfl

theorem readFields_bracket {value : String} (h : Writable value) (rest : List Char) :
    readFields .start ((bracket value).toList ++ ':' :: rest) =
      (readFields .start rest).map (value.toList :: ·) := by
  rw [toList_bracket]
  split
  · next hcolon =>
    simpa using Text.readFields_brackets (h.bracketed hcolon) rest
  · next hcolon => exact Bare.readFields ⟨hcolon, h.bare hcolon⟩ rest

theorem mem_bracket {value : String} {c : Char} (h : c ∈ (bracket value).toList) :
    c = '[' ∨ c = ']' ∨ c ∈ value.toList := by
  rw [toList_bracket] at h
  split at h
  · simpa [or_comm, or_assoc, or_left_comm] using h
  · exact Or.inr (Or.inr h)

theorem clean_of_all {value : String}
    (h : (value.toList.all fun c ↦ !Text.isWhitespace c && !Text.isControl c) = true) :
    Clean value := by
  intro c hc
  simpa using List.all_eq_true.mp h c hc

theorem Clean.append {value other : String} (h : Clean value) (h' : Clean other) :
    Clean (value ++ other) := by
  intro c hc
  rw [String.toList_append, List.mem_append] at hc
  exact hc.elim (h c) (h' c)

theorem Clean.bracket {value : String} (h : Clean value) : Clean (bracket value) := by
  intro c hc
  rcases mem_bracket hc with rfl | rfl | hc
  · decide
  · decide
  · exact h c hc

theorem Plain.bracket {value : String} (h : Plain value) : Plain (bracket value) where
  option := by
    rw [toList_bracket]
    split
    · simp
    · exact h.option
  clean := h.clean.bracket

/-- What follows a colon cannot make an option of the text. -/
theorem Plain.append_colon {value rest : String} (h : Plain value) (hrest : Clean rest) :
    Plain (value ++ ":" ++ rest) where
  option := by
    rw [String.append_assoc, String.toList_append]
    cases hlist : value.toList with
    | nil => simp
    | cons c cs => simpa [hlist] using h.option
  clean := (h.clean.append (clean_of_all (by decide))).append hrest

theorem bracket_inj {value other : String} (h : bracket value = bracket other) : value = other := by
  have hlist := congrArg String.toList h
  rw [toList_bracket, toList_bracket] at hlist
  refine String.toList_inj.mp ?_
  split at hlist <;> split at hlist
  · simpa using hlist
  · next hvalue hother => exact absurd (hlist ▸ (by simp [hvalue])) hother
  · next hvalue hother => exact absurd (hlist ▸ (by simp [hother])) hvalue
  · exact hlist

/-! ## Addresses, hosts and ports -/

/-- A literal address is written and read without loss, and is no option. -/
theorem writable_of_parse {value : String} (h : (Text.IpAddr.parse value).isSome) :
    Writable value where
  bracketed _ hclosing :=
    (Text.IpAddr.addressChar_of_parse h _ hclosing).ne (Or.inr (Or.inr rfl)) rfl
  bare _ hopening :=
    (Text.IpAddr.addressChar_of_parse h _ (List.mem_of_head? hopening)).ne (Or.inr (Or.inl rfl)) rfl

theorem plain_of_parse {value : String} (h : (Text.IpAddr.parse value).isSome) : Plain value where
  option hhyphen :=
    (Text.IpAddr.addressChar_of_parse h _ (List.mem_of_head? hhyphen)).ne (Or.inl rfl) rfl
  clean c hc :=
    let hchar := Text.IpAddr.addressChar_of_parse h c hc
    ⟨hchar.isWhitespace, hchar.isControl⟩

theorem bindAddress_cases (address : BindAddress) :
    address.asStr = "localhost" ∨ address.asStr = "*" ∨
      (Text.IpAddr.parse address.asStr).isSome := by
  have h := address.valid
  rw [checkBindAddress] at h
  split at h
  · next hok => exact hok
  · cases h

theorem writable_bindAddress (address : BindAddress) : Writable address.asStr := by
  rcases bindAddress_cases address with h | h | h
  · rw [h]
    exact ⟨by decide, by decide⟩
  · rw [h]
    exact ⟨by decide, by decide⟩
  · exact writable_of_parse h

theorem plain_bindAddress (address : BindAddress) : Plain address.asStr := by
  rcases bindAddress_cases address with h | h | h
  · rw [h]
    exact ⟨by decide, clean_of_all (by decide)⟩
  · rw [h]
    exact ⟨by decide, clean_of_all (by decide)⟩
  · exact plain_of_parse h

theorem parse_of_colon (host : DestinationHost) (hcolon : ':' ∈ host.asStr.toList) :
    (Text.IpAddr.parse host.asStr).isSome := by
  have h := host.valid
  rw [checkDestinationHost] at h
  split at h
  · cases h
  split at h
  · cases h
  · next hok => simpa [hcolon, Option.ne_none_iff_isSome] using hok

/-- What the check of a text without spaces leaves out. -/
theorem clean_of_validateText {value : String} {field : Field} {maxCharacters : ℕ}
    (h : validateText value field maxCharacters false = .ok ()) : Clean value := by
  simp only [validateText] at h
  split at h
  · cases h
  split at h
  · cases h
  split at h
  · cases h
  split at h
  · cases h
  split at h
  · cases h
  next hcontrol hspace =>
  simp only [Bool.not_eq_true, List.any_eq_false, Bool.false_eq_true, not_false_eq_true,
    true_and] at hcontrol hspace
  exact fun c hc ↦ ⟨hspace c hc, hcontrol c hc⟩

theorem clean_destinationHost (host : DestinationHost) : Clean host.asStr := by
  have h := host.valid
  rw [checkDestinationHost] at h
  split at h
  · cases h
  · next hok => exact clean_of_validateText hok

theorem writable_destinationHost {host : DestinationHost}
    (h : host.asStr.toList.head? ≠ some '[') : Writable host.asStr where
  bracketed hcolon := (writable_of_parse (parse_of_colon host hcolon)).bracketed hcolon
  bare _ := h

theorem plain_sshHostAlias (host : HostAlias) : Plain host.asStr := by
  have h := host.valid
  simp only [checkHostAlias] at h
  split at h
  · cases h
  split at h
  · cases h
  split at h
  · cases h
  split at h
  · cases h
  split at h
  · cases h
  split at h
  · cases h
  next hcontrol hspace hoption =>
  simp only [Bool.not_eq_true, List.any_eq_false] at hcontrol hspace
  exact ⟨hoption, fun c hc ↦ ⟨hspace c hc, hcontrol c hc⟩⟩

theorem bare_port (port : UInt16) : Bare (toString port.toNat).toList :=
  .of_isDigit fun _ hc ↦ Text.isDigit_of_mem_toString hc

theorem readListener_text (address : String) (port : UInt16) :
    readListener [address.toList, (toString port.toNat).toList] = some (address, port) := by
  rw [readListener, Text.parseU16_toString, Option.map_some, String.ofList_toList]

/-! ## Arguments -/

/-- The argument of a local or a remote forwarding. -/
def forwardSpec (address : String) (port : UInt16) (host : String) (hostPort : UInt16) : String :=
  bracket address ++ ":" ++ toString port.toNat ++ ":" ++ bracket host ++ ":" ++
    toString hostPort.toNat

/-- The argument of a dynamic forwarding. -/
def listenerSpec (address : String) (port : UInt16) : String :=
  bracket address ++ ":" ++ toString port.toNat

theorem toList_listenerSpec (address : String) (port : UInt16) :
    (listenerSpec address port).toList =
      (bracket address).toList ++ ':' :: (toString port.toNat).toList := by
  simp [listenerSpec]

theorem toList_forwardSpec (address : String) (port : UInt16) (host : String) (hostPort : UInt16) :
    (forwardSpec address port host hostPort).toList =
      (bracket address).toList ++ ':' :: ((toString port.toNat).toList ++
        ':' :: (listenerSpec host hostPort).toList) := by
  simp [forwardSpec, listenerSpec]

theorem forwarding_local {rule : Rule} {value : LocalForwarding}
    (h : rule.forwarding = .localForwarding value) :
    forwarding rule = ("-L", forwardSpec value.bindAddress.asStr value.bindPort.get
      value.destinationHost.asStr value.destinationPort.get) := by
  rw [forwarding, h]
  rfl

theorem forwarding_remote {rule : Rule} {value : RemoteForwarding}
    (h : rule.forwarding = .remoteForwarding value) :
    forwarding rule = ("-R", forwardSpec value.bindAddress.asStr value.bindPort.get
      value.destinationHost.asStr value.destinationPort.get) := by
  rw [forwarding, h]
  rfl

theorem forwarding_dynamic {rule : Rule} {value : DynamicForwarding}
    (h : rule.forwarding = .dynamicForwarding value) :
    forwarding rule = ("-D", listenerSpec value.bindAddress.asStr value.bindPort.get) := by
  rw [forwarding, h]
  rfl

/-! ## Reading what was written -/

theorem readFields_listenerSpec {address : String} (h : Writable address) (port : UInt16) :
    readFields .start (listenerSpec address port).toList =
      some [address.toList, (toString port.toNat).toList] := by
  rw [toList_listenerSpec, readFields_bracket h, (bare_port port).readFields_end]
  rfl

theorem readFields_forwardSpec {address : String} (h : Writable address) (port : UInt16)
    (host : String) (hostPort : UInt16) :
    readFields .start (forwardSpec address port host hostPort).toList =
      (readFields .start (listenerSpec host hostPort).toList).map
        fun fields ↦ address.toList :: (toString port.toNat).toList :: fields := by
  rw [toList_forwardSpec, readFields_bracket h, (bare_port port).readFields, Option.map_map]
  rfl

theorem readForward_ne_of_bracket {address : String} (haddress : Writable address)
    {host : DestinationHost} (h : host.asStr.toList.head? = some '[') (port hostPort : UInt16) :
    (readFields .start (forwardSpec address port host.asStr hostPort).toList).bind readForward ≠
      some ((address, port), host.asStr, hostPort) := by
  have hcolon : ':' ∉ host.asStr.toList := by
    intro hcolon
    exact (Text.IpAddr.addressChar_of_parse (parse_of_colon host hcolon) _
      (List.mem_of_head? h)).ne (Or.inr (Or.inl rfl)) rfl
  obtain ⟨inner, hinner⟩ : ∃ inner, host.asStr.toList = '[' :: inner := by
    obtain ⟨c, inner, hcons⟩ := List.exists_cons_of_ne_nil (fun hnil ↦ by simp [hnil] at h :
      host.asStr.toList ≠ [])
    rw [hcons, List.head?_cons, Option.some.injEq] at h
    exact ⟨inner, h ▸ hcons⟩
  have hrest : ']' ∉ (toString hostPort.toNat).toList :=
    fun hmem ↦ absurd (Text.isDigit_of_mem_toString hmem) (by decide)
  intro hread
  obtain ⟨fields, hfields, hforward⟩ := Option.bind_eq_some_iff.mp hread
  rw [readFields_forwardSpec haddress] at hfields
  obtain ⟨last, hlast, rfl⟩ := Option.map_eq_some_iff.mp hfields
  rw [toList_listenerSpec, toList_bracket, if_neg hcolon, hinner] at hlast
  obtain ⟨field, others, rfl, hshort⟩ := Text.length_lt_of_readFields
    (fun hmem ↦ hcolon (hinner ▸ List.mem_cons_of_mem _ hmem)) hrest hlast
  -- the host that was read is the field, which is too short
  match others, hforward with
  | [hostPort'], hforward =>
    obtain ⟨first, -, hforward⟩ := Option.bind_eq_some_iff.mp hforward
    obtain ⟨second, hsecond, hforward⟩ := Option.bind_eq_some_iff.mp hforward
    obtain ⟨port', -, rfl⟩ := Option.map_eq_some_iff.mp hsecond
    have hhost : String.ofList field = host.asStr :=
      congrArg (fun r ↦ r.2.1) (Option.some.inj hforward)
    rw [← String.toList_inj, String.toList_ofList, hinner] at hhost
    rw [hhost, List.length_cons] at hshort
    omega

/-- **A forwarding is read back** exactly when its host does not begin with a bracket. -/
theorem readForward_forwardSpec_iff (address : BindAddress) (port : UInt16)
    (host : DestinationHost) (hostPort : UInt16) :
    (readFields .start (forwardSpec address.asStr port host.asStr hostPort).toList).bind
        readForward = some ((address.asStr, port), host.asStr, hostPort) ↔
      host.asStr.toList.head? ≠ some '[' := by
  refine ⟨fun hread h ↦ ?_, fun h ↦ ?_⟩
  · exact readForward_ne_of_bracket (writable_bindAddress address) h port hostPort hread
  · rw [readFields_forwardSpec (writable_bindAddress address),
      readFields_listenerSpec (writable_destinationHost h)]
    simp only [Option.map_some, Option.bind_some, readForward, readListener_text]
    rfl

/-! ## Different forwardings -/

theorem colon_notMem_port (port : UInt16) : ':' ∉ (toString port.toNat).toList :=
  (bare_port port).colon

theorem port_inj {port other : UInt16}
    (h : (toString port.toNat).toList = (toString other.toNat).toList) : port = other := by
  have hread := Text.parseU16_toString port
  rw [h, Text.parseU16_toString] at hread
  exact (Option.some.inj hread).symm

/-- The last colon tells the port apart from what stands before it. -/
theorem listenerSpec_inj {host otherHost : String} {port otherPort : UInt16}
    (h : listenerSpec host port = listenerSpec otherHost otherPort) :
    host = otherHost ∧ port = otherPort := by
  have hlist := congrArg (List.reverse ∘ String.toList) h
  simp only [Function.comp_apply, toList_listenerSpec, List.reverse_append, List.reverse_cons,
    List.append_assoc, List.singleton_append] at hlist
  have hport (port : UInt16) : ':' ∉ (toString port.toNat).toList.reverse :=
    fun hmem ↦ colon_notMem_port port (List.mem_reverse.mp hmem)
  obtain ⟨hports, hhosts⟩ := Text.append_cons_inj (hport port) (hport otherPort) hlist
  exact ⟨bracket_inj (String.toList_inj.mp (List.reverse_inj.mp hhosts)),
    port_inj (List.reverse_inj.mp hports)⟩

/-- The bind address ends at the first colon outside its brackets. -/
theorem bracket_append_inj {address other : String} (ha : Writable address) (ho : Writable other)
    {rest otherRest : List Char}
    (h : (bracket address).toList ++ ':' :: rest = (bracket other).toList ++ ':' :: otherRest) :
    address = other ∧ rest = otherRest := by
  rw [toList_bracket, toList_bracket] at h
  split at h <;> split at h
  · next hcolon hcolon' =>
    simp only [List.cons_append, List.append_assoc, List.cons.injEq, true_and] at h
    obtain ⟨haddress, hrest⟩ :=
      Text.append_cons_inj (ha.bracketed hcolon) (ho.bracketed hcolon') h
    exact ⟨String.toList_inj.mp haddress, (List.cons.inj hrest).2⟩
  · next hcolon' =>
    have hhead := congrArg List.head? h
    cases hlist : other.toList with
    | nil => simp [hlist] at hhead
    | cons c cs =>
      have hbare := ho.bare hcolon'
      simp [hlist] at hhead hbare
      exact absurd hhead.symm hbare
  · next hcolon hcolon' =>
    have hhead := congrArg List.head? h
    cases hlist : address.toList with
    | nil => simp [hlist] at hhead
    | cons c cs =>
      have hbare := ha.bare hcolon
      simp [hlist] at hhead hbare
      exact absurd hhead hbare
  · next hcolon hcolon' =>
    obtain ⟨haddress, hrest⟩ := Text.append_cons_inj hcolon hcolon' h
    exact ⟨String.toList_inj.mp haddress, hrest⟩

theorem forwardSpec_inj {address other : BindAddress}
    {port otherPort hostPort otherHostPort : UInt16} {host otherHost : String}
    (h : forwardSpec address.asStr port host hostPort =
      forwardSpec other.asStr otherPort otherHost otherHostPort) :
    address.asStr = other.asStr ∧ port = otherPort ∧ host = otherHost ∧
      hostPort = otherHostPort := by
  have hlist := congrArg String.toList h
  rw [toList_forwardSpec, toList_forwardSpec] at hlist
  obtain ⟨haddress, hrest⟩ :=
    bracket_append_inj (writable_bindAddress address) (writable_bindAddress other) hlist
  obtain ⟨hport, hlast⟩ :=
    Text.append_cons_inj (colon_notMem_port port) (colon_notMem_port otherPort) hrest
  obtain ⟨hhost, hhostPort⟩ := listenerSpec_inj (String.toList_inj.mp hlast)
  exact ⟨haddress, port_inj hport, hhost, hhostPort⟩

theorem checked_ext {check : String → Except ValidationError Unit} {value other : Checked check}
    (h : value.asStr = other.asStr) : value = other := by
  cases value
  cases other
  cases h
  rfl

theorem port_ext {port other : Port} (h : port.get = other.get) : port = other := by
  cases port
  cases other
  cases h
  rfl

theorem forwarding_inj {rule other : Rule} (h : forwarding rule = forwarding other) :
    rule.forwarding = other.forwarding := by
  -- forwardings of different kinds have different flags
  rcases hrule : rule.forwarding with value | value | value <;>
    rcases hother : other.forwarding with value' | value' | value' <;>
    simp only [forwarding, hrule, hother, Prod.mk.injEq, String.reduceEq, false_and, true_and] at h
  · obtain ⟨ha, hp, hh, hq⟩ := forwardSpec_inj h
    have hvalue : value = value' := by
      cases value
      cases value'
      simp only at ha hp hh hq
      rw [checked_ext ha, port_ext hp, checked_ext hh, port_ext hq]
    rw [hvalue]
  · obtain ⟨ha, hp, hh, hq⟩ := forwardSpec_inj h
    have hvalue : value = value' := by
      cases value
      cases value'
      simp only at ha hp hh hq
      rw [checked_ext ha, port_ext hp, checked_ext hh, port_ext hq]
    rw [hvalue]
  · obtain ⟨ha, hp⟩ := listenerSpec_inj h
    have hvalue : value = value' := by
      cases value
      cases value'
      simp only at ha hp
      rw [checked_ext ha, port_ext hp]
    rw [hvalue]

/-! ## The requirement -/

theorem clean_port (port : UInt16) : Clean (toString port.toNat) := by
  intro c hc
  have hchar : Text.IpAddr.AddressChar c := by
    have hdigit := Text.toDigit_of_isDigit (Text.isDigit_of_mem_toString hc)
    exact Text.IpAddr.addressChar_of_toDigit (Option.isSome_of_eq_some hdigit)
  exact ⟨hchar.isWhitespace, hchar.isControl⟩

theorem plain_listenerSpec (address : BindAddress) (port : UInt16) :
    Plain (listenerSpec address.asStr port) :=
  (plain_bindAddress address).bracket.append_colon (clean_port port)

theorem plain_forwardSpec (address : BindAddress) (port : UInt16) (host : DestinationHost)
    (hostPort : UInt16) : Plain (forwardSpec address.asStr port host.asStr hostPort) :=
  ((plain_listenerSpec address port).append_colon (clean_destinationHost host).bracket).append_colon
    (clean_port hostPort)

/-- The destination host, which a dynamic forwarding does not have. -/
def destinationHost (rule : Rule) : Option DestinationHost :=
  match rule.forwarding with
  | .localForwarding value => some value.destinationHost
  | .remoteForwarding value => some value.destinationHost
  | .dynamicForwarding _ => none

theorem readForwarding_local (spec : String) :
    readForwarding ("-L", spec) = ((readFields .start spec.toList).bind readForward).map
      fun r ↦ .localForward r.1.1 r.1.2 r.2.1 r.2.2 := by
  cases hfields : readFields .start spec.toList with
  | none => simp [readForwarding, hfields]
  | some fields => cases hread : readForward fields <;> simp [readForwarding, hfields, hread]

theorem readForwarding_remote (spec : String) :
    readForwarding ("-R", spec) = ((readFields .start spec.toList).bind readForward).map
      fun r ↦ .remoteForward r.1.1 r.1.2 r.2.1 r.2.2 := by
  cases hfields : readFields .start spec.toList with
  | none => simp [readForwarding, hfields]
  | some fields => cases hread : readForward fields <;> simp [readForwarding, hfields, hread]

theorem readForwarding_dynamic (spec : String) :
    readForwarding ("-D", spec) = ((readFields .start spec.toList).bind readListener).map
      fun r ↦ .dynamicForward r.1 r.2 := by
  cases hfields : readFields .start spec.toList with
  | none => simp [readForwarding, hfields]
  | some fields => cases hread : readListener fields <;> simp [readForwarding, hfields, hread]

theorem map_eq_some_iff_of_injective {α β : Type} {f : α → β} (hf : Function.Injective f)
    (x : Option α) (a : α) : x.map f = some (f a) ↔ x = some a := by
  rw [← Option.map_some]
  exact (Option.map_injective hf).eq_iff

/-- `ssh` reads the forwarding of the rule from its argument unless the destination host begins with
a bracket. -/
theorem readForwarding_iff (rule : Rule) :
    readForwarding (forwarding rule) = some rule.candidate ↔
      ∀ host, destinationHost rule = some host → host.asStr.toList.head? ≠ some '[' := by
  cases hrule : rule.forwarding with
  | localForwarding value =>
    rw [forwarding_local hrule, readForwarding_local, Rule.candidate, hrule]
    have hinjective : Function.Injective fun r : (String × UInt16) × String × UInt16 ↦
        ImportForwarding.localForward r.1.1 r.1.2 r.2.1 r.2.2 := by
      rintro ⟨⟨a, p⟩, h, q⟩ ⟨⟨a', p'⟩, h', q'⟩ heq
      simpa [and_assoc] using heq
    refine (map_eq_some_iff_of_injective hinjective _
      ((value.bindAddress.asStr, _), (value.destinationHost.asStr, _))).trans ?_
    exact (readForward_forwardSpec_iff ..).trans (by simp [destinationHost, hrule])
  | remoteForwarding value =>
    rw [forwarding_remote hrule, readForwarding_remote, Rule.candidate, hrule]
    have hinjective : Function.Injective fun r : (String × UInt16) × String × UInt16 ↦
        ImportForwarding.remoteForward r.1.1 r.1.2 r.2.1 r.2.2 := by
      rintro ⟨⟨a, p⟩, h, q⟩ ⟨⟨a', p'⟩, h', q'⟩ heq
      simpa [and_assoc] using heq
    refine (map_eq_some_iff_of_injective hinjective _
      ((value.bindAddress.asStr, _), (value.destinationHost.asStr, _))).trans ?_
    exact (readForward_forwardSpec_iff ..).trans (by simp [destinationHost, hrule])
  | dynamicForwarding value =>
    rw [forwarding_dynamic hrule, readForwarding_dynamic,
      readFields_listenerSpec (writable_bindAddress value.bindAddress), Option.bind_some,
      readListener_text, Rule.candidate, hrule]
    simp [destinationHost, hrule, ImportForwarding.ofForwarding]

theorem plain_forwarding (rule : Rule) : Plain (forwarding rule).2 := by
  cases hrule : rule.forwarding with
  | localForwarding value =>
    rw [forwarding_local hrule]
    exact plain_forwardSpec ..
  | remoteForwarding value =>
    rw [forwarding_remote hrule]
    exact plain_forwardSpec ..
  | dynamicForwarding value =>
    rw [forwarding_dynamic hrule]
    exact plain_listenerSpec ..

/-- **The forwarding argument.** `ssh` reads kind, addresses and ports of a rule from its argument
exactly when the rule has no destination host that begins with a bracket. The argument tells
different forwardings apart in any case, and neither it nor the alias can be taken for an option or
contains white space or a control character. -/
theorem forwarding_argument (rule : Rule) :
    (readForwarding (forwarding rule) = some rule.candidate ↔
      ∀ host, destinationHost rule = some host → host.asStr.toList.head? ≠ some '[') ∧
    (∀ other, forwarding rule = forwarding other → rule.forwarding = other.forwarding) ∧
    Plain (forwarding rule).2 ∧ Plain rule.sshHostAlias.asStr :=
  ⟨readForwarding_iff rule, fun _ h ↦ forwarding_inj h, plain_forwarding rule,
    plain_sshHostAlias rule.sshHostAlias⟩

/-- A rule to the host `[db]` is accepted, and its argument is read as one to the host `db`. -/
theorem forwarding_argument_bracket :
    ∃ rule, Rule.newLocal 1 "database" "work" 5433 "[db]" 5432 = .ok rule ∧
      forwarding rule = ("-L", "127.0.0.1:5433:[db]:5432") ∧
      readForwarding (forwarding rule) = some (.localForward "127.0.0.1" 5433 "db" 5432) ∧
      readForwarding (forwarding rule) ≠ some rule.candidate := by
  refine ⟨_, rfl, by decide, by decide +kernel, by decide +kernel⟩

end TunnelDeck.Process
