import TunnelDeck.Application.Preview
import TunnelDeck.Process.Forwarding
import TunnelDeck.Text.Joining

/-!
# Reading back what `ssh -G` prints

OpenSSH prints each forwarding on a line of its own: the keyword, the listener and, for a local or
a remote one, the destination. An endpoint is a host and a port with a colon between them, and the
host may stand in brackets. It need not where it has no colon and does not begin with a bracket. A
listener on `localhost` may be printed as its port alone, unless another line of the output says
that listeners are open to other machines.

The preview reads such an output back, `previewEffectiveForwards_printed`: it has one candidate for
each line that is printed for a forwarding, in their order, and each holds that forwarding.
-/

namespace TunnelDeck

open Process (Clean Writable)
open Text (SpacedField spaced)

/-! ## The format -/

def portText (port : Port) : List Char := (toString port.get.toNat).toList

inductive PrintsHost (host : List Char) : List Char → Prop
  | brackets : PrintsHost host ('[' :: (host ++ [']']))
  | bare (hcolon : ':' ∉ host) (hbracket : host.head? ≠ some '[') : PrintsHost host host

def PrintsEndpoint (host : String) (port : Port) (field : List Char) : Prop :=
  ∃ text, PrintsHost host.toList text ∧ field = text ++ ':' :: portText port

/-- A bind address and a port, or the port alone. -/
def PrintsListener (closed : Prop) (address : BindAddress) (port : Port) (field : List Char) :
    Prop :=
  PrintsEndpoint address.asStr port field ∨
    (closed ∧ address.asStr = "localhost" ∧ field = portText port)

/-- The fields behind the keyword. -/
inductive PrintsFields (closed : Prop) : Forwarding → List (List Char) → Prop
  | localFields {v : LocalForwarding} {listen destination : List Char}
    (hlisten : PrintsListener closed v.bindAddress v.bindPort listen)
    (hdestination : PrintsEndpoint v.destinationHost.asStr v.destinationPort destination) :
    PrintsFields closed (.localForwarding v) [listen, destination]
  | remoteFields {v : RemoteForwarding} {listen destination : List Char}
    (hlisten : PrintsListener closed v.bindAddress v.bindPort listen)
    (hdestination : PrintsEndpoint v.destinationHost.asStr v.destinationPort destination) :
    PrintsFields closed (.remoteForwarding v) [listen, destination]
  | dynamicFields {v : DynamicForwarding} {listen : List Char}
    (hlisten : PrintsListener closed v.bindAddress v.bindPort listen) :
    PrintsFields closed (.dynamicForwarding v) [listen]

def DirectiveKind.keyword : DirectiveKind → List Char
  | localDirective => "localforward".toList
  | remoteDirective => "remoteforward".toList
  | dynamicDirective => "dynamicforward".toList

/-- The kind of directive that a forwarding is printed as. -/
def Forwarding.directiveKind (forwarding : Forwarding) : DirectiveKind :=
  (ImportForwarding.ofForwarding forwarding).kind

/-- The line of a forwarding. The letters of the keyword may be small or capital, and there may be
more than one blank in front of a field. -/
def PrintsLine (closed : Prop) (forwarding : Forwarding) (line : List Char) : Prop :=
  ∃ keyword parts, line = keyword ++ spaced parts ∧
    keyword.map Text.toAsciiLowercase = forwarding.directiveKind.keyword ∧
    (∀ part ∈ parts, part.1 ≠ [] ∧ ∀ c ∈ part.1, c = ' ' ∨ c = '\t') ∧
    PrintsFields closed forwarding (parts.map Prod.snd)

/-- A line of another option: its keyword names no forwarding. -/
def OtherLine (line : List Char) : Prop :=
  '\n' ∉ line ∧ ∀ kind : DirectiveKind,
    (line.takeWhile fun c ↦ !Text.isWhitespace c).map Text.toAsciiLowercase ≠ kind.keyword

/-- The lines of an output that prints these forwardings, with other lines among them. -/
inductive PrintsLines (closed : Prop) : List Forwarding → List (List Char) → Prop
  | nil : PrintsLines closed [] []
  | forwarding {f : Forwarding} {fs : List Forwarding} {line : List Char} {ls : List (List Char)}
    (h : PrintsLine closed f line) (hrest : PrintsLines closed fs ls) :
    PrintsLines closed (f :: fs) (line :: ls)
  | other {fs : List Forwarding} {line : List Char} {ls : List (List Char)}
    (h : OtherLine line) (hrest : PrintsLines closed fs ls) :
    PrintsLines closed fs (line :: ls)

/-- The output: each line with a newline behind it. -/
def outputOf (ls : List (List Char)) : ByteArray :=
  (String.ofList (ls.flatMap fun l ↦ l ++ ['\n'])).toByteArray

/-- The destination host has no slash, which is taken for the mark of a socket, and no closing
bracket. -/
def Forwarding.Importable : Forwarding → Prop
  | .localForwarding v =>
    '/' ∉ v.destinationHost.asStr.toList ∧ ']' ∉ v.destinationHost.asStr.toList
  | .remoteForwarding v =>
    '/' ∉ v.destinationHost.asStr.toList ∧ ']' ∉ v.destinationHost.asStr.toList
  | .dynamicForwarding _ => True

/-! ## Reading an endpoint -/

theorem isDigit_of_mem_portText {port : Port} {c : Char} (h : c ∈ portText port) :
    c.isDigit = true :=
  Text.isDigit_of_mem_toString h

theorem parsePort_portText (port : Port) : parsePort (portText port) = .ok port.get := by
  have hfilter : (some port.get).filter (fun p ↦ decide (p ≠ 0)) = some port.get := by
    rw [Option.filter_some, if_pos (decide_eq_true port.ne_zero)]
  rw [parsePort, portText, Text.parseU16_toString, hfilter]

/-- A host that is read back from an endpoint. -/
structure ReadableHost (host : String) : Prop where
  ne_nil : host.toList ≠ []
  clean : Clean host
  slash : '/' ∉ host.toList
  closing : ']' ∉ host.toList

theorem readableHost_bindAddress (address : BindAddress) : ReadableHost address.asStr := by
  have hclean := (Process.plain_bindAddress address).clean
  rcases Process.bindAddress_cases address with h | h | h
  · rw [h] at hclean ⊢
    exact ⟨by decide, hclean, by decide, by decide⟩
  · rw [h] at hclean ⊢
    exact ⟨by decide, hclean, by decide, by decide⟩
  · have hchar := Text.IpAddr.addressChar_of_parse h
    refine ⟨fun hnil ↦ ?_, hclean, fun hslash ↦ ?_, fun hclosing ↦ ?_⟩
    · rw [String.toList_eq_nil_iff.mp hnil] at h
      exact absurd h (by decide)
    · exact absurd (hchar _ hslash).toNat (by decide)
    · exact (hchar _ hclosing).ne (Or.inr (Or.inr rfl)) rfl

theorem readableHost_destination {host : DestinationHost}
    (h : '/' ∉ host.asStr.toList ∧ ']' ∉ host.asStr.toList) : ReadableHost host.asStr where
  ne_nil := by
    have hvalid := host.valid
    rw [checkDestinationHost, validateText] at hvalid
    intro hnil
    simp [hnil] at hvalid
  clean := Process.clean_destinationHost host
  slash := h.1
  closing := h.2

theorem endpointParts_printsHost {host text : List Char} (h : PrintsHost host text)
    (hne : host ≠ []) (hclosing : ']' ∉ host) {port : List Char} (hport : ':' ∉ port) :
    endpointParts (text ++ ':' :: port) = .ok (host, port) := by
  cases h with
  | brackets =>
    have hsplit : Text.splitOnce (· = ']') (host ++ ']' :: ':' :: port) =
        some (host, ':' :: port) := by
      refine Text.splitOnce_append (fun d hd ↦ ?_) (by decide)
      simp only [decide_eq_false_iff_not]
      rintro rfl
      exact hclosing hd
    have htext : '[' :: (host ++ [']']) ++ ':' :: port = '[' :: (host ++ ']' :: ':' :: port) := by
      simp
    rw [htext, endpointParts, hsplit]
    rfl
  | bare hcolon hbracket =>
    have hsplit : Text.rsplitOnce (· = ':') (host ++ ':' :: port) = some (host, port) := by
      refine Text.rsplitOnce_append (fun d hd ↦ ?_) (by decide)
      simp only [decide_eq_false_iff_not]
      rintro rfl
      exact hport hd
    obtain ⟨c, host, rfl⟩ := List.exists_cons_of_ne_nil hne
    have hc : c ≠ '[' := fun hc ↦ hbracket (by rw [hc, List.head?_cons])
    rw [List.cons_append] at hsplit ⊢
    rw [endpointParts, hsplit]
    exact fun rest heq ↦ hc (List.cons.inj heq).1

/-- **An endpoint is read back.** -/
theorem splitEndpoint_printsEndpoint {host : String} {port : Port} {field : List Char}
    (h : PrintsEndpoint host port field) (hhost : ReadableHost host) :
    splitEndpoint field = .ok (host, port.get) := by
  obtain ⟨text, htext, rfl⟩ := h
  have hport : ':' ∉ portText port := fun hcolon ↦
    absurd (isDigit_of_mem_portText hcolon) (by decide)
  rw [splitEndpoint, endpointParts_printsHost htext hhost.ne_nil hhost.closing hport]
  simp only [bind, Except.bind, if_neg hhost.ne_nil, parsePort_portText, String.ofList_toList]
  rfl

/-- What is in a field of a line. -/
structure ReadableField (field : List Char) : Prop where
  ne_nil : field ≠ []
  space : ∀ c ∈ field, Text.isWhitespace c = false
  slash : '/' ∉ field

theorem readableField_portText (port : Port) : ReadableField (portText port) where
  ne_nil := Text.toList_toString_ne_nil _
  space c hc := Text.isWhitespace_of_isDigit (isDigit_of_mem_portText hc)
  slash hslash := absurd (isDigit_of_mem_portText hslash) (by decide)

theorem ReadableField.append_cons {a b : List Char} {c : Char} (ha : ReadableField a)
    (hb : ReadableField b) (hspace : Text.isWhitespace c = false) (hc : '/' ≠ c) :
    ReadableField (a ++ c :: b) where
  ne_nil := by simp
  space := by
    intro d hd
    rcases List.mem_append.mp hd with hd | hd
    · exact ha.space d hd
    · rcases List.mem_cons.mp hd with rfl | hd
      · exact hspace
      · exact hb.space d hd
  slash := by
    rw [List.mem_append, List.mem_cons]
    rintro (h | h | h)
    · exact ha.slash h
    · exact hc h
    · exact hb.slash h

theorem readableField_printsHost {host : String} {text : List Char}
    (h : PrintsHost host.toList text) (hhost : ReadableHost host) : ReadableField text := by
  have hbare : ReadableField host.toList := ⟨hhost.ne_nil, fun c hc ↦ (hhost.clean c hc).1,
    hhost.slash⟩
  cases h with
  | brackets =>
    refine ⟨List.cons_ne_nil _ _, fun c hc ↦ ?_, fun hslash ↦ ?_⟩
    · simp only [List.mem_cons, List.mem_append, List.not_mem_nil, or_false] at hc
      rcases hc with rfl | hc | rfl
      · decide
      · exact hbare.space c hc
      · decide
    · simp only [List.mem_cons, List.mem_append, List.not_mem_nil, or_false] at hslash
      rcases hslash with h | h | h
      · exact absurd h (by decide)
      · exact hbare.slash h
      · exact absurd h (by decide)
  | bare => exact hbare

theorem readableField_printsEndpoint {host : String} {port : Port} {field : List Char}
    (h : PrintsEndpoint host port field) (hhost : ReadableHost host) : ReadableField field := by
  obtain ⟨text, htext, rfl⟩ := h
  exact (readableField_printsHost htext hhost).append_cons (readableField_portText port) (by decide)
    (by decide)

theorem readableField_printsListener {closed : Prop} {address : BindAddress} {port : Port}
    {field : List Char} (h : PrintsListener closed address port field) : ReadableField field := by
  rcases h with h | ⟨-, -, rfl⟩
  · exact readableField_printsEndpoint h (readableHost_bindAddress address)
  · exact readableField_portText port

theorem all_isDigit_printsEndpoint {host : String} {port : Port} {field : List Char}
    (h : PrintsEndpoint host port field) : field.all Char.isDigit = false := by
  obtain ⟨text, -, rfl⟩ := h
  rw [List.all_append, List.all_cons]
  have hcolon : ':'.isDigit = false := by decide
  rw [hcolon, Bool.false_and, Bool.and_false]

/-- **A listener is read back**, the address that may be left out being the default. -/
theorem parseListener_printsListener {closed : Prop} {address : BindAddress} {port : Port}
    {field : List Char} {defaultBind : String} (h : PrintsListener closed address port field)
    (hdefault : closed → defaultBind = "localhost") :
    parseListener field defaultBind = .ok (address.asStr, port.get) := by
  rcases h with h | ⟨hclosed, haddress, rfl⟩
  · rw [parseListener, all_isDigit_printsEndpoint h,
      splitEndpoint_printsEndpoint h (readableHost_bindAddress address)]
    simp only [Bool.false_eq_true, if_false, bind, Except.bind, address.valid]
    rfl
  · have hdigits : (portText port).all Char.isDigit = true :=
      List.all_eq_true.mpr fun c hc ↦ isDigit_of_mem_portText hc
    rw [parseListener, if_pos hdigits, parsePort_portText, haddress, hdefault hclosed]
    rfl

theorem parseDestination_printsEndpoint {host : DestinationHost} {port : Port} {field : List Char}
    (h : PrintsEndpoint host.asStr port field) (hhost : ReadableHost host.asStr) :
    parseDestination field = .ok (host.asStr, port.get) := by
  rw [parseDestination, splitEndpoint_printsEndpoint h hhost]
  simp only [bind, Except.bind, host.valid]
  rfl

/-! ## Reading a line -/

theorem readableField_printsFields {closed : Prop} {f : Forwarding} {fields : List (List Char)}
    (h : PrintsFields closed f fields) (hf : f.Importable) :
    ∀ field ∈ fields, ReadableField field := by
  intro field hfield
  cases h with
  | localFields hlisten hdestination | remoteFields hlisten hdestination =>
    rcases List.mem_pair.mp hfield with rfl | rfl
    · exact readableField_printsListener hlisten
    · exact readableField_printsEndpoint hdestination (readableHost_destination hf)
  | dynamicFields hlisten =>
    rw [List.mem_singleton.mp hfield]
    exact readableField_printsListener hlisten

/-- **The fields are read back.** -/
theorem parseForward_printsFields {closed : Prop} {f : Forwarding} {fields : List (List Char)}
    {value : List Char} {defaultBind : String} (h : PrintsFields closed f fields)
    (hf : f.Importable) (hvalue : Text.splitWhitespace value = fields)
    (hdefault : closed → defaultBind = "localhost") :
    parseForward f.directiveKind value defaultBind = .ok (ImportForwarding.ofForwarding f) := by
  have hsocket : fields.any looksLikeSocket = false := by
    rw [List.any_eq_false]
    intro field hfield
    rw [looksLikeSocket, List.contains_iff_mem]
    exact (readableField_printsFields h hf field hfield).slash
  unfold parseForward
  rw [hvalue]
  simp only [hsocket, Bool.false_eq_true, if_false]
  cases h with
  | localFields hlisten hdestination =>
    have hhost := readableHost_destination hf
    simp only [Forwarding.directiveKind, ImportForwarding.ofForwarding, ImportForwarding.kind,
      parseListener_printsListener hlisten hdefault,
      parseDestination_printsEndpoint hdestination hhost, bind, Except.bind]
    rfl
  | remoteFields hlisten hdestination =>
    have hhost := readableHost_destination hf
    simp only [Forwarding.directiveKind, ImportForwarding.ofForwarding, ImportForwarding.kind,
      parseListener_printsListener hlisten fun _ ↦ rfl,
      parseDestination_printsEndpoint hdestination hhost, bind, Except.bind]
    rfl
  | dynamicFields hlisten =>
    simp only [Forwarding.directiveKind, ImportForwarding.ofForwarding, ImportForwarding.kind,
      parseListener_printsListener hlisten hdefault, bind, Except.bind]
    rfl

theorem directiveKind_eq_some_iff {keyword : List Char} {kind : DirectiveKind} :
    directiveKind keyword = some kind ↔ keyword.map Text.toAsciiLowercase = kind.keyword := by
  constructor
  · intro h
    simp only [directiveKind] at h
    split at h
    · rename_i hkeyword
      cases h
      exact hkeyword
    · split at h
      · rename_i hkeyword
        cases h
        exact hkeyword
      · split at h
        · rename_i hkeyword
          cases h
          exact hkeyword
        · cases h
  · intro h
    simp only [directiveKind, h]
    cases kind <;> rfl

theorem isWhitespace_of_mem_keyword {keyword : List Char} {kind : DirectiveKind}
    (h : keyword.map Text.toAsciiLowercase = kind.keyword) :
    ∀ c ∈ keyword, Text.isWhitespace c = false := by
  intro c hc
  by_contra hspace
  rw [Bool.not_eq_false] at hspace
  have hlower : c ∈ kind.keyword := by
    rw [← h, ← Text.toAsciiLowercase_of_isWhitespace hspace]
    exact List.mem_map_of_mem hc
  have hletters : kind.keyword.any Text.isWhitespace = false := by cases kind <;> rfl
  exact List.any_eq_false.mp hletters c hlower hspace

theorem directive_otherLine {line : List Char} (h : OtherLine line) (defaultBind : String) :
    directive defaultBind (Text.stripReturn line) = none := by
  rw [directive, Option.bind_eq_bind, Option.bind_eq_none_iff]
  rintro ⟨keyword, value⟩ hsplit
  obtain ⟨w, hw, hkeyword, hline⟩ := Text.eq_append_of_splitOnce hsplit
  -- the keyword of the line is the same with a carriage return behind it
  have htake : line.takeWhile (fun c ↦ !Text.isWhitespace c) = keyword := by
    have hkeep : ∀ d ∈ keyword, (fun c ↦ !Text.isWhitespace c) d = true := by
      intro d hd
      simp [hkeyword d hd]
    have hstop : ∀ rest : List Char, ∀ d ∈ (w :: rest).head?,
        (fun c ↦ !Text.isWhitespace c) d = false := by
      rintro rest d ⟨rfl⟩
      simp [hw]
    rcases Text.eq_stripReturn_or line with heq | heq
    · rw [heq, hline]
      exact (Text.span_append hkeep (hstop value)).1
    · rw [heq, hline, List.append_assoc]
      exact (Text.span_append hkeep (hstop (value ++ ['\r']))).1
  rw [Option.bind_eq_bind, Option.bind_eq_none_iff]
  intro kind hkind
  rw [directiveKind_eq_some_iff, ← htake] at hkind
  exact absurd hkind (h.2 kind)

/-- **The line of a forwarding is read back.** -/
theorem directive_printsLine {closed : Prop} {f : Forwarding} {line : List Char}
    {defaultBind : String} (h : PrintsLine closed f line) (hf : f.Importable)
    (hdefault : closed → defaultBind = "localhost") :
    '\n' ∉ line ∧ directive defaultBind (Text.stripReturn line) =
      some (f.directiveKind, .ok (ImportForwarding.ofForwarding f)) := by
  obtain ⟨keyword, parts, rfl, hkeyword, hblank, hfields⟩ := h
  have hletters := isWhitespace_of_mem_keyword hkeyword
  have hreadable := readableField_printsFields hfields hf
  have hparts : ∀ part ∈ parts, SpacedField part := by
    intro part hpart
    have hfield := hreadable part.2 (List.mem_map_of_mem hpart)
    refine ⟨(hblank part hpart).1, fun c hc ↦ ?_, hfield.ne_nil, hfield.space⟩
    rcases (hblank part hpart).2 c hc with rfl | rfl <;> decide
  -- a line ends nowhere but at its end
  have hends : ∀ c ∈ keyword ++ spaced parts, c ≠ '\n' ∧ c ≠ '\r' := by
    intro c hc
    have hspace (hc : Text.isWhitespace c = false) : c ≠ '\n' ∧ c ≠ '\r' := by
      constructor <;> rintro rfl <;> revert hc <;> decide
    rcases List.mem_append.mp hc with hc | hc
    · exact hspace (hletters c hc)
    · obtain ⟨part, hpart, hc⟩ := List.mem_flatMap.mp hc
      rcases List.mem_append.mp hc with hc | hc
      · rcases (hblank part hpart).2 c hc with rfl | rfl <;> decide
      · exact hspace ((hparts part hpart).field c hc)
  refine ⟨fun hnewline ↦ (hends _ hnewline).1 rfl, ?_⟩
  rw [Text.stripReturn_eq_self fun hreturn ↦ (hends _ hreturn).2 rfl]
  obtain ⟨w, value, hw, hvalue⟩ :
      ∃ w value, Text.isWhitespace w = true ∧ spaced parts = w :: value := by
    rcases parts with _ | ⟨⟨blank, field⟩, parts⟩
    · cases hfields
    · rcases blank with _ | ⟨w, blank⟩
      · exact absurd rfl (hparts _ List.mem_cons_self).blank_ne_nil
      · exact ⟨w, _, (hparts _ List.mem_cons_self).blank w List.mem_cons_self, rfl⟩
  have hsplit : Text.splitWhitespace (Text.trim value) = parts.map Prod.snd := by
    have hcons := Text.splitWhitespace_append_cons hw [] value
    rw [Text.splitWhitespace_trim, ← Text.splitWhitespace_spaced hparts, hvalue]
    exact hcons.symm
  rw [directive, hvalue, Text.splitOnce_append hletters hw]
  simp only [Option.bind_eq_bind, Option.bind_some, directiveKind_eq_some_iff.mpr hkeyword,
    parseForward_printsFields hfields hf hsplit hdefault]
  rfl

/-! ## Reading the output -/

/-- What a line gives a candidate for, when it is read as a forwarding. -/
def lineCandidate (localDefaultBind : String) (line : List Char) :
    Option (DirectiveKind × Option ImportForwarding) :=
  (directive localDefaultBind line).map fun read ↦ (read.1, read.2.toOption)

/-- **The candidates are those of the lines**, in their order. -/
theorem candidates_lines (sshHostAlias : String) (existing : List Rule) (running : Finset Uuid)
    (localDefaultBind : String) (scan : PreviewScan) (ls : List (List Char)) :
    (ls.foldl (PreviewScan.line sshHostAlias existing running localDefaultBind)
        scan).candidates.map (fun c ↦ (c.kind, c.forwarding)) =
      scan.candidates.map (fun c ↦ (c.kind, c.forwarding)) ++
        ls.filterMap (lineCandidate localDefaultBind) := by
  induction ls generalizing scan with
  | nil => exact (List.append_nil _).symm
  | cons l ls ih =>
    rw [List.foldl_cons, ih, PreviewScan.line, List.filterMap_cons, lineCandidate]
    rcases directive localDefaultBind l with _ | ⟨kind, parsed⟩
    · rfl
    · rcases parsed with (reason | reason) | forwarding <;>
        simp [PreviewScan.push, Except.toOption]

/-- A carriage return does not make a line say that listeners are open. -/
theorem opensGateway_stripReturn {line : List Char}
    (h : opensGateway (Text.stripReturn line) = true) : opensGateway line = true := by
  rcases Text.eq_stripReturn_or line with heq | heq
  · rw [heq]
    exact h
  · rw [opensGateway] at h
    split at h
    · cases h
    · rename_i key value hsplit
      obtain ⟨w, hw, hkey, hline⟩ := Text.eq_append_of_splitOnce hsplit
      have hwhole : Text.splitOnce Text.isWhitespace line = some (key, value ++ ['\r']) := by
        rw [heq, hline, List.append_assoc, List.cons_append]
        exact Text.splitOnce_append hkey hw
      rw [opensGateway, hwhole]
      simp only [Text.trim_append_singleton (show Text.isWhitespace '\r' = true by decide)]
      exact h

theorem effectiveLocalDefaultBind_of_closed {ls : List (List Char)} (hends : ∀ l ∈ ls, '\n' ∉ l)
    (h : ls.any opensGateway = false) :
    effectiveLocalDefaultBind (ls.flatMap fun l ↦ l ++ ['\n']) = "localhost" := by
  rw [effectiveLocalDefaultBind, Text.lines_flatMap hends, if_neg]
  rw [List.any_eq_true]
  rintro ⟨line, hline, hopens⟩
  obtain ⟨l, hl, rfl⟩ := List.mem_map.mp hline
  exact List.any_eq_false.mp h l hl (opensGateway_stripReturn hopens)

/-- What the lines of an output are read as. -/
theorem filterMap_printsLines {closed : Prop} {fs : List Forwarding} {ls : List (List Char)}
    {defaultBind : String} (h : PrintsLines closed fs ls) (hfs : ∀ f ∈ fs, f.Importable)
    (hdefault : closed → defaultBind = "localhost") :
    (ls.map Text.stripReturn).filterMap (lineCandidate defaultBind) =
      fs.map fun f ↦ (f.directiveKind, some (ImportForwarding.ofForwarding f)) := by
  induction h with
  | nil => rfl
  | @forwarding f fs line ls hline hrest ih =>
    have hread := (directive_printsLine hline (hfs f List.mem_cons_self) hdefault).2
    rw [List.map_cons, List.filterMap_cons, lineCandidate, hread,
      ih fun g hg ↦ hfs g (List.mem_cons_of_mem _ hg)]
    rfl
  | other hline hrest ih =>
    rw [List.map_cons, List.filterMap_cons, lineCandidate, directive_otherLine hline, ih hfs]
    rfl

theorem newline_not_mem_printsLines {closed : Prop} {fs : List Forwarding} {ls : List (List Char)}
    (h : PrintsLines closed fs ls) (hfs : ∀ f ∈ fs, f.Importable) : ∀ l ∈ ls, '\n' ∉ l := by
  induction h with
  | nil => nofun
  | @forwarding f fs line ls hline hrest ih =>
    refine List.forall_mem_cons.mpr ⟨?_, ih fun g hg ↦ hfs g (List.mem_cons_of_mem _ hg)⟩
    exact (directive_printsLine hline (hfs f List.mem_cons_self) fun _ ↦ rfl).1
  | other hline hrest ih => exact List.forall_mem_cons.mpr ⟨hline.1, ih hfs⟩

/-- **What is printed is read back**: there is one candidate for each line of a forwarding, in
their order, and it holds the forwarding. -/
theorem previewEffectiveForwards_printed (sshHostAlias : HostAlias) (fs : List Forwarding)
    (ls : List (List Char)) (existing : List Rule) (runningRuleIds : List Uuid)
    (hfs : ∀ f ∈ fs, f.Importable) (h : PrintsLines (ls.any opensGateway = false) fs ls) :
    ∃ preview, previewEffectiveForwards sshHostAlias.asStr (outputOf ls) existing runningRuleIds =
        .ok preview ∧
      preview.candidates.map (fun c ↦ (c.kind, c.forwarding)) =
        fs.map fun f ↦ (f.directiveKind, some (ImportForwarding.ofForwarding f)) := by
  have hends := newline_not_mem_printsLines h hfs
  have htext : String.fromUTF8? (outputOf ls) =
      some (String.ofList (ls.flatMap fun l ↦ l ++ ['\n'])) :=
    dif_pos (String.ofList _).isValidUTF8
  refine ⟨_, previewEffectiveForwards_eq_ok_iff.mpr ⟨sshHostAlias.valid, _, htext, rfl⟩, ?_⟩
  rw [PreviewScan.ofText, String.toList_ofList, candidates_lines, Text.lines_flatMap hends]
  exact filterMap_printsLines h hfs (effectiveLocalDefaultBind_of_closed hends)

/-! ## An output with two forwardings -/

theorem checkBindAddress_localhost : checkBindAddress "localhost" = .ok () := by decide

/-- A local forwarding that is printed without its address and without brackets. -/
def exampleLocal : Forwarding :=
  .localForwarding ⟨⟨"localhost", checkBindAddress_localhost⟩, ⟨6543, by decide⟩,
    ⟨"db", by decide⟩, ⟨6432, by decide⟩⟩

/-- A dynamic one on an address of version 6. -/
def exampleDynamic : Forwarding := .dynamicForwarding ⟨⟨"::1", by decide⟩, ⟨1081, by decide⟩⟩

def exampleLines : List (List Char) :=
  ["LocalForward 6543 db:6432".toList, "user me".toList, "dynamicforward [::1]:1081".toList]

theorem previewEffectiveForwards_printed_exampleLines :
    ∃ preview, previewEffectiveForwards "db" (outputOf exampleLines) [] [] = .ok preview ∧
      preview.candidates.map (fun c ↦ (c.kind, c.forwarding)) =
        [exampleLocal, exampleDynamic].map fun f ↦
          (f.directiveKind, some (ImportForwarding.ofForwarding f)) := by
  have hclosed : exampleLines.any opensGateway = false := by decide
  have hlocal : PrintsLine (exampleLines.any opensGateway = false) exampleLocal
      "LocalForward 6543 db:6432".toList :=
    ⟨"LocalForward".toList, [([' '], "6543".toList), ([' '], "db:6432".toList)], by decide,
      by decide, by simp, .localFields (Or.inr ⟨hclosed, rfl, by decide⟩)
        ⟨"db".toList, .bare (by decide) (by decide), by decide⟩⟩
  have hdynamic : PrintsLine (exampleLines.any opensGateway = false) exampleDynamic
      "dynamicforward [::1]:1081".toList :=
    ⟨"dynamicforward".toList, [([' '], "[::1]:1081".toList)], by decide, by decide, by simp,
      .dynamicFields (Or.inl ⟨"[::1]".toList, .brackets, by decide⟩)⟩
  have hother : OtherLine "user me".toList := ⟨by decide, fun kind ↦ by cases kind <;> decide⟩
  have hfs : ∀ f ∈ [exampleLocal, exampleDynamic], f.Importable := by
    intro f hf
    rcases List.mem_pair.mp hf with rfl | rfl
    · exact ⟨by decide, by decide⟩
    · trivial
  exact previewEffectiveForwards_printed ⟨"db", by decide⟩ _ exampleLines [] [] hfs
    (.forwarding hlocal (.other hother (.forwarding hdynamic .nil)))

end TunnelDeck
