import TunnelDeck.Ipc.Connection

/-!
# The client

`Client` writes a request and reads one frame for it; the answer counts only with the version and
the id of the request. `subscribe` goes on reading from the same reader, so that nothing is lost
that has come with the acknowledgement. What has arrived may stop anywhere, also inside of a frame,
and any read can fail.

## Main results

* `readFrame_of_prefix`: whatever of a stream has arrived, a frame that is read is the next one.
* `follow_prefix`, `follow_eq_take`: a subscription gives what has been sent, in order.
-/

namespace TunnelDeck.Ipc

open Json (Value)
open Text (BufReader)

/-! ## Model -/

inductive ClientError where
  | transport (error : TransportError)
  | requestIdMismatch
  | versionMismatch (version : UInt32)
  | invalidSubscriptionAcknowledgement
  | subscriptionRejected (code : ErrorCode)
  deriving DecidableEq

/-- `serde_json` as it reads what the server writes. -/
structure Decoder where
  response : List UInt8 → Option Response
  event : List UInt8 → Option Event

def Response.version : Response → UInt32
  | .success value => value.protocolVersion
  | .failure value => value.protocolVersion

def requestVec (request : Request) : Option (List UInt8) := some (encodeRequest request).toVec

section Client

variable (decoder : Decoder)

def receive (request : Request) (reader : ByteReader) :
    Except ClientError Response × ByteReader :=
  match readFrame decoder.response reader with
  | (.error error, reader) => (.error (.transport error), reader)
  | (.ok response, reader) =>
    if response.version ≠ protocolVersion then
      (.error (.versionMismatch response.version), reader)
    else if response.requestId ≠ request.requestId then (.error .requestIdMismatch, reader)
    else (.ok response, reader)

/-- `Client::call`, with what the server has been sent. -/
def call (timeout : Option IoError) (fault : Option WriteFault) (request : Request)
    (reader : ByteReader) : Except ClientError Response × List UInt8 × ByteReader :=
  match timeout with
  | some error => (.error (.transport (.io error)), [], reader)
  | none =>
    match writeFrame requestVec fault request [] with
    | (.error error, output) => (.error (.transport error), output, reader)
    | (.ok (), output) =>
      ((receive decoder request reader).1, output, (receive decoder request reader).2)

/-- What a client makes of the answer to a subscription. -/
def acknowledge : Response → Except ClientError Unit
  | .success value =>
    if value.result.get "subscribed" = .bool true then .ok ()
    else .error .invalidSubscriptionAcknowledgement
  | .failure value => .error (.subscriptionRejected value.error.code)

/-- `Client::subscribe`. The reader stays with the subscription. -/
def subscribe (timeout : Option IoError) (fault : Option WriteFault) (request : Request)
    (reader : ByteReader) : Except ClientError ByteReader :=
  match call decoder timeout fault request reader with
  | (.error error, _) => .error error
  | (.ok response, _, reader) => (acknowledge response).map fun _ ↦ reader

/-- `Subscription::read_event`. -/
def readEvent (reader : ByteReader) : Except ClientError Event × ByteReader :=
  match readFrame decoder.event reader with
  | (.error error, reader) => (.error (.transport error), reader)
  | (.ok event, reader) =>
    if event.protocolVersion ≠ protocolVersion then
      (.error (.versionMismatch event.protocolVersion), reader)
    else (.ok event, reader)

/-- The loop of a subscriber, which ends with the first failure: the events that it has after `n`
reads. -/
def follow : ℕ → ByteReader → List Event
  | 0, _ => []
  | n + 1, reader =>
    match readEvent decoder reader with
    | (.error _, _) => []
    | (.ok event, reader) => event :: follow n reader

end Client

/-! ## Reading what has arrived -/

section Frame

variable {α : Type} {codec : Codec α} {value : α} {reader next : ByteReader}

theorem readFrame_eq_ok {decode : List UInt8 → Option α}
    (h : readFrame decode reader = (.ok value, next)) :
    newline ∈ (Text.upTo newline (maxMessageBytes + 2) reader.stream).1 ∧
      decode (Text.upTo newline (maxMessageBytes + 2) reader.stream).1.dropLast = some value ∧
        next.stream = (Text.upTo newline (maxMessageBytes + 2) reader.stream).2 := by
  rw [readFrame] at h
  rcases hread : BufReader.readUntil newline (maxMessageBytes + 2) reader with ⟨bytes, _ | e, last⟩
  · rw [hread] at h
    have htaken := BufReader.readUntil_of_none newline _ hread
    rw [← htaken]
    simp only at h
    split at h
    · cases (Prod.mk.inj h).1
    · split at h
      · cases (Prod.mk.inj h).1
      · rename_i hline
        rw [not_or, not_not] at hline
        split at h
        case h_1 decoded hdecode =>
          obtain ⟨hvalue, rfl⟩ := Prod.mk.inj h
          refine ⟨List.mem_of_getLast? hline.1, ?_, rfl⟩
          rw [hdecode, Except.ok.inj hvalue]
        case h_2 => cases (Prod.mk.inj h).1
  · rw [hread] at h
    cases (Prod.mk.inj h).1

/-- The encoding of the value is one line, and decodes to it. -/
def Codec.Reads (codec : Codec α) (value : α) : Prop :=
  ∀ bytes, codec.encode value = some bytes → newline ∉ bytes ∧ codec.decode bytes = some value

/-- The codec with the encoding of one value alone. -/
def Codec.only [DecidableEq α] (codec : Codec α) (value : α) : Codec α where
  encode v := if v = value then codec.encode v else none
  decode := codec.decode

theorem Codec.only_faithful [DecidableEq α] (h : codec.Reads value) :
    (codec.only value).Faithful := by
  have hencode : ∀ {v bytes}, (codec.only value).encode v = some bytes →
      v = value ∧ codec.encode value = some bytes := by
    intro v bytes hv
    simp only [only] at hv
    split at hv
    case isTrue heq => exact ⟨heq, heq ▸ hv⟩
    case isFalse => cases hv
  constructor
  · intro v bytes hv
    exact (h bytes (hencode hv).2).1
  · intro v bytes hv
    obtain ⟨rfl, hbytes⟩ := hencode hv
    exact (h bytes hbytes).2

theorem readFrame_of_fits [DecidableEq α] (h : codec.Reads value)
    (hfits : Fits codec.encode value) (hreader : reader.Reliable) {rest : List UInt8}
    (hstream : reader.stream = frame codec.encode value ++ rest) :
    ∃ next : ByteReader, readFrame codec.decode reader = (.ok value, next) ∧
      next.stream = rest ∧ next.Reliable := by
  have hencode : (codec.only value).encode value = codec.encode value := if_pos rfl
  refine readFrame_frame (codec.only_faithful h) ?_ hreader ?_
  · obtain ⟨bytes, hbytes, hle⟩ := hfits
    exact ⟨bytes, hencode.trans hbytes, hle⟩
  · rw [hstream, frame, frame, hencode]

/-- **A frame that is read is the next one.** However much has arrived of a frame and of what
follows it, and whatever fails later. -/
theorem readFrame_of_prefix {first : α} (h : codec.Reads first) {bytes rest : List UInt8}
    (hbytes : codec.encode first = some bytes)
    (hstream : reader.stream <+: frame codec.encode first ++ rest)
    (hread : readFrame codec.decode reader = (.ok value, next)) :
    value = first ∧ next.stream <+: rest := by
  obtain ⟨hmem, hdecode, hnext⟩ := readFrame_eq_ok hread
  rw [frame, hbytes, Option.map_some, Option.getD_some, List.append_assoc,
    List.singleton_append] at hstream
  obtain ⟨hnewline, hfirst⟩ := h bytes hbytes
  obtain ⟨htaken, hleft⟩ := Text.upTo_prefix_line newline hnewline hstream hmem
  rw [htaken, List.dropLast_concat, hfirst] at hdecode
  exact ⟨(Option.some.inj hdecode).symm, hnext ▸ hleft⟩

theorem readFrame_of_notMem {decode : List UInt8 → Option α}
    (hnewline : newline ∉ reader.stream) : readFrame decode reader ≠ (.ok value, next) := by
  intro hread
  obtain ⟨hmem, -⟩ := readFrame_eq_ok hread
  exact hnewline (Text.mem_of_mem_upTo newline hmem)

end Frame

/-! ## Following a subscription -/

/-- The client reads the response as it was sent. -/
def Decoder.ReadsResponse (decoder : Decoder) (response : Response) : Prop :=
  Codec.Reads ⟨responseVec, decoder.response⟩ response

/-- The client reads the event as it was sent. -/
def Decoder.ReadsEvent (decoder : Decoder) (event : Event) : Prop :=
  Codec.Reads ⟨eventVec, decoder.event⟩ event

variable {decoder : Decoder} {reader next : ByteReader}

theorem readEvent_eq_ok {event : Event} (h : readEvent decoder reader = (.ok event, next)) :
    readFrame decoder.event reader = (.ok event, next) := by
  rw [readEvent] at h
  split at h
  · cases (Prod.mk.inj h).1
  · split at h
    · cases (Prod.mk.inj h).1
    · simp_all

/-- What a subscriber has is the beginning of what was sent, even where the last frame is only a
part. -/
theorem follow_prefix {events : List Event} (h : ∀ event ∈ events, decoder.ReadsEvent event)
    {tail : List UInt8} (htail : newline ∉ tail)
    (hstream : reader.stream <+: events.flatMap (frame eventVec) ++ tail) (n : ℕ) :
    follow decoder n reader <+: events := by
  induction n generalizing reader events with
  | zero => exact List.nil_prefix
  | succ n ih =>
    rw [follow]
    rcases hread : readEvent decoder reader with ⟨error | event, next⟩
    · exact List.nil_prefix
    · have hframe := readEvent_eq_ok hread
      cases events with
      | nil =>
        rw [List.flatMap_nil, List.nil_append] at hstream
        exact absurd hframe (readFrame_of_notMem fun hmem ↦ htail (hstream.subset hmem))
      | cons first events =>
        rw [List.flatMap_cons, List.append_assoc] at hstream
        obtain ⟨hfirst, hevents⟩ := List.forall_mem_cons.mp h
        obtain ⟨rfl, hrest⟩ := readFrame_of_prefix hfirst rfl hstream hframe
        exact List.cons_prefix_cons.mpr ⟨rfl, ih hevents hrest⟩

theorem follow_eq_take {events : List Event} (h : ∀ event ∈ events, decoder.ReadsEvent event)
    (hreader : reader.Reliable) (hfits : ∀ event ∈ events, Fits eventVec event)
    (hversion : ∀ event ∈ events, event.protocolVersion = protocolVersion)
    {tail : List UInt8} (htail : newline ∉ tail)
    (hstream : reader.stream = events.flatMap (frame eventVec) ++ tail) (n : ℕ) :
    follow decoder n reader = events.take n := by
  induction n generalizing reader events with
  | zero => rw [follow, List.take_zero]
  | succ n ih =>
    cases events with
    | nil =>
      have hnone := follow_prefix h htail ⟨[], (List.append_nil _).trans hstream⟩ (n + 1)
      rw [List.prefix_nil.mp hnone, List.take_nil]
    | cons first events =>
      obtain ⟨hfirst, hrest⟩ := List.forall_mem_cons.mp hfits
      obtain ⟨hone, hversions⟩ := List.forall_mem_cons.mp hversion
      obtain ⟨hreads, hevents⟩ := List.forall_mem_cons.mp h
      rw [List.flatMap_cons, List.append_assoc] at hstream
      obtain ⟨next, hread, hnext, hreliable⟩ := readFrame_of_fits hreads hfirst hreader hstream
      simp only at hread
      rw [follow, readEvent, hread]
      simp only [hone, ne_eq, not_true_eq_false, if_false, List.take_succ_cons,
        ih hevents hreliable hrest hversions hnext]

/-- The answer that a call accepts is the first one that was sent, and that of its request. -/
theorem receive_of_prefix {request : Request} {first response : Response}
    (h : decoder.ReadsResponse first) {rest : List UInt8}
    (hstream : reader.stream <+: frame responseVec first ++ rest)
    (hreceive : receive decoder request reader = (.ok response, next)) :
    response = first ∧ first.requestId = request.requestId ∧ next.stream <+: rest := by
  rw [receive] at hreceive
  split at hreceive
  · cases (Prod.mk.inj hreceive).1
  case h_2 answer last hread =>
    obtain ⟨rfl, hrest⟩ := readFrame_of_prefix h rfl hstream hread
    split at hreceive
    · cases (Prod.mk.inj hreceive).1
    · split at hreceive
      · cases (Prod.mk.inj hreceive).1
      · rename_i hid
        obtain ⟨hresponse, rfl⟩ := Prod.mk.inj hreceive
        exact ⟨(Except.ok.inj hresponse).symm, not_not.mp hid, hrest⟩

theorem receive_of_subscribe {timeout : Option IoError} {fault : Option WriteFault}
    {request : Request} (h : subscribe decoder timeout fault request reader = .ok next) :
    ∃ response, receive decoder request reader = (.ok response, next) := by
  cases timeout with
  | some error => cases h
  | none =>
    rw [subscribe, call] at h
    rcases hwrite : writeFrame requestVec fault request [] with ⟨error | _, output⟩
    · simp only [hwrite] at h
      cases h
    · simp only [hwrite] at h
      rcases hreceive : receive decoder request reader with ⟨error | response, last⟩
      · simp only [hreceive] at h
        cases h
      · simp only [hreceive] at h
        cases hacknowledge : acknowledge response with
        | error error =>
          rw [hacknowledge] at h
          cases h
        | ok _ =>
          rw [hacknowledge] at h
          exact ⟨response, congrArg (Prod.mk _) (Except.ok.inj h)⟩

theorem receive_of_notMem {request : Request} {response : Response}
    (hnewline : newline ∉ reader.stream) :
    receive decoder request reader ≠ (.ok response, next) := by
  intro h
  rw [receive] at h
  split at h
  · cases (Prod.mk.inj h).1
  case h_2 answer last hread => exact readFrame_of_notMem hnewline hread

theorem subscribe_eq_ok {request : Request} {response : Response}
    (hrequest : Fits requestVec request)
    (hread : readFrame decoder.response reader = (.ok response, next))
    (hversion : response.version = protocolVersion)
    (hid : response.requestId = request.requestId) (hok : acknowledge response = .ok ()) :
    subscribe decoder none none request reader = .ok next := by
  have hwrite : (writeFrame requestVec none request []).1 = .ok () :=
    (writeFrame_ok_iff requestVec request []).mpr hrequest
  rcases hframe : writeFrame requestVec none request [] with ⟨outcome, output⟩
  rw [hframe] at hwrite
  obtain rfl : outcome = .ok () := hwrite
  rw [subscribe, call]
  simp only [hframe, receive, hread, hversion, hid, ne_eq, not_true_eq_false, if_false, hok,
    Except.map]

end TunnelDeck.Ipc
