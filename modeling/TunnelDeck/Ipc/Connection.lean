import TunnelDeck.Daemon.Configuration
import TunnelDeck.Ipc.Events
import TunnelDeck.Ipc.Frames

/-!
# Serving connections

`serve_connection` reads one request after the other, has each handled and writes the response; a
subscription ends the exchange, and from then on the connection carries events. Every connection
runs on a thread of its own, next to threads of the handler.

What handles the requests is a parameter, as in the source: a `RequestHandler` with its own state
and its own sections, each of which may publish events. `serve` is one section of a thread, and a
run of `Server.step` interleaves the sections of all threads.

## Main results

* `fits_unsupportedVersion`: the refusal of a version always fits into a frame.
* `serve_sent`: what was sent before does not matter to a section.
-/

namespace TunnelDeck.Ipc

open Json (Value)
open Concurrency EventHub

/-! ## Handlers -/

/-- `RequestHandler`: where a call of `handle` starts, what a section of it does to the state of
the handler and which events it publishes, and the response once the call has returned. -/
structure RequestHandler (σ π ε : Type) where
  handle : Request → π
  exec : ε → σ → π → σ × π × List TunnelDeck.Event
  response : Request → π → Option Response
  /-- `subscribe` gives a receiver. -/
  subscribes : Bool

/-- The manager as a handler. A thread of it that has returned has its reply. -/
def manager (crates : Crates) (managed : Bool) : RequestHandler Daemon Pc Env where
  handle request := TunnelDeck.handle request.toRequest
  exec env d pc :=
    ((TunnelDeck.exec crates managed env d pc).1, (TunnelDeck.exec crates managed env d pc).2,
      (TunnelDeck.exec crates managed env d pc).1.events.drop d.events.length)
  response request pc :=
    match pc with
    | .returned _ reply => some (request.respond reply)
    | _ => none
  subscribes := true

/-! ## Connections -/

/-- Where a thread is. -/
inductive ConnPc (π : Type) where
  /-- The thread runs code of the handler only. -/
  | background (pc : π)
  | reading
  | handling (request : Request) (pc : π)
  | answering (request : Request) (response : Response)
  /-- The acknowledgement is written, and the handler has not been asked for events yet. -/
  | subscribing
  | streaming (k : ℕ)
  | closed

/-- A thread with its connection: what the reads to come give, and the frames written so far. -/
structure Conn (π : Type) where
  inbox : List (Except TransportError Request) := []
  sent : List Response := []
  events : List Event := []
  pc : ConnPc π := .reading

def responseVec (response : Response) : Option (List UInt8) :=
  some (encodeResponse response).toVec

def eventVec (event : Event) : Option (List UInt8) := some (encodeEvent event).toVec

def oversized : Response :=
  failure 0 .messageTooLarge "message exceeds 1 MiB or is not newline terminated"

def malformed : Response := failure 0 .invalidRequest "malformed request"

def unsupportedVersion (request : Request) : Response :=
  failure request.requestId .unsupportedVersion
    ("protocol version " ++ ToString.toString request.protocolVersion.toNat ++
      " is unsupported; expected " ++ ToString.toString protocolVersion.toNat)

namespace Conn

variable {σ π ε : Type}

def write (fault : Option WriteFault) (response : Response) (c : Conn π) :
    Except TransportError Unit × Conn π :=
  match (writeFrame responseVec fault response []).1 with
  | .ok () => (.ok (), { c with sent := c.sent ++ [response] })
  | .error error => (.error error, c)

/-- What follows a read. A refused frame is answered if that is possible, and ends the connection
either way. -/
def received (handler : RequestHandler σ π ε) (fault : Option WriteFault) (c : Conn π) :
    Except TransportError Request → Conn π
  | .ok request =>
    if request.protocolVersion ≠ protocolVersion then
      { c with pc := .answering request (unsupportedVersion request) }
    else { c with pc := .handling request (handler.handle request) }
  | .error .disconnected => { c with pc := .closed }
  | .error .messageTooLarge => { (c.write fault oversized).2 with pc := .closed }
  | .error .invalidMessage => { (c.write fault malformed).2 with pc := .closed }
  | .error (.io _) => { c with pc := .closed }

def answered (fault : Option WriteFault) (request : Request) (response : Response) (c : Conn π) :
    Conn π :=
  match c.write fault response with
  | (.error _, c) => { c with pc := .closed }
  | (.ok (), c) =>
    if request.operation = .subscribe then { c with pc := .subscribing }
    else { c with pc := .reading }

end Conn

/-! ## Sections -/

/-- What the threads share: the state of the handler and its event hub. -/
structure Server (σ : Type) where
  state : σ
  feed : Feed := {}

/-- The answers of the environment in a section. -/
structure ServeEnv (ε : Type) where
  handler : ε
  fault : Option WriteFault := none

/-- Publishes several events. -/
def publishCalls (events : List TunnelDeck.Event) : List EventHub.Call :=
  events.map fun event ↦ .publish event.event event.payload

section Serve

variable {σ π ε : Type} (handler : RequestHandler σ π ε)

/-- Code of the handler. -/
def execHandler (env : ServeEnv ε) (s : Server σ) (pc : π) : Server σ × π :=
  ({ state := (handler.exec env.handler s.state pc).1
     feed := run Feed.step s.feed (publishCalls (handler.exec env.handler s.state pc).2.2) },
    (handler.exec env.handler s.state pc).2.1)

/-- One section of a thread. -/
def serve (env : ServeEnv ε) (s : Server σ) (c : Conn π) : Server σ × Conn π :=
  match c.pc with
  | .background pc =>
    ((execHandler handler env s pc).1,
      { c with pc := .background (execHandler handler env s pc).2 })
  | .reading =>
    match c.inbox with
    | [] => (s, c)
    | read :: inbox => (s, { c with inbox }.received handler env.fault read)
  | .handling request pc =>
    match handler.response request pc with
    | some response => (s, { c with pc := .answering request response })
    | none =>
      ((execHandler handler env s pc).1,
        { c with pc := .handling request (execHandler handler env s pc).2 })
  | .answering request response => (s, c.answered env.fault request response)
  | .subscribing =>
    if handler.subscribes then
      match s.feed.hub.subscribe with
      | some _ =>
        ({ s with feed := s.feed.step .subscribe },
          { c with pc := .streaming s.feed.hub.subscribers.count })
      -- a poisoned hub panics, and the thread ends
      | none => (s, { c with pc := .closed })
    else (s, { c with pc := .closed })
  | .streaming k =>
    match s.feed.hub.recv k with
    | none => (s, c)
    | some none => ({ s with feed := s.feed.step (.dropReceiver k) }, { c with pc := .closed })
    | some (some event) =>
      match (writeFrame eventVec env.fault event []).1 with
      | .ok () =>
        ({ s with feed := s.feed.step (.receive k) }, { c with events := c.events ++ [event] })
      | .error _ =>
        ({ s with feed := (s.feed.step (.receive k)).step (.dropReceiver k) },
          { c with pc := .closed })
  | .closed => (s, c)

abbrev Threads (σ π : Type) := World (Server σ) (Conn π)

abbrev Server.step : Threads σ π → ℕ × ServeEnv ε → Threads σ π := World.step (serve handler)

end Serve

/-! ## The refusal of a version -/

theorem length_toString_version (version : UInt32) :
    (ToString.toString version.toNat).length ≤ 10 := by
  have hlt : version.toNat < 10 ^ 10 := Nat.lt_trans version.toNat_lt (by decide)
  exact (Nat.length_repr_le_iff (by decide)).mpr hlt

theorem fits_unsupportedVersion (request : Request) :
    Fits responseVec (unsupportedVersion request) := by
  refine ⟨_, rfl, Nat.le_trans (Json.length_utf8_le _) ?_⟩
  have hid := Json.length_quote_le (Text.formatUuid request.requestId)
  rw [Text.length_formatUuid] at hid
  have hmessage := Json.length_quote_le ("protocol version " ++
    ToString.toString request.protocolVersion.toNat ++ " is unsupported; expected " ++
    ToString.toString protocolVersion.toNat)
  have hversion := length_toString_version request.protocolVersion
  have htexts : "protocol version ".length = 17 ∧ " is unsupported; expected ".length = 26 ∧
      (ToString.toString protocolVersion.toNat).length = 1 ∧
      (ToString.toString (protocolVersion.toNat : ℤ)).toList.length = 1 := by decide +kernel
  simp only [String.length_append] at hmessage
  have hnames : ∀ name ∈ ["protocol_version", "request_id", "error", "code", "message",
      variantName errorCodeVariants .unsupportedVersion], (Json.quote name).length ≤ 30 := by
    decide +kernel
  have h₁ := hnames "protocol_version" (by simp)
  have h₂ := hnames "request_id" (by simp)
  have h₃ := hnames "error" (by simp)
  have h₄ := hnames "code" (by simp)
  have h₅ := hnames "message" (by simp)
  have h₆ := hnames (variantName errorCodeVariants .unsupportedVersion) (by simp)
  simp only [unsupportedVersion, failure, encodeResponse, encodeError, encodeVersion, encodeId,
    Json.Value.compact, Json.compactFields, List.length_cons, List.length_append, List.length_nil]
  rw [maxMessageBytes]
  omega

/-! ## What was sent before -/

section Sent

variable {σ π ε : Type} (handler : RequestHandler σ π ε)

theorem Conn.write_sent (fault : Option WriteFault) (response : Response) (c : Conn π) :
    ∃ new, (c.write fault response).2.sent = c.sent ++ new ∧
      ∀ sent, { c with sent }.write fault response =
        ((c.write fault response).1, { (c.write fault response).2 with sent := sent ++ new }) := by
  simp only [Conn.write]
  split
  · exact ⟨[response], rfl, fun _ ↦ rfl⟩
  · exact ⟨[], (List.append_nil _).symm, fun sent ↦ by rw [List.append_nil]⟩

theorem Conn.received_sent (fault : Option WriteFault) (read : Except TransportError Request)
    (c : Conn π) :
    ∃ new, (c.received handler fault read).sent = c.sent ++ new ∧
      ∀ sent, { c with sent }.received handler fault read =
        { c.received handler fault read with sent := sent ++ new } := by
  rcases read with (error | _ | _ | _) | request
  · exact ⟨[], (List.append_nil _).symm, fun sent ↦ by rw [List.append_nil]; rfl⟩
  · obtain ⟨new, hnew, hsent⟩ := c.write_sent fault oversized
    refine ⟨new, ?_, fun sent ↦ ?_⟩
    · simpa only [received] using hnew
    · rw [received, received, hsent]
  · exact ⟨[], (List.append_nil _).symm, fun sent ↦ by rw [List.append_nil]; rfl⟩
  · obtain ⟨new, hnew, hsent⟩ := c.write_sent fault malformed
    refine ⟨new, ?_, fun sent ↦ ?_⟩
    · simpa only [received] using hnew
    · rw [received, received, hsent]
  · refine ⟨[], ?_, fun sent ↦ ?_⟩
    · simp only [received]
      split <;> exact (List.append_nil _).symm
    · simp only [received]
      split <;> rw [List.append_nil]

theorem Conn.answered_sent (fault : Option WriteFault) (request : Request) (response : Response)
    (c : Conn π) :
    ∃ new, (c.answered fault request response).sent = c.sent ++ new ∧
      ∀ sent, { c with sent }.answered fault request response =
        { c.answered fault request response with sent := sent ++ new } := by
  obtain ⟨new, hnew, hsent⟩ := c.write_sent fault response
  refine ⟨new, ?_, fun sent ↦ ?_⟩
  · rw [← hnew, answered]
    rcases c.write fault response with ⟨error | _, next⟩
    · rfl
    · simp only []
      split <;> rfl
  · rw [answered, answered, hsent]
    rcases c.write fault response with ⟨error | _, next⟩
    · rfl
    · simp only []
      split <;> rfl

/-- A section adds to what was sent, and does not read it. -/
theorem serve_sent (env : ServeEnv ε) (s : Server σ) (c : Conn π) :
    ∃ new, (serve handler env s c).2.sent = c.sent ++ new ∧
      ∀ sent, serve handler env s { c with sent } =
        ((serve handler env s c).1, { (serve handler env s c).2 with sent := sent ++ new }) := by
  obtain ⟨inbox, before, events, pc⟩ := c
  rcases pc with pc | _ | ⟨request, pc⟩ | ⟨request, response⟩ | _ | k | _
  · exact ⟨[], (List.append_nil _).symm, fun sent ↦ by rw [List.append_nil]; rfl⟩
  · rcases inbox with _ | ⟨read, inbox⟩
    · exact ⟨[], (List.append_nil _).symm, fun sent ↦ by rw [List.append_nil]; rfl⟩
    · obtain ⟨new, hnew, hsent⟩ := Conn.received_sent handler env.fault read
        ⟨inbox, before, events, .reading⟩
      exact ⟨new, hnew, fun sent ↦ congrArg (Prod.mk s) (hsent sent)⟩
  · refine ⟨[], ?_, fun sent ↦ ?_⟩
    · simp only [serve]
      split <;> exact (List.append_nil _).symm
    · simp only [serve]
      split <;> rw [List.append_nil]
  · obtain ⟨new, hnew, hsent⟩ := Conn.answered_sent env.fault request response
      (⟨inbox, before, events, .answering request response⟩ : Conn π)
    exact ⟨new, hnew, fun sent ↦ congrArg (Prod.mk s) (hsent sent)⟩
  · refine ⟨[], ?_, fun sent ↦ ?_⟩
    · simp only [serve]
      split
      · split <;> exact (List.append_nil _).symm
      · exact (List.append_nil _).symm
    · simp only [serve]
      split
      · split <;> rw [List.append_nil]
      · rw [List.append_nil]
  · refine ⟨[], ?_, fun sent ↦ ?_⟩
    · simp only [serve]
      split
      · exact (List.append_nil _).symm
      · exact (List.append_nil _).symm
      · split <;> exact (List.append_nil _).symm
    · simp only [serve]
      split
      · rw [List.append_nil]
      · rw [List.append_nil]
      · split <;> rw [List.append_nil]
  · exact ⟨[], (List.append_nil _).symm, fun sent ↦ by rw [List.append_nil]; rfl⟩

/-- Two worlds that are the same, except that on the connection of `t` more was sent: `extra`,
right after `before`. -/
structure Surplus (t : ℕ) (before extra : List Response) (w v : Threads σ π) : Prop where
  shared : w.shared = v.shared
  others : ∀ u, u ≠ t → w.thread u = v.thread u
  connection : ∃ later, (v.thread t).sent = before ++ later ∧
    w.thread t = { v.thread t with sent := before ++ extra ++ later }

theorem Surplus.step {t : ℕ} {before extra : List Response} {w v : Threads σ π}
    (h : Surplus t before extra w v) (a : ℕ × ServeEnv ε) :
    Surplus t before extra (Server.step handler w a) (Server.step handler v a) := by
  obtain ⟨u, env⟩ := a
  by_cases hu : u = t
  · subst hu
    obtain ⟨later, hlater, hthread⟩ := h.connection
    obtain ⟨new, hnew, hsent⟩ := serve_sent handler env v.shared (v.thread u)
    have hw : serve handler env w.shared (w.thread u) =
        ((serve handler env v.shared (v.thread u)).1,
          { (serve handler env v.shared (v.thread u)).2 with
            sent := before ++ extra ++ later ++ new }) := by
      rw [h.shared, hthread, hsent]
    refine ⟨?_, fun j hj ↦ ?_, later ++ new, ?_, ?_⟩
    · rw [World.step_shared, World.step_shared, hw]
    · rw [World.step_thread_of_ne _ _ hj, World.step_thread_of_ne _ _ hj, h.others j hj]
    · rw [World.step_thread_self, hnew, hlater, List.append_assoc]
    · rw [World.step_thread_self, World.step_thread_self, hw, List.append_assoc _ later new]
  · have hw :
        serve handler env w.shared (w.thread u) = serve handler env v.shared (v.thread u) := by
      rw [h.shared, h.others u hu]
    refine ⟨?_, fun j hj ↦ ?_, ?_⟩
    · rw [World.step_shared, World.step_shared, hw]
    · by_cases hj' : j = u
      · rw [hj', World.step_thread_self, World.step_thread_self, hw]
      · rw [World.step_thread_of_ne _ _ hj', World.step_thread_of_ne _ _ hj', h.others j hj]
    · rw [World.step_thread_of_ne _ _ (Ne.symm hu), World.step_thread_of_ne _ _ (Ne.symm hu)]
      exact h.connection

theorem Surplus.run {t : ℕ} {before extra : List Response} {w v : Threads σ π}
    (h : Surplus t before extra w v) (as : List (ℕ × ServeEnv ε)) :
    Surplus t before extra (run (Server.step handler) w as) (run (Server.step handler) v as) := by
  induction as generalizing w v with
  | nil => exact h
  | cons a as ih => exact ih (h.step handler a)

end Sent

/-! ## A server -/

instance : Inhabited Env := ⟨{}⟩

/-- The daemon of the examples, with connections that have nothing to read yet. -/
def exampleServer : Threads Daemon Pc where
  shared := { state := exampleOpened.shared }
  thread := fun _ ↦ {}

end TunnelDeck.Ipc
