import TunnelDeck.Ipc.Client
import TunnelDeck.Ipc.Responses
import TunnelDeck.Ipc.Subscription

/-!
# From the hub to the client

An event goes through the queue of a subscriber, the thread of its connection, the socket and the
reader of the client. Each of them can end at any time: the hub gives a slow subscriber up, a write
fails inside of a frame, the client reads a part or not at all.

## Main result

`subscription_reads`: what a client has read at any time are events that were published one right
after the other. It reads all that its connection has carried, if it reads on.
-/

namespace TunnelDeck.Ipc

open Concurrency EventHub
open Json (Value)
open Text (BufReader)

/-! ## The channel of a connection -/

namespace EventHub.Feed

variable {feed : Feed} {k : ℕ}

/-- The channel `k` carries what was published from some time on, up to now or up to the event at
which the hub gave its subscriber up. -/
def Tracks (k : ℕ) (feed : Feed) : Prop :=
  ∃ start log, feed.Follows k start log ∨
    feed.GivenUp k log ∧ start ++ log <+: feed.published

theorem Tracks.made (h : feed.Tracks k) : k < feed.hub.subscribers.count := by
  obtain ⟨start, log, h | ⟨h, -⟩⟩ := h
  · exact h.made
  · exact h.made

theorem Tracks.step (h : feed.Tracks k) (hfeed : feed.Valid) (call : Call) :
    (feed.step call).Tracks k := by
  have hgrows : feed.published <+: (feed.step call).published := published_run feed [call]
  obtain ⟨start, log, h | ⟨h, hlog⟩⟩ := h
  · rcases h.step hfeed call with ⟨new, hnext⟩ | ⟨hgone, -⟩
    · exact ⟨start, log ++ new, Or.inl hnext⟩
    · exact ⟨start, log, Or.inr ⟨hgone, h.published ▸ hgrows⟩⟩
  · exact ⟨start, log, Or.inr ⟨h.step hfeed call, hlog.trans hgrows⟩⟩

/-- What the receiver has taken was published without a gap. -/
theorem Tracks.received (h : feed.Tracks k) :
    (feed.channel k).received <:+: feed.published := by
  have hwithin {start log : List Event} (hcarries : (feed.channel k).Carries log)
      (hlog : start ++ log <+: feed.published) :
      (feed.channel k).received <:+: feed.published :=
    hcarries.received_within.isInfix.trans
      ((List.suffix_append start log).isInfix.trans hlog.isInfix)
  obtain ⟨start, log, h | ⟨h, hlog⟩⟩ := h
  · exact hwithin h.carries ⟨[], by rw [List.append_nil, h.published]⟩
  · exact hwithin h.carries hlog

theorem received_step (hfeed : feed.Valid) (hk : k < feed.hub.subscribers.count) {call : Call}
    (hcall : call ≠ .receive k) :
    ((feed.step call).channel k).received = (feed.channel k).received := by
  rcases call with _ | ⟨event, payload⟩ | j | j
  · simp only [Feed.step, EventHub.subscribe]
    split
    · rfl
    · exact congrArg Channel.received
        (Broadcast.channel_subscribe_of_ne _ (Nat.ne_of_lt hk))
  · rcases feed.publish_cases event payload with ⟨hsub, -⟩ | ⟨message, -, hsub, -⟩
    · rw [channel, hsub, channel]
    · obtain ⟨-, hchannel⟩ := Broadcast.send_spec eventBufferCapacity hfeed.subscribers message k
      rw [channel, hsub, hchannel, channel]
      split <;> rfl
  · have hne : k ≠ j := fun heq ↦ hcall (heq ▸ rfl)
    exact congrArg Channel.received (Broadcast.channel_modify_of_ne _ hne _)
  · by_cases hj : k = j
    · subst hj
      have hchannel : (feed.step (.dropReceiver k)).channel k = (feed.channel k).close :=
        Broadcast.channel_modify_self ..
      rw [hchannel]
      rfl
    · exact congrArg Channel.received (Broadcast.channel_modify_of_ne _ hj _)

theorem Tracks.run (h : feed.Tracks k) (hfeed : feed.Valid) {calls : List Call}
    (hcalls : ∀ call ∈ calls, call ≠ .receive k) :
    (Concurrency.run Feed.step feed calls).Tracks k ∧
      ((Concurrency.run Feed.step feed calls).channel k).received =
        (feed.channel k).received := by
  induction calls generalizing feed with
  | nil => exact ⟨h, rfl⟩
  | cons call calls ih =>
    obtain ⟨hcall, hcalls⟩ := List.forall_mem_cons.mp hcalls
    obtain ⟨htracks, hreceived⟩ := ih (h.step hfeed call) (hfeed.step call) hcalls
    exact ⟨htracks, hreceived.trans (received_step hfeed h.made hcall)⟩

/-- The event that a receiver is about to get is the next one that it takes. -/
theorem received_receive {event : Event} (h : feed.hub.recv k = some (some event)) :
    ((feed.step (.receive k)).channel k).received = (feed.channel k).received ++ [event] := by
  have hchannel : (feed.step (.receive k)).channel k = (feed.channel k).receive :=
    Broadcast.channel_modify_self ..
  rw [hchannel, Channel.receive]
  simp only [recv] at h
  rw [channel]
  split at h
  case h_1 first rest hbuffer =>
    rw [hbuffer]
    rw [Option.some.inj (Option.some.inj h)]
  case h_2 => split at h <;> cases h

end EventHub.Feed

/-! ## What a connection has been told -/

section Serve

variable {σ π ε : Type} {handler : RequestHandler σ π ε}

/-- A thread takes events from its own channel alone. -/
theorem serve_calls (env : ServeEnv ε) (s : Server σ) (c : Conn π) :
    ∃ calls, (serve handler env s c).1.feed = run Feed.step s.feed calls ∧
      ∀ k, Call.receive k ∈ calls → c.pc = .streaming k := by
  have hpublish (pc : π) (k : ℕ) :
      Call.receive k ∉ publishCalls (handler.exec env.handler s.state pc).2.2 := by
    simp [publishCalls]
  obtain ⟨inbox, sent, events, pc⟩ := c
  rcases pc with pc | _ | ⟨request, pc⟩ | ⟨request, response⟩ | _ | j | _
  · exact ⟨_, rfl, fun k hk ↦ absurd hk (hpublish pc k)⟩
  · rcases inbox with _ | ⟨read, inbox⟩ <;> exact ⟨[], rfl, by simp⟩
  · simp only [serve]
    split
    · exact ⟨[], rfl, by simp⟩
    · exact ⟨_, rfl, fun k hk ↦ absurd hk (hpublish pc k)⟩
  · exact ⟨[], rfl, by simp⟩
  · simp only [serve]
    split
    · split
      · exact ⟨[.subscribe], rfl, by simp⟩
      · exact ⟨[], rfl, by simp⟩
    · exact ⟨[], rfl, by simp⟩
  · simp only [serve]
    split
    · exact ⟨[], rfl, by simp⟩
    · exact ⟨[.dropReceiver j], rfl, by simp⟩
    · split
      · exact ⟨[.receive j], rfl, by simp⟩
      · exact ⟨[.receive j, .dropReceiver j], rfl, by simp⟩
  · exact ⟨[], rfl, by simp⟩

def ConnPc.isClosed : ConnPc π → Bool
  | .closed => true
  | _ => false

structure Conn.Told (s : Server σ) (c : Conn π) : Prop where
  /-- A connection that streams has been told what its receiver has taken. -/
  streaming : ∀ k, c.pc.channel = some k →
    s.feed.Tracks k ∧ c.events = (s.feed.channel k).received
  within : c.events <:+: s.feed.published
  /-- Events come after a subscription only. -/
  quiet : c.pc.channel = none → c.pc.isClosed = false → c.events = []
  fits : ∀ event ∈ c.events, Fits eventVec event

/-- What is published has the version of the protocol. -/
structure EventHub.Feed.Sound (feed : Feed) : Prop where
  valid : feed.Valid
  version : ∀ event ∈ feed.published, event.protocolVersion = protocolVersion

theorem EventHub.Feed.Sound.step {feed : Feed} (h : feed.Sound) (call : Call) :
    (feed.step call).Sound := by
  refine ⟨h.valid.step call, ?_⟩
  rcases call with _ | ⟨event, payload⟩ | k | k
  · exact h.version
  · simp only [Feed.step, publish]
    split
    · simpa using h.version
    · split
      · intro message hmessage
        rcases List.mem_append.mp hmessage with hold | hnew
        · exact h.version message hold
        · rw [Option.toList_some, List.mem_singleton] at hnew
          rw [hnew]
      · simpa using h.version
  · exact h.version
  · exact h.version

theorem EventHub.Feed.Sound.run {feed : Feed} (h : feed.Sound) (calls : List Call) :
    (Concurrency.run Feed.step feed calls).Sound :=
  invariant_run Feed.step (fun _ call h ↦ h.step call) h calls

theorem Conn.Told.of_serve {s : Server σ} {c d : Conn π} (hfeed : s.feed.Valid)
    (hd : d.Told s) (hapart : ∀ k, c.pc.channel = some k → d.pc.channel ≠ some k)
    (env : ServeEnv ε) : d.Told (serve handler env s c).1 := by
  obtain ⟨calls, hcalls, hreceive⟩ := @serve_calls _ _ _ handler env s c
  refine ⟨fun k hk ↦ ?_, ?_, hd.quiet, hd.fits⟩
  · obtain ⟨htracks, hevents⟩ := hd.streaming k hk
    have hother : ∀ call ∈ calls, call ≠ .receive k := by
      rintro call hcall rfl
      exact hapart k (by rw [hreceive k hcall]; rfl) hk
    obtain ⟨hnext, hreceived⟩ := htracks.run hfeed hother
    rw [hcalls]
    exact ⟨hnext, hevents.trans hreceived.symm⟩
  · rw [hcalls]
    exact hd.within.trans (Feed.published_run s.feed calls).isInfix

theorem Conn.Told.of_calls {s s' : Server σ} {c c' : Conn π} (hc : c.Told s)
    (calls : List EventHub.Call) (hcalls : s'.feed = run Feed.step s.feed calls)
    (hevents : c'.events = c.events) (hchannel : c'.pc.channel = none)
    (hquiet : c'.pc.isClosed = false → c.pc.channel = none ∧ c.pc.isClosed = false) :
    c'.Told s' := by
  refine ⟨fun k hk ↦ ?_, ?_, fun _ hopen ↦ ?_, fun event hevent ↦ hc.fits event (hevents ▸ hevent)⟩
  · rw [hchannel] at hk
    cases hk
  · rw [hcalls, hevents]
    exact hc.within.trans (Feed.published_run s.feed calls).isInfix
  · obtain ⟨hnone, hbefore⟩ := hquiet hopen
    rw [hevents]
    exact hc.quiet hnone hbefore

theorem fits_of_writeFrame {α : Type} {encode : α → Option (List UInt8)} {value : α}
    {fault : Option WriteFault} {output : List UInt8}
    (h : (writeFrame encode fault value output).1 = .ok ()) : Fits encode value := by
  rw [writeFrame] at h
  split at h
  case h_1 => cases h
  case h_2 bytes hbytes =>
    split at h
    · cases h
    · exact ⟨bytes, hbytes, Nat.le_of_not_lt ‹_›⟩

theorem Conn.write_events (fault : Option WriteFault) (response : Response) (c : Conn π) :
    (c.write fault response).2.events = c.events := by
  rw [write]
  split <;> rfl

theorem Conn.received_told (handler : RequestHandler σ π ε) (fault : Option WriteFault)
    (read : Except TransportError Request) (c : Conn π) :
    (c.received handler fault read).events = c.events ∧
      (c.received handler fault read).pc.channel = none := by
  rcases read with (error | _ | _ | _) | request
  · exact ⟨rfl, rfl⟩
  · simp only [received, write_events, true_and]
    rfl
  · exact ⟨rfl, rfl⟩
  · simp only [received, write_events, true_and]
    rfl
  · rw [received]
    split <;> exact ⟨rfl, rfl⟩

theorem Conn.answered_told (fault : Option WriteFault) (request : Request) (response : Response)
    (c : Conn π) :
    (c.answered fault request response).events = c.events ∧
      (c.answered fault request response).pc.channel = none := by
  have hevents := c.write_events fault response
  rw [answered]
  rcases hwrite : c.write fault response with ⟨error | _, next⟩ <;> rw [hwrite] at hevents
  · exact ⟨hevents, rfl⟩
  · simp only
    split <;> exact ⟨hevents, rfl⟩

theorem Conn.Told.of_streaming {s : Server σ} {c : Conn π} (hfeed : s.feed.Sound) (hc : c.Told s)
    {k : ℕ} (hk : c.pc = .streaming k) (env : ServeEnv ε) :
    (serve handler env s c).2.Told (serve handler env s c).1 := by
  obtain ⟨inbox, sent, events, pc⟩ := c
  obtain rfl : pc = .streaming k := hk
  obtain ⟨htracks, hevents⟩ := hc.streaming k rfl
  simp only [serve]
  split
  · exact hc
  · exact hc.of_calls [.dropReceiver k] rfl rfl rfl fun hopen ↦ by cases hopen
  case h_3 event hrecv =>
    split
    case h_1 hwrite =>
      -- the event that is written is the one that the receiver has taken
      have hnext := htracks.step hfeed.valid (.receive k)
      have hreceived := Feed.received_receive hrecv
      refine ⟨fun j hj ↦ ?_, ?_, ?_, fun other hother ↦ ?_⟩
      · obtain rfl := Option.some.inj hj
        exact ⟨hnext, by rw [hreceived, ← hevents]⟩
      · have hinfix := hnext.received
        rw [hreceived, ← hevents] at hinfix
        exact hinfix
      · intro hnone
        cases hnone
      · rcases List.mem_append.mp hother with hold | hnew
        · exact hc.fits other hold
        · rw [List.mem_singleton.mp hnew]
          exact fits_of_writeFrame hwrite
    case h_2 =>
      exact hc.of_calls [.receive k, .dropReceiver k] rfl rfl rfl fun hopen ↦ by cases hopen

theorem Conn.Told.of_subscribing {s : Server σ} {c : Conn π} (hc : c.Told s)
    (hpc : c.pc = .subscribing) (env : ServeEnv ε) :
    (serve handler env s c).2.Told (serve handler env s c).1 := by
  obtain ⟨inbox, sent, events, pc⟩ := c
  obtain rfl : pc = .subscribing := hpc
  simp only [serve]
  split
  · split
    case h_1 hub hsubscribe =>
      have hopen : s.feed.hub.poisoned = false := by
        rw [EventHub.subscribe] at hsubscribe
        split at hsubscribe
        · cases hsubscribe
        · exact Bool.eq_false_of_not_eq_true ‹_›
      have hfollows := Feed.follows_subscribe hopen
      have hnone : events = [] := hc.quiet rfl rfl
      refine ⟨fun k hk ↦ ?_, ?_, ?_, fun event hevent ↦ hc.fits event hevent⟩
      · obtain rfl := Option.some.inj hk
        refine ⟨⟨_, _, Or.inl hfollows⟩, ?_⟩
        rw [Feed.channel_subscribe hopen]
        exact hnone
      · rw [hnone]
        exact List.nil_infix
      · intro hnone
        cases hnone
    case h_2 => exact hc.of_calls [] rfl rfl rfl fun hopen ↦ by cases hopen
  · exact hc.of_calls [] rfl rfl rfl fun hopen ↦ by cases hopen

theorem Conn.Told.serve {s : Server σ} {c : Conn π} (hfeed : s.feed.Sound) (hc : c.Told s)
    (env : ServeEnv ε) : (serve handler env s c).2.Told (serve handler env s c).1 := by
  obtain ⟨calls, hcalls, -⟩ := @serve_calls _ _ _ handler env s c
  obtain ⟨inbox, sent, events, pc⟩ := c
  rcases pc with pc | _ | ⟨request, pc⟩ | ⟨request, response⟩ | _ | k | _
  · exact hc.of_calls calls hcalls rfl rfl fun _ ↦ ⟨rfl, rfl⟩
  · rcases inbox with _ | ⟨read, inbox⟩
    · exact hc
    · obtain ⟨hevents, hchannel⟩ := Conn.received_told handler env.fault read
        ⟨inbox, sent, events, .reading⟩
      exact hc.of_calls calls hcalls hevents hchannel fun _ ↦ ⟨rfl, rfl⟩
  · simp only [Ipc.serve] at hcalls ⊢
    split at hcalls <;> exact hc.of_calls calls hcalls rfl rfl fun _ ↦ ⟨rfl, rfl⟩
  · obtain ⟨hevents, hchannel⟩ := Conn.answered_told env.fault request response
      (⟨inbox, sent, events, .answering request response⟩ : Conn π)
    exact hc.of_calls calls hcalls hevents hchannel fun _ ↦ ⟨rfl, rfl⟩
  · exact hc.of_subscribing rfl env
  · exact hc.of_streaming hfeed rfl env
  · exact hc

/-- Two threads do not stream from one channel. -/
def Conn.Apart (c d : Conn π) : Prop := ∀ k, c.pc.channel = some k → d.pc.channel ≠ some k

/-- A thread gets a channel that nobody else has. -/
theorem Conn.Apart.serve {s : Server σ} {c d : Conn π} (h : c.Apart d) (hd : d.Told s)
    (env : ServeEnv ε) : (serve handler env s c).2.Apart d := by
  intro k hk hdk
  by_cases hsubscribing : c.pc = .subscribing
  · obtain ⟨-, rfl, -⟩ := feed_of_streaming handler hsubscribing (ConnPc.eq_streaming hk)
    exact absurd (hd.streaming _ hdk).1.made (Nat.lt_irrefl _)
  · refine h k ?_ hdk
    obtain ⟨inbox, sent, events, pc⟩ := c
    rcases pc with pc | _ | ⟨request, pc⟩ | ⟨request, response⟩ | _ | j | _
    · exact hk
    · rcases inbox with _ | ⟨read, inbox⟩
      · exact hk
      · exact ((Conn.received_told handler env.fault read
          ⟨inbox, sent, events, .reading⟩).2.symm.trans hk)
    · simp only [Ipc.serve] at hk
      split at hk <;> exact hk
    · exact ((Conn.answered_told env.fault request response
        (⟨inbox, sent, events, .answering request response⟩ : Conn π)).2.symm.trans hk)
    · exact absurd rfl hsubscribing
    · simp only [Ipc.serve] at hk
      split at hk
      · exact hk
      · cases hk
      · split at hk
        · exact hk
        · cases hk
    · exact hk

/-- Every connection of a server has been told what its receiver has taken. -/
theorem told_run {start : Threads σ π} (hfeed : start.shared.feed = {})
    (hstart : ∀ t, (start.thread t).events = [] ∧ (start.thread t).pc.channel = none)
    (as : List (ℕ × ServeEnv ε)) (t : ℕ) :
    (run (Server.step handler) start as).shared.feed.Sound ∧
      ((run (Server.step handler) start as).thread t).Told
        (run (Server.step handler) start as).shared := by
  have hinitial : World.Consistent (fun s : Server σ ↦ s.feed.Sound) (fun s c ↦ c.Told s)
      Conn.Apart start := by
    refine ⟨?_, fun t ↦ ?_, fun t u _ k hk ↦ ?_⟩
    · rw [hfeed]
      exact ⟨.initial, fun event hevent ↦ by cases hevent⟩
    · obtain ⟨hevents, hchannel⟩ := hstart t
      refine ⟨fun k hk ↦ ?_, ?_, fun _ _ ↦ hevents, fun event hevent ↦ ?_⟩
      · rw [hchannel] at hk
        cases hk
      · rw [hevents]
        exact List.nil_infix
      · rw [hevents] at hevent
        cases hevent
    · rw [(hstart t).2] at hk
      cases hk
  have hfinal := invariant_run (Server.step handler) (I := World.Consistent
    (fun s : Server σ ↦ s.feed.Sound) (fun s c ↦ c.Told s) Conn.Apart) (fun w a h ↦
      h.step (C := fun _ _ _ ↦ True) (fun c d happart k hk hck ↦ happart k hck hk)
        (fun env s c _ hs hc ↦ by
          obtain ⟨calls, hcalls, -⟩ := @serve_calls _ _ _ handler env s c
          exact ⟨hcalls ▸ hs.run calls, hc.serve hs env⟩)
        (fun env s c d _ hs hc hd happart ↦
          ⟨hd.of_serve hs.valid happart env, happart.serve hd env⟩) trivial) hinitial as
  exact ⟨hfinal.shared, hfinal.thread t⟩

end Serve

/-! ## A client that subscribes -/

/-- The request of `Client::subscribe`. -/
def subscription (id : Uuid) : Request where
  protocolVersion := protocolVersion
  requestId := id
  operation := .subscribe
  payload := .object []

/-- The answer of the manager to it. -/
def subscribed (id : Uuid) : Response := success id (.object [("subscribed", .bool true)])

/-- The bytes of the frames that a connection has carried. -/
def Conn.wire {π : Type} (c : Conn π) : List UInt8 :=
  c.sent.flatMap (frame responseVec) ++ c.events.flatMap (frame eventVec)

/-- A call of the manager that answers a subscription. -/
def Pc.Subscribes (id : Uuid) (pc : Pc) : Prop :=
  pc = .dispatch (subscription id).toRequest ∨
    pc = .returned (subscription id).toRequest (.ok (.object [("subscribed", .bool true)]))

/-- Where a connection is that has been asked for a subscription alone. -/
inductive Subscribes (id : Uuid) : Conn Pc → Prop
  | reading {inbox : List (Except TransportError Request)} :
    Subscribes id ⟨.ok (subscription id) :: inbox, [], [], .reading⟩
  | handling {inbox : List (Except TransportError Request)} {pc : Pc}
      (hpc : Pc.Subscribes id pc) :
    Subscribes id ⟨inbox, [], [], .handling (subscription id) pc⟩
  | answering {inbox : List (Except TransportError Request)} :
    Subscribes id ⟨inbox, [], [], .answering (subscription id) (subscribed id)⟩
  | subscribed {inbox : List (Except TransportError Request)} {events : List Event}
      {pc : ConnPc Pc} (hpc : pc = .subscribing ∨ (∃ k, pc = .streaming k) ∨ pc = .closed)
      (hfits : Fits responseVec (subscribed id)) :
    Subscribes id ⟨inbox, [subscribed id], events, pc⟩
  | refused {inbox : List (Except TransportError Request)} :
    Subscribes id ⟨inbox, [], [], .closed⟩

section Manager

variable {crates : Crates} {managed : Bool} {id : Uuid}

theorem Subscribes.serve {c : Conn Pc} (h : Subscribes id c) (env : ServeEnv Env)
    (s : Server Daemon) : Subscribes id (serve (manager crates managed) env s c).2 := by
  cases h with
  | reading => exact .handling (Or.inl rfl)
  | handling hpc =>
    rcases hpc with rfl | rfl
    · exact .handling (Or.inr rfl)
    · exact .answering
  | answering =>
    rcases hframe : (writeFrame responseVec env.fault (Ipc.subscribed id) []).1 with error | _
    · simp only [Ipc.serve, Conn.answered, Conn.write, hframe]
      exact .refused
    · simp only [Ipc.serve, Conn.answered, Conn.write, hframe]
      exact .subscribed (Or.inl rfl) (fits_of_writeFrame hframe)
  | subscribed hpc hfits =>
    rcases hpc with rfl | ⟨k, rfl⟩ | rfl
    · simp only [Ipc.serve]
      split
      · split
        · exact .subscribed (Or.inr (Or.inl ⟨_, rfl⟩)) hfits
        · exact .subscribed (Or.inr (Or.inr rfl)) hfits
      · exact .subscribed (Or.inr (Or.inr rfl)) hfits
    · simp only [Ipc.serve]
      split
      · exact .subscribed (Or.inr (Or.inl ⟨k, rfl⟩)) hfits
      · exact .subscribed (Or.inr (Or.inr rfl)) hfits
      · split
        · exact .subscribed (Or.inr (Or.inl ⟨k, rfl⟩)) hfits
        · exact .subscribed (Or.inr (Or.inr rfl)) hfits
    · exact .subscribed (Or.inr (Or.inr rfl)) hfits
  | refused => exact .refused

theorem Subscribes.run {w : Threads Daemon Pc} {t : ℕ} (h : Subscribes id (w.thread t))
    (as : List (ℕ × ServeEnv Env)) :
    Subscribes id ((Concurrency.run (Server.step (manager crates managed)) w as).thread t) := by
  refine invariant_run (Server.step (manager crates managed))
    (I := fun v : Threads Daemon Pc ↦ Subscribes id (v.thread t)) (fun v a h ↦ ?_) h as
  by_cases ht : t = a.1
  · subst ht
    rw [World.step_thread_self]
    exact h.serve a.2 v.shared
  · rw [World.step_thread_of_ne _ _ ht]
    exact h

/-- Nothing comes before the acknowledgement. -/
theorem Subscribes.sent {c : Conn Pc} (h : Subscribes id c) :
    c.sent = [] ∧ c.events = [] ∨
      c.sent = [Ipc.subscribed id] ∧ Fits responseVec (Ipc.subscribed id) := by
  cases h with
  | reading | handling _ | answering | refused => exact Or.inl ⟨rfl, rfl⟩
  | subscribed _ hfits => exact Or.inr ⟨rfl, hfits⟩

end Manager

theorem fits_subscription (id : Uuid) : Fits requestVec (subscription id) := by
  refine ⟨_, rfl, Nat.le_trans (Json.length_utf8_le _) ?_⟩
  have hid := Json.length_quote_le (Text.formatUuid id)
  rw [Text.length_formatUuid] at hid
  have hnames : ∀ name ∈ ["protocol_version", "request_id", "operation", "payload",
      variantName operationVariants .subscribe], (Json.quote name).length ≤ 30 := by
    decide +kernel
  have hversion : (ToString.toString (protocolVersion.toNat : ℤ)).toList.length = 1 := by
    decide +kernel
  have h₁ := hnames "protocol_version" (by simp)
  have h₂ := hnames "request_id" (by simp)
  have h₃ := hnames "operation" (by simp)
  have h₄ := hnames "payload" (by simp)
  have h₅ := hnames (variantName operationVariants .subscribe) (by simp)
  simp only [subscription, encodeRequest, encodeVersion, encodeId, Json.Value.compact,
    Json.compactFields, List.length_cons, List.length_append, List.length_nil]
  rw [maxMessageBytes]
  omega

theorem acknowledge_subscribed (id : Uuid) : acknowledge (subscribed id) = .ok () := by
  simp [subscribed, success, acknowledge, Value.get]

/-- **A subscription from end to end.** Any threads of the manager run, and one of them serves a
connection on which a client has subscribed. What the client gets of its bytes may stop anywhere,
also inside of a frame that is not written to its end. Once it has subscribed, the events that it
has read, however often it has tried, are the first ones that the connection has carried; these
were published one right after the other, with consecutive numbers; and if all of the bytes arrive
with the acknowledgement among them, the client does subscribe and reads all of them. -/
theorem subscription_reads {crates : Crates} {managed : Bool} {start : Threads Daemon Pc}
    (hfeed : start.shared.feed = {})
    (hstart : ∀ t, (start.thread t).events = [] ∧ (start.thread t).pc.channel = none) {t : ℕ}
    {id : Uuid} {inbox : List (Except TransportError Request)}
    (ht : start.thread t = ⟨.ok (subscription id) :: inbox, [], [], .reading⟩)
    (as : List (ℕ × ServeEnv Env)) {decoder : Decoder} {tail : List UInt8}
    (htail : newline ∉ tail) :
    let w := run (Server.step (manager crates managed)) start as
    let c := w.thread t
    (∀ response ∈ c.sent, decoder.ReadsResponse response) →
    (∀ event ∈ c.events, decoder.ReadsEvent event) →
    (∀ (reader next : ByteReader) (timeout : Option IoError) (fault : Option WriteFault),
      reader.stream <+: c.wire ++ tail →
      subscribe decoder timeout fault (subscription id) reader = .ok next →
        ∀ n, follow decoder n next <+: c.events) ∧
    (c.events <:+: w.shared.feed.published ∧
      ∃ first, c.events.map Event.sequence = List.range' first c.events.length) ∧
    (c.sent ≠ [] → ∀ reader : ByteReader, reader.Reliable → reader.stream = c.wire ++ tail →
      ∃ next, subscribe decoder none none (subscription id) reader = .ok next ∧
        ∀ n, follow decoder n next = c.events.take n) := by
  intro w c hresponses hevents
  obtain ⟨hsound, htold⟩ := @told_run _ _ _ (manager crates managed) _ hfeed hstart as t
  have hsubscribes : Subscribes id c := Subscribes.run (ht ▸ .reading) as
  have hversion : ∀ event ∈ c.events, event.protocolVersion = protocolVersion :=
    fun event hevent ↦ hsound.version event (htold.within.subset hevent)
  refine ⟨fun reader next timeout fault hstream hnext n ↦ ?_, ⟨htold.within, ?_⟩, ?_⟩
  · obtain ⟨response, hreceive⟩ := receive_of_subscribe hnext
    rcases hsubscribes.sent with ⟨hsent, hnone⟩ | ⟨hsent, -⟩
    · rw [Conn.wire, hsent, hnone] at hstream
      exact absurd hreceive
        (receive_of_notMem fun hmem ↦ htail (by simpa using hstream.subset hmem))
    · rw [Conn.wire, hsent, List.flatMap_singleton, List.append_assoc] at hstream
      obtain ⟨-, -, hrest⟩ := receive_of_prefix
        (hresponses _ (hsent ▸ List.mem_singleton_self _)) hstream hreceive
      exact follow_prefix hevents htail hrest n
  · obtain ⟨before, after, hpublished⟩ := htold.within
    have hall := hsound.valid.numbered
    rw [← hpublished, List.map_append, List.map_append, List.length_append, List.length_append,
      ← List.range'_append, ← List.range'_append] at hall
    refine ⟨_, ((List.append_inj (List.append_inj hall ?_).1 ?_).2)⟩
    · simp
    · simp
  · intro hsome reader hreader hstream
    rcases hsubscribes.sent with ⟨hsent, -⟩ | ⟨hsent, hfits⟩
    · exact absurd hsent hsome
    · rw [Conn.wire, hsent, List.flatMap_singleton, List.append_assoc] at hstream
      obtain ⟨next, hread, hrest, hreliable⟩ := readFrame_of_fits
        (hresponses _ (hsent ▸ List.mem_singleton_self _)) hfits hreader hstream
      refine ⟨next, subscribe_eq_ok (fits_subscription id) hread rfl rfl
        (acknowledge_subscribed id), fun n ↦ ?_⟩
      exact follow_eq_take hevents hreliable htold.fits hversion htail hrest n

theorem Decoder.ReadsResponse.of_toVec {decoder : Decoder} {response : Response}
    (h : newline ∉ (encodeResponse response).toVec ∧
      decoder.response (encodeResponse response).toVec = some response) :
    decoder.ReadsResponse response := by
  intro bytes hbytes
  obtain rfl : (encodeResponse response).toVec = bytes := Option.some.inj hbytes
  exact h

theorem Decoder.ReadsEvent.of_toVec {decoder : Decoder} {event : Event}
    (h : newline ∉ (encodeEvent event).toVec ∧
      decoder.event (encodeEvent event).toVec = some event) : decoder.ReadsEvent event := by
  intro bytes hbytes
  obtain rfl : (encodeEvent event).toVec = bytes := Option.some.inj hbytes
  exact h

def Decoder.ofValues (responses : List Response) (events : List Event) : Decoder where
  response bytes := responses.find? fun response ↦ responseVec response = some bytes
  event bytes := events.find? fun event ↦ eventVec event = some bytes

/-- The first client of the example has subscribed when the second one is handled. -/
def exampleStreamed : Threads Daemon Pc :=
  run (Server.step (manager exampleCrates true)) exampleClients
    ([0, 0, 0, 0, 0, 1, 1, 0].map exampleMove)

def exampleEvents : List Event := (exampleStreamed.thread 0).events

def exampleDecoder : Decoder := .ofValues [subscribed 8] exampleEvents

theorem exampleStreamed_sent : (exampleStreamed.thread 0).sent = [subscribed 8] := by
  decide +kernel

/-- The client reads the one event. -/
theorem subscription_reads_exampleStreamed :
    exampleEvents.length = 1 ∧
      ∃ next, subscribe exampleDecoder none none (subscription 8)
          ⟨(exampleStreamed.thread 0).wire, []⟩ = .ok next ∧
        follow exampleDecoder 1 next = exampleEvents.take 1 := by
  refine ⟨by decide +kernel, ?_⟩
  have hidle : ∀ t, (exampleClients.thread t).events = [] ∧
      (exampleClients.thread t).pc.channel = none := by
    rintro (_ | _ | t) <;> exact ⟨rfl, rfl⟩
  have hresponses : ∀ response ∈ (exampleStreamed.thread 0).sent,
      exampleDecoder.ReadsResponse response := by
    have hall : ∀ response ∈ (exampleStreamed.thread 0).sent,
        newline ∉ (encodeResponse response).toVec ∧
          exampleDecoder.response (encodeResponse response).toVec = some response := by
      decide +kernel
    exact fun response hresponse ↦ .of_toVec (hall response hresponse)
  have hevents : ∀ event ∈ (exampleStreamed.thread 0).events,
      exampleDecoder.ReadsEvent event := by
    have hall : ∀ event ∈ (exampleStreamed.thread 0).events,
        newline ∉ (encodeEvent event).toVec ∧
          exampleDecoder.event (encodeEvent event).toVec = some event := by
      decide +kernel
    exact fun event hevent ↦ .of_toVec (hall event hevent)
  have hsubscription : exampleClients.thread 0 = ⟨[.ok (subscription 8)], [], [], .reading⟩ := rfl
  obtain ⟨-, -, hreads⟩ := @subscription_reads exampleCrates true exampleClients rfl hidle 0 8 []
    hsubscription ([0, 0, 0, 0, 0, 1, 1, 0].map exampleMove) exampleDecoder []
    List.not_mem_nil hresponses hevents
  obtain ⟨next, hnext, hfollow⟩ := hreads (exampleStreamed_sent ▸ List.cons_ne_nil _ _)
    ⟨(exampleStreamed.thread 0).wire, []⟩ (Text.BufReader.reliable_buffer _)
    ((Text.BufReader.stream_buffer _).trans (List.append_nil _).symm)
  exact ⟨next, hnext, hfollow 1⟩

end TunnelDeck.Ipc
