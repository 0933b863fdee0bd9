import TunnelDeck.Ipc.Connection

/-!
# Subscribing

A subscription is acknowledged first: `serve_connection` writes the response, and only then asks the
handler for the receiver of a new channel. In between any other thread may run. What is published
there goes to the subscribers of the moment, and the new one is not among them.

`GetsAll` says what the acknowledgement should mean: every later event goes into the queue of the
subscriber, until the hub gives it up because it lags. `getsAll_iff` is the exact condition: nothing
was published between the acknowledgement and the registration.
-/

namespace TunnelDeck.Ipc

open Concurrency EventHub

variable {σ π ε : Type}

/-! ## Points of a subscription -/

/-- The acknowledgement is written, and the thread has not registered yet. -/
def ConnPc.isAcknowledged : ConnPc π → Bool
  | .subscribing => true
  | _ => false

def ConnPc.channel : ConnPc π → Option ℕ
  | .streaming k => some k
  | _ => none

theorem ConnPc.eq_subscribing {pc : ConnPc π} (h : pc.isAcknowledged = true) :
    pc = .subscribing := by
  rcases pc with pc | _ | ⟨request, pc⟩ | ⟨request, response⟩ | _ | k | _ <;> first | rfl | cases h

theorem ConnPc.eq_streaming {pc : ConnPc π} {k : ℕ} (h : pc.channel = some k) :
    pc = .streaming k := by
  rcases pc with pc | _ | ⟨request, pc⟩ | ⟨request, response⟩ | _ | j | _ <;>
    first | exact congrArg ConnPc.streaming (Option.some.inj h) | cases h

variable (handler : RequestHandler σ π ε)

theorem sent_of_acknowledged {env : ServeEnv ε} {s : Server σ} {c : Conn π}
    (hbefore : c.pc.isAcknowledged = false)
    (h : (serve handler env s c).2.pc.isAcknowledged = true) :
    ∃ request response, c.pc = .answering request response ∧ request.operation = .subscribe ∧
      (serve handler env s c).2.sent = c.sent ++ [response] := by
  obtain ⟨inbox, sent, events, pc⟩ := c
  rcases pc with pc | _ | ⟨request, pc⟩ | ⟨request, response⟩ | _ | k | _
  · exact absurd h Bool.false_ne_true
  · rcases inbox with _ | ⟨(error | _ | _ | _) | request, inbox⟩
    · exact absurd h Bool.false_ne_true
    · exact absurd h Bool.false_ne_true
    · exact absurd h Bool.false_ne_true
    · exact absurd h Bool.false_ne_true
    · exact absurd h Bool.false_ne_true
    · simp only [serve, Conn.received] at h
      split at h <;> exact absurd h Bool.false_ne_true
  · simp only [serve] at h
    split at h <;> exact absurd h Bool.false_ne_true
  · refine ⟨request, response, rfl, ?_⟩
    simp only [serve, Conn.answered, Conn.write] at h ⊢
    split at h
    · exact absurd h Bool.false_ne_true
    · rename_i hwrite
      split at hwrite
      · obtain ⟨-, rfl⟩ := Prod.mk.inj hwrite
        split at h
        · rename_i hsubscribe
          exact ⟨hsubscribe, by rw [if_pos hsubscribe]⟩
        · exact absurd h Bool.false_ne_true
      · cases (Prod.mk.inj hwrite).1
  · cases hbefore
  · simp only [serve] at h
    split at h
    · exact absurd h Bool.false_ne_true
    · exact absurd h Bool.false_ne_true
    · split at h <;> exact absurd h Bool.false_ne_true
  · exact absurd h Bool.false_ne_true

/-- A thread registers by making a channel, which is the next one of the hub. -/
theorem feed_of_streaming {env : ServeEnv ε} {s : Server σ} {c : Conn π}
    (hbefore : c.pc = .subscribing) {k : ℕ} (h : (serve handler env s c).2.pc = .streaming k) :
    s.feed.hub.poisoned = false ∧ k = s.feed.hub.subscribers.count ∧
      (serve handler env s c).1.feed = s.feed.step .subscribe := by
  simp only [serve, hbefore, EventHub.subscribe] at h ⊢
  by_cases hhub : handler.subscribes = true
  · rw [if_pos hhub] at h ⊢
    by_cases hpoisoned : s.feed.hub.poisoned = true
    · rw [if_pos hpoisoned] at h
      cases h
    · rw [if_neg hpoisoned] at h ⊢
      exact ⟨Bool.eq_false_of_not_eq_true hpoisoned, (ConnPc.streaming.inj h).symm, rfl⟩
  · rw [if_neg hhub] at h
    cases h

/-! ## The hub in a run -/

/-- The hub gets from one feed to the other by some calls. -/
def Leads (feed later : Feed) : Prop := ∃ calls, later = run Feed.step feed calls

theorem Leads.refl (feed : Feed) : Leads feed feed := ⟨[], rfl⟩

theorem Leads.trans {first second third : Feed} (h : Leads first second) (h' : Leads second third) :
    Leads first third := by
  obtain ⟨calls, rfl⟩ := h
  obtain ⟨more, rfl⟩ := h'
  exact ⟨calls ++ more, (run_append ..).symm⟩

/-- A section only calls the hub. -/
theorem leads_serve (env : ServeEnv ε) (s : Server σ) (c : Conn π) :
    Leads s.feed (serve handler env s c).1.feed := by
  obtain ⟨inbox, sent, events, pc⟩ := c
  rcases pc with pc | _ | ⟨request, pc⟩ | ⟨request, response⟩ | _ | k | _
  · exact ⟨_, rfl⟩
  · rcases inbox with _ | ⟨read, inbox⟩
    · exact .refl _
    · exact .refl _
  · simp only [serve]
    split
    · exact .refl _
    · exact ⟨_, rfl⟩
  · exact .refl _
  · simp only [serve]
    split
    · split
      · exact ⟨[.subscribe], rfl⟩
      · exact .refl _
    · exact .refl _
  · simp only [serve]
    split
    · exact .refl _
    · exact ⟨[.dropReceiver k], rfl⟩
    · split
      · exact ⟨[.receive k], rfl⟩
      · exact ⟨[.receive k, .dropReceiver k], rfl⟩
  · exact .refl _

theorem leads_run (w : Threads σ π) (as : List (ℕ × ServeEnv ε)) :
    Leads w.shared.feed (run (Server.step handler) w as).shared.feed :=
  invariant_run (Server.step handler) (I := fun v ↦ Leads w.shared.feed v.shared.feed)
    (fun _ _ h ↦ h.trans (leads_serve handler _ _ _)) (Leads.refl _) as

theorem Leads.valid {feed later : Feed} (h : Leads feed later) (hfeed : feed.Valid) :
    later.Valid := by
  obtain ⟨calls, rfl⟩ := h
  exact hfeed.run calls

theorem Leads.published {feed later : Feed} (h : Leads feed later) :
    feed.published <+: later.published := by
  obtain ⟨calls, rfl⟩ := h
  exact Feed.published_run feed calls

/-! ## What a subscriber gets -/

/-- What the acknowledgement means for the channel `k`, made in `registered`: at any later time, if
the hub still holds its sender and the receiver is there, everything published since `acked` went
into it; and if the hub does not hold its sender, it lagged when an event was published. -/
def GetsAll (acked registered : Threads σ π) (k : ℕ) (after : List (ℕ × ServeEnv ε)) : Prop :=
  ∀ during, during <+: after →
    let now := (run (Server.step handler) registered during).shared.feed
    (now.hub.Subscribed k → (now.channel k).closed = false →
      (now.channel k).sent = now.since acked.shared.feed) ∧
    (¬ now.hub.Subscribed k → ∃ lagging event payload, Leads registered.shared.feed lagging ∧
      lagging.hub.Subscribed k ∧ lagging.hub.Lagging k ∧
        Leads (lagging.step (.publish event payload)) now)

theorem since_eq {k : ℕ} {start log : List Event} {feed acked : Feed}
    (h : feed.Follows k start log) (hacked : acked.published = start) : feed.since acked = log := by
  rw [Feed.since, h.published, hacked, List.drop_left]

/-- **Subscribing.** A connection is acknowledged at `acked`, other threads run, the connection
registers, and any threads run after it. The subscriber gets all events from the acknowledgement on
exactly if none was published before it registered. -/
theorem getsAll_iff {start : Threads σ π} (hstart : start.shared.feed = {})
    (before : List (ℕ × ServeEnv ε)) {t : ℕ} {e : ServeEnv ε} {acked : Threads σ π}
    (hacked : Server.step handler (run (Server.step handler) start before) (t, e) = acked)
    (hbefore : ((run (Server.step handler) start before).thread t).pc.isAcknowledged = false)
    (hack : (acked.thread t).pc.isAcknowledged = true)
    {gap : List (ℕ × ServeEnv ε)} (hgap : ∀ a ∈ gap, a.1 ≠ t) {e' : ServeEnv ε}
    {registered : Threads σ π}
    (hregistered : Server.step handler (run (Server.step handler) acked gap) (t, e') = registered)
    {k : ℕ} (hk : (registered.thread t).pc.channel = some k) (after : List (ℕ × ServeEnv ε)) :
    (∃ response, (acked.thread t).sent =
        ((run (Server.step handler) start before).thread t).sent ++ [response]) ∧
      (GetsAll handler acked registered k after ↔
        (run (Server.step handler) acked gap).shared.feed.published =
          acked.shared.feed.published) := by
  constructor
  · rw [← hacked, World.step_thread_self] at hack ⊢
    obtain ⟨request, response, -, -, hsent⟩ := sent_of_acknowledged handler hbefore hack
    exact ⟨response, hsent⟩
  -- the thread has not moved in the gap, so its next section registers it
  have hvalid : acked.shared.feed.Valid := by
    rw [← hacked]
    refine ((leads_run handler start before).trans (leads_serve ..)).valid ?_
    rw [hstart]
    exact .initial
  have hpc : ((run (Server.step handler) acked gap).thread t).pc = .subscribing := by
    rw [World.run_thread_of_ne _ hgap]
    exact ConnPc.eq_subscribing hack
  have hleads := leads_run handler acked gap
  have hstream := ConnPc.eq_streaming hk
  rw [← hregistered, World.step_thread_self] at hstream
  obtain ⟨hopen, rfl, hfeed⟩ := feed_of_streaming handler hpc hstream
  have hnow : registered.shared.feed =
      (run (Server.step handler) acked gap).shared.feed.step .subscribe := by
    rw [← hregistered]
    exact hfeed
  have hfollows := Feed.follows_subscribe hopen
  rw [← hnow] at hfollows
  have hregisteredValid : registered.shared.feed.Valid := by
    rw [hnow]
    exact (hleads.valid hvalid).step .subscribe
  constructor
  · -- at the registration the queue is empty, so nothing was published in the gap
    intro hall
    have hchannel := Feed.channel_subscribe hopen
    rw [← hnow] at hchannel
    have hsent := (hall [] List.nil_prefix).1 hfollows.subscribed
      (congrArg Channel.closed hchannel)
    have hnone : registered.shared.feed.since acked.shared.feed = [] :=
      hsent.symm.trans (congrArg Channel.sent hchannel)
    rw [Feed.since, List.drop_eq_nil_iff, hfollows.published, List.append_nil] at hnone
    exact (hleads.published.eq_of_length (hleads.published.length_le.antisymm hnone)).symm
  · intro hquiet during hduring now
    obtain ⟨calls, hcalls⟩ := leads_run handler registered during
    have hcases := Feed.follows_run hregisteredValid hfollows calls
    rw [← hcalls] at hcases
    constructor
    · intro hheld hclosed
      rcases hcases with ⟨log, hlog⟩ | ⟨_, _, _, _, _, log, _, _, hgone⟩
      · rw [since_eq hlog hquiet.symm]
        exact hlog.carries.whole hclosed
      · exact absurd hheld hgone.unsubscribed
    · intro hnot
      rcases hcases with ⟨log, hlog⟩ | ⟨pre, event, payload, rest, rfl, log, hlog, hlag, hgone⟩
      · exact absurd hlog.subscribed hnot
      · refine ⟨_, event, payload, ⟨pre, rfl⟩, hlog.subscribed, hlag, rest, ?_⟩
        exact hcalls.trans (by rw [run_append, run_cons])

/-! ## Two subscriptions -/

/-- The next section of a thread, in which nothing of the environment fails. -/
def exampleMove (t : ℕ) : ℕ × ServeEnv Env := (t, ⟨{}, none⟩)

/-- One client subscribes, another one updates the settings. -/
def exampleClients : Threads Daemon Pc :=
  (exampleServer.setThread 0 { inbox := [.ok
    { protocolVersion := 1, requestId := 8, operation := .subscribe,
      payload := .object [] }] }).setThread
  1 { inbox := [.ok
    { protocolVersion := 1, requestId := 9, operation := .settingsUpdate,
      payload := encodeSettings .default }] }

def exampleAcked : Threads Daemon Pc :=
  Server.step (manager exampleCrates true) (run (Server.step (manager exampleCrates true))
    exampleClients [exampleMove 0, exampleMove 0, exampleMove 0]) (exampleMove 0)

/-- The first client is registered after some other sections. -/
def exampleRegistered (gap : List (ℕ × ServeEnv Env)) : Threads Daemon Pc :=
  Server.step (manager exampleCrates true)
    (run (Server.step (manager exampleCrates true)) exampleAcked gap) (exampleMove 0)

/-- The second client is read before the first one registers, and handled after it. -/
theorem getsAll_iff_exampleRegistered :
    GetsAll (manager exampleCrates true) exampleAcked (exampleRegistered [exampleMove 1]) 0
      [exampleMove 1] :=
  (getsAll_iff (manager exampleCrates true) (show exampleClients.shared.feed = {} from rfl)
    [exampleMove 0, exampleMove 0, exampleMove 0]
    (show _ = exampleAcked from rfl) (by decide +kernel) (by decide +kernel)
    (show ∀ a ∈ [exampleMove 1], a.1 ≠ 0 by decide)
    (show _ = exampleRegistered [exampleMove 1] from rfl) (by decide +kernel)
    [exampleMove 1]).2.mpr (by decide +kernel)

/-- The second client is handled before the first one registers: its event is lost. -/
theorem exampleRegistered_misses :
    (exampleAcked.thread 0).sent.map Response.requestId = [8] ∧
      ¬ GetsAll (manager exampleCrates true) exampleAcked
        (exampleRegistered [exampleMove 1, exampleMove 1]) 0 [] := by
  refine ⟨by decide +kernel, fun hall ↦ ?_⟩
  have hsent := (hall [] List.nil_prefix).1 (by decide +kernel) (by decide +kernel)
  exact absurd hsent (by decide +kernel)

end TunnelDeck.Ipc
