import TunnelDeck.Concurrency.Broadcast
import TunnelDeck.Concurrency.Run
import TunnelDeck.Ipc.Message

/-!
# The event hub

`EventHub` numbers the events it publishes and broadcasts them to its subscribers, each behind a
bounded channel. A subscriber whose channel is full, or whose receiver is gone, is given up at the
next event. A counter that overflows panics under the lock of the hub and poisons it; from then on
nobody subscribes and nothing is published.

A run interleaves subscribing, publishing, and what the receivers do, in any order.

## Main results

* `EventHub.Feed.follows_run`: as long as the hub holds the sender of a subscriber, its channel
  carries every event published since it subscribed; afterwards it carries those up to the event at
  which it was given up, and nothing more.
* `EventHub.Feed.agree_run`: what a subscriber has does not depend on what the receivers of the
  others do.
-/

namespace TunnelDeck.Ipc

open Json (Value)
open Concurrency

/-- `EventHub`. The senders are held by the hub, the channels are shared with the receivers. -/
structure EventHub where
  sequence : ℕ := 0
  subscribers : Broadcast Event := {}
  poisoned : Bool := false

namespace EventHub

/-- `EventHub::subscribe`. Nothing is returned when it panics; otherwise the receiver is the one of
the channel numbered `hub.subscribers.count`. -/
def subscribe (hub : EventHub) : Option EventHub :=
  if hub.poisoned then none else some { hub with subscribers := hub.subscribers.subscribe }

/-- `EventHub::publish`, with the event it returns unless it panics. -/
def publish (event : String) (payload : Value) (hub : EventHub) : Option Event × EventHub :=
  if hub.poisoned then (none, hub)
  else if hub.sequence + 1 < 2 ^ 64 then
    let message : Event :=
      { protocolVersion, sequence := hub.sequence + 1, event, payload }
    (some message,
      { hub with
        sequence := hub.sequence + 1
        subscribers := hub.subscribers.send eventBufferCapacity message })
  else (none, { hub with poisoned := true })

/-- `Receiver::recv` of the channel `k`: the next event, nothing at the end of the stream. Without
either it waits. -/
def recv (hub : EventHub) (k : ℕ) : Option (Option Event) :=
  match (hub.subscribers.channel k).buffer with
  | event :: _ => some (some event)
  | [] => if k ∈ hub.subscribers.senders then none else some none

/-- The hub holds the sender of the channel `k`. -/
def Subscribed (hub : EventHub) (k : ℕ) : Prop := k ∈ hub.subscribers.senders

instance (hub : EventHub) (k : ℕ) : Decidable (hub.Subscribed k) :=
  inferInstanceAs (Decidable (_ ∈ _))

/-- The subscriber `k` has as many unreceived events as its channel takes, or its receiver is
gone. -/
def Lagging (hub : EventHub) (k : ℕ) : Prop :=
  (hub.subscribers.channel k).buffer.length = eventBufferCapacity ∨
    (hub.subscribers.channel k).closed = true

/-! ## Runs -/

inductive Call where
  | subscribe
  | publish (event : String) (payload : Value)
  | receive (k : ℕ)
  | dropReceiver (k : ℕ)

/-- The call is not something that the receiver of another subscriber does. -/
def Call.Concerns (k : ℕ) : Call → Bool
  | .subscribe | .publish _ _ => true
  | .receive j | .dropReceiver j => j = k

def Call.message : Call → Option TunnelDeck.Event
  | .publish event payload => some ⟨event, payload⟩
  | _ => none

/-- A hub and the events it has published, the oldest first. -/
structure Feed where
  hub : EventHub := {}
  published : List Event := []

namespace Feed

def step (feed : Feed) : Call → Feed
  | .subscribe => { feed with hub := (feed.hub.subscribe).getD feed.hub }
  | .publish event payload =>
    { hub := (feed.hub.publish event payload).2
      published := feed.published ++ (feed.hub.publish event payload).1.toList }
  | .receive k =>
    { feed with
      hub.subscribers := feed.hub.subscribers.modify k Channel.receive }
  | .dropReceiver k =>
    { feed with
      hub.subscribers := feed.hub.subscribers.modify k Channel.close }

/-- The channel `k`. -/
def channel (feed : Feed) (k : ℕ) : Channel Event := feed.hub.subscribers.channel k

/-- The events published after an earlier state of the run. -/
def since (feed start : Feed) : List Event := feed.published.drop start.published.length

/-! ## What one call does -/

/-- The hub numbers its events in order, and its channels are as they should be. -/
structure Valid (feed : Feed) : Prop where
  subscribers : feed.hub.subscribers.Valid eventBufferCapacity
  sequence : feed.hub.sequence = feed.published.length
  numbered : feed.published.map Event.sequence = List.range' 1 feed.published.length

/-- A publishing either panics, and leaves the subscribers as they were, or broadcasts one event
with the next number. -/
theorem publish_cases (feed : Feed) (event : String) (payload : Value) :
    ((feed.step (.publish event payload)).hub.subscribers = feed.hub.subscribers ∧
        (feed.step (.publish event payload)).published = feed.published ∧
        (feed.step (.publish event payload)).hub.sequence = feed.hub.sequence) ∨
      ∃ message : Event, message.sequence = feed.hub.sequence + 1 ∧
        (feed.step (.publish event payload)).hub.subscribers =
          feed.hub.subscribers.send eventBufferCapacity message ∧
        (feed.step (.publish event payload)).published = feed.published ++ [message] ∧
        (feed.step (.publish event payload)).hub.sequence = feed.hub.sequence + 1 := by
  simp only [step, publish]
  split
  · left
    exact ⟨rfl, List.append_nil _, rfl⟩
  · split
    · right
      exact ⟨_, rfl, rfl, rfl, rfl⟩
    · left
      exact ⟨rfl, List.append_nil _, rfl⟩

theorem Valid.initial : ({} : Feed).Valid := ⟨Broadcast.Valid.empty, rfl, rfl⟩

theorem Valid.step {feed : Feed} (h : feed.Valid) (call : Call) : (feed.step call).Valid := by
  rcases call with _ | ⟨event, payload⟩ | k | k
  · simp only [Feed.step, EventHub.subscribe]
    split
    · exact h
    · exact ⟨h.subscribers.subscribe, h.sequence, h.numbered⟩
  · rcases feed.publish_cases event payload with ⟨hsub, hpub, hseq⟩ | ⟨m, hm, hsub, hpub, hseq⟩
    · exact ⟨hsub ▸ h.subscribers, by rw [hseq, hpub, h.sequence], hpub ▸ h.numbered⟩
    · refine ⟨hsub ▸ h.subscribers.send m, ?_, ?_⟩
      · rw [hseq, hpub, h.sequence, List.length_append, List.length_singleton]
      · rw [hpub, List.map_append, h.numbered, List.length_append, List.length_singleton,
          List.range'_concat, List.map_singleton, hm, h.sequence, Nat.one_mul, Nat.add_comm]
  · exact ⟨h.subscribers.modify k Channel.length_buffer_receive_le, h.sequence, h.numbered⟩
  · exact ⟨h.subscribers.modify k Channel.length_buffer_close_le, h.sequence, h.numbered⟩

theorem Valid.run {feed : Feed} (h : feed.Valid) (calls : List Call) :
    (run Feed.step feed calls).Valid :=
  invariant_run Feed.step (I := Valid) (fun _ call h ↦ h.step call) h calls

/-! ## One subscriber -/

/-- The subscriber `k`, whose sender the hub holds: its channel carries `log`, which is what was
published since `start`. -/
structure Follows (k : ℕ) (start log : List Event) (feed : Feed) : Prop where
  made : k < feed.hub.subscribers.count
  published : feed.published = start ++ log
  subscribed : feed.hub.Subscribed k
  carries : (feed.channel k).Carries log

/-- The subscriber `k`, which the hub has given up: its channel carries `log`. -/
structure GivenUp (k : ℕ) (log : List Event) (feed : Feed) : Prop where
  made : k < feed.hub.subscribers.count
  unsubscribed : ¬ feed.hub.Subscribed k
  carries : (feed.channel k).Carries log

theorem carries_modify {feed : Feed} {j k : ℕ} {log : List Event}
    {f : Channel Event → Channel Event}
    (hf : ∀ c : Channel Event, c.Carries log → (f c).Carries log)
    (h : (feed.channel k).Carries log) :
    ((feed.hub.subscribers.modify j f).channel k).Carries log := by
  by_cases hk : k = j
  · rw [← hk, Broadcast.channel_modify_self]
    exact hf _ h
  · rw [Broadcast.channel_modify_of_ne _ hk]
    exact h

/-- A channel without room is full or closed, since no buffer is overfull. -/
theorem lagging_of_not_hasRoom {feed : Feed} (hfeed : feed.Valid) {k : ℕ}
    (hroom : ¬ (feed.hub.subscribers.channel k).HasRoom eventBufferCapacity) :
    feed.hub.Lagging k := by
  have hbound := hfeed.subscribers.bounded k
  rw [Channel.HasRoom] at hroom
  by_cases hclosed : (feed.hub.subscribers.channel k).closed = true
  · exact .inr hclosed
  · left
    rw [Bool.not_eq_true] at hclosed
    exact Nat.le_antisymm hbound (Nat.le_of_not_lt fun hlt ↦ hroom ⟨hclosed, hlt⟩)

theorem Follows.subscribe {feed : Feed} {k : ℕ} {start log : List Event}
    (h : feed.Follows k start log) : (feed.step .subscribe).Follows k start log := by
  simp only [Feed.step, EventHub.subscribe]
  split
  · exact h
  · refine ⟨Nat.lt_succ_of_lt h.made, h.published, ?_, ?_⟩
    · exact (Broadcast.mem_senders_subscribe _ k).mpr (.inl h.subscribed)
    · show ((feed.hub.subscribers.subscribe).channel k).Carries log
      -- a new subscription takes a new number
      rw [Broadcast.channel_subscribe_of_ne _ (Nat.ne_of_lt h.made)]
      exact h.carries

/-- What is published joins what the subscriber is to receive where there is room left, and is lost
on it otherwise. -/
theorem Follows.publish {feed : Feed} (hfeed : feed.Valid) {k : ℕ} {start log : List Event}
    (h : feed.Follows k start log) (event : String) (payload : Value) :
    (∃ new, (feed.step (.publish event payload)).Follows k start (log ++ new)) ∨
      ((feed.step (.publish event payload)).GivenUp k log ∧ feed.hub.Lagging k) := by
  rcases feed.publish_cases event payload with ⟨hsub, hpub, hseq⟩ | ⟨m, hm, hsub, hpub, hseq⟩
  · left
    refine ⟨[], ?_⟩
    rw [List.append_nil]
    refine ⟨?_, hpub.trans h.published, ?_, ?_⟩
    · rw [hsub]; exact h.made
    · rw [Subscribed, hsub]; exact h.subscribed
    · rw [channel, hsub]; exact h.carries
  · obtain ⟨hkept, hchannel⟩ := Broadcast.send_spec eventBufferCapacity hfeed.subscribers m k
    by_cases hroom : (feed.hub.subscribers.channel k).HasRoom eventBufferCapacity
    · left
      refine ⟨[m], ?_, ?_, ?_, ?_⟩
      · rw [hsub]; exact h.made
      · rw [hpub, h.published, List.append_assoc]
      · rw [Subscribed, hsub]; exact hkept.mpr ⟨h.subscribed, hroom⟩
      · rw [channel, hsub, hchannel, if_pos ⟨h.subscribed, hroom⟩]
        exact h.carries.push hroom m
    · right
      refine ⟨⟨?_, ?_, ?_⟩, lagging_of_not_hasRoom hfeed hroom⟩
      · rw [hsub]; exact h.made
      · rw [Subscribed, hsub]
        exact fun hk ↦ hroom (hkept.mp hk).2
      · rw [channel, hsub, hchannel, if_neg fun hk ↦ hroom hk.2]
        exact h.carries

/-- The hub holds the sender after a call too, unless the call publishes and the subscriber lags. -/
theorem Follows.step {feed : Feed} (hfeed : feed.Valid) {k : ℕ} {start log : List Event}
    (h : feed.Follows k start log) (call : Call) :
    (∃ new, (feed.step call).Follows k start (log ++ new)) ∨
      ((feed.step call).GivenUp k log ∧ feed.hub.Lagging k ∧
        ∃ event payload, call = .publish event payload) := by
  rcases call with _ | ⟨event, payload⟩ | j | j
  · left
    refine ⟨[], ?_⟩
    rw [List.append_nil]
    exact h.subscribe
  · rcases h.publish hfeed event payload with hfollows | ⟨hgone, hlag⟩
    · exact .inl hfollows
    · exact .inr ⟨hgone, hlag, event, payload, rfl⟩
  · left
    refine ⟨[], ?_⟩
    rw [List.append_nil]
    exact ⟨h.made, h.published, h.subscribed, carries_modify (fun c hc ↦ hc.receive) h.carries⟩
  · left
    refine ⟨[], ?_⟩
    rw [List.append_nil]
    exact ⟨h.made, h.published, h.subscribed, carries_modify (fun c hc ↦ hc.close) h.carries⟩

/-- A subscriber that was given up gets nothing any more. -/
theorem GivenUp.step {feed : Feed} (hfeed : feed.Valid) {k : ℕ} {log : List Event}
    (h : feed.GivenUp k log) (call : Call) : (feed.step call).GivenUp k log := by
  rcases call with _ | ⟨event, payload⟩ | j | j
  · simp only [Feed.step, EventHub.subscribe]
    split
    · exact h
    · refine ⟨Nat.lt_succ_of_lt h.made, fun hk ↦ ?_, ?_⟩
      · -- the new subscriber has a number of its own
        rcases (Broadcast.mem_senders_subscribe _ k).mp hk with hold | hnew
        · exact h.unsubscribed hold
        · exact Nat.ne_of_lt h.made hnew
      · show ((feed.hub.subscribers.subscribe).channel k).Carries log
        rw [Broadcast.channel_subscribe_of_ne _ (Nat.ne_of_lt h.made)]
        exact h.carries
  · rcases feed.publish_cases event payload with ⟨hsub, hpub, hseq⟩ | ⟨m, hm, hsub, hpub, hseq⟩
    · refine ⟨?_, ?_, ?_⟩
      · rw [hsub]; exact h.made
      · rw [Subscribed, hsub]; exact h.unsubscribed
      · rw [channel, hsub]; exact h.carries
    · obtain ⟨hkept, hchannel⟩ := Broadcast.send_spec eventBufferCapacity hfeed.subscribers m k
      refine ⟨?_, ?_, ?_⟩
      · rw [hsub]; exact h.made
      · rw [Subscribed, hsub]
        exact fun hk ↦ h.unsubscribed (hkept.mp hk).1
      · rw [channel, hsub, hchannel, if_neg fun hk ↦ h.unsubscribed hk.1]
        exact h.carries
  · exact ⟨h.made, h.unsubscribed, carries_modify (fun c hc ↦ hc.receive) h.carries⟩
  · exact ⟨h.made, h.unsubscribed, carries_modify (fun c hc ↦ hc.close) h.carries⟩

/-! ## Whole runs of one subscriber -/

theorem GivenUp.run {feed : Feed} (hfeed : feed.Valid) {k : ℕ} {log : List Event}
    (h : feed.GivenUp k log) (calls : List Call) : (run Feed.step feed calls).GivenUp k log := by
  induction calls generalizing feed with
  | nil => exact h
  | cons call calls ih => exact ih (hfeed.step call) (h.step hfeed call)

/-- **A subscriber over a run.** Either the hub still holds its sender, or it gave the subscriber up
at one publishing of the run. -/
theorem follows_run {feed : Feed} (hfeed : feed.Valid) {k : ℕ} {start log : List Event}
    (h : feed.Follows k start log) (calls : List Call) :
    (∃ log, (run Feed.step feed calls).Follows k start log) ∨
      ∃ during event payload rest, calls = during ++ .publish event payload :: rest ∧
        ∃ log, (run Feed.step feed during).Follows k start log ∧
          (run Feed.step feed during).hub.Lagging k ∧
          (run Feed.step feed calls).GivenUp k log := by
  induction calls generalizing feed log with
  | nil => exact .inl ⟨log, h⟩
  | cons call calls ih =>
    rcases h.step hfeed call with ⟨new, hnext⟩ | ⟨hgone, hlag, event, payload, rfl⟩
    · rcases ih (hfeed.step call) hnext with hheld | ⟨during, event, payload, rest, rfl, hrest⟩
      · exact .inl hheld
      · exact .inr ⟨call :: during, event, payload, rest, rfl, hrest⟩
    · exact .inr ⟨[], event, payload, calls, rfl, log, h, hlag, hgone.run (hfeed.step _) calls⟩

theorem published_run (feed : Feed) (calls : List Call) :
    feed.published <+: (run Feed.step feed calls).published := by
  induction calls generalizing feed with
  | nil => exact List.prefix_rfl
  | cons call calls ih =>
    refine List.IsPrefix.trans ?_ (ih (feed.step call))
    rcases call with _ | ⟨event, payload⟩ | k | k
    · exact List.prefix_rfl
    · exact List.prefix_append ..
    · exact List.prefix_rfl
    · exact List.prefix_rfl

/-! ## What is published -/

theorem poisoned_step {feed : Feed} (h : feed.hub.poisoned = true) (call : Call) :
    (feed.step call).hub.poisoned = true := by
  cases call with
  | subscribe => simp only [step, EventHub.subscribe, h, if_true, Option.getD_none]
  | publish event payload => simp only [step, EventHub.publish, h, if_true]
  | receive | dropReceiver => exact h

theorem messages_step {feed : Feed} {call : Call} (h : (feed.step call).hub.poisoned = false) :
    (feed.step call).published.map Event.toEvent =
      feed.published.map Event.toEvent ++ call.message.toList := by
  cases call with
  | publish event payload =>
    simp only [step, EventHub.publish] at h ⊢
    split
    · next hpoisoned =>
      rw [if_pos hpoisoned] at h
      exact absurd hpoisoned (ne_true_of_eq_false h)
    · next hpoisoned =>
      rw [if_neg hpoisoned] at h
      split
      · exact List.map_append
      · next hsequence =>
        rw [if_neg hsequence] at h
        cases h
  | subscribe | receive | dropReceiver => exact (List.append_nil _).symm

/-- A hub that is still open has published what it was called to publish. -/
theorem messages_run (feed : Feed) {calls : List Call}
    (h : (run Feed.step feed calls).hub.poisoned = false) :
    (run Feed.step feed calls).published.map Event.toEvent =
      feed.published.map Event.toEvent ++ calls.filterMap Call.message := by
  induction calls generalizing feed with
  | nil => exact (List.append_nil _).symm
  | cons call calls ih =>
    have hopen : (feed.step call).hub.poisoned = false := by
      by_contra hpoisoned
      have hlater := invariant_run Feed.step (I := fun feed ↦ feed.hub.poisoned = true)
        (fun _ call h ↦ poisoned_step h call) (eq_true_of_ne_false hpoisoned) calls
      exact absurd hlater (ne_true_of_eq_false h)
    rw [run_cons, ih _ h, messages_step hopen, List.append_assoc]
    congr 1
    cases hmessage : call.message with
    | none => rw [List.filterMap_cons_none hmessage, Option.toList_none, List.nil_append]
    | some message => rw [List.filterMap_cons_some hmessage]; rfl

/-! ## What one subscriber depends on

The feed as the subscriber `k` sees it is a system of its own: no step of it reads what the other
subscribers have. -/

/-- A feed as one subscriber sees it. -/
structure Seen where
  published : List Event
  sequence : ℕ
  poisoned : Bool
  count : ℕ
  subscribed : Bool
  channel : Channel Event

/-- The feed as `k` sees it. -/
def seen (k : ℕ) (feed : Feed) : Seen where
  published := feed.published
  sequence := feed.hub.sequence
  poisoned := feed.hub.poisoned
  count := feed.hub.subscribers.count
  subscribed := k ∈ feed.hub.subscribers.senders
  channel := feed.channel k

@[simp] theorem seen_poisoned (k : ℕ) (feed : Feed) :
    (seen k feed).poisoned = feed.hub.poisoned := rfl

@[simp] theorem seen_sequence (k : ℕ) (feed : Feed) :
    (seen k feed).sequence = feed.hub.sequence := rfl

@[simp] theorem seen_subscribed (k : ℕ) (feed : Feed) :
    (seen k feed).subscribed = decide (k ∈ feed.hub.subscribers.senders) := rfl

@[simp] theorem seen_channel (k : ℕ) (feed : Feed) :
    (seen k feed).channel = feed.hub.subscribers.channel k := rfl

/-- A call as `k` sees it. -/
def Seen.step (k : ℕ) (seen : Seen) : Call → Seen
  | .subscribe =>
    if seen.poisoned then seen
    else
      { seen with
        count := seen.count + 1
        subscribed := seen.subscribed || k = seen.count
        channel := if k = seen.count then {} else seen.channel }
  | .publish event payload =>
    if seen.poisoned then seen
    else if seen.sequence + 1 < 2 ^ 64 then
      let message : Event := { protocolVersion, sequence := seen.sequence + 1, event, payload }
      let delivered := seen.subscribed && seen.channel.HasRoom eventBufferCapacity
      { seen with
        published := seen.published ++ [message]
        sequence := seen.sequence + 1
        subscribed := delivered
        channel := if delivered then seen.channel.push message else seen.channel }
    else { seen with poisoned := true }
  | .receive j => if j = k then { seen with channel := seen.channel.receive } else seen
  | .dropReceiver j => if j = k then { seen with channel := seen.channel.close } else seen

theorem seen_modify (feed : Feed) (k j : ℕ) (f : Channel Event → Channel Event) :
    seen k { feed with hub.subscribers := feed.hub.subscribers.modify j f } =
      if j = k then { seen k feed with channel := f (feed.channel k) } else seen k feed := by
  by_cases hj : j = k
  · subst hj
    rw [if_pos rfl, seen, seen, channel, channel, Broadcast.channel_modify_self]
    rfl
  · rw [if_neg hj, seen, seen, channel, channel, Broadcast.channel_modify_of_ne _ (Ne.symm hj)]
    rfl

theorem seen_step {feed : Feed} (h : feed.Valid) (k : ℕ) (call : Call) :
    seen k (feed.step call) = (seen k feed).step k call := by
  rcases call with _ | ⟨event, payload⟩ | j | j
  · rw [Feed.step, Seen.step, EventHub.subscribe, seen_poisoned]
    by_cases hpoisoned : feed.hub.poisoned = true
    · rw [if_pos hpoisoned, if_pos hpoisoned]
      rfl
    · rw [if_neg hpoisoned, if_neg hpoisoned, Option.getD_some]
      have hmem := Broadcast.mem_senders_subscribe feed.hub.subscribers k
      by_cases hk : k = feed.hub.subscribers.count
      · simp [seen, channel, hk, Broadcast.mem_senders_subscribe]
      · simp [seen, channel, hk, hmem, Broadcast.channel_subscribe_of_ne _ hk]
  · rw [Feed.step, Seen.step, EventHub.publish, seen_poisoned, seen_sequence]
    by_cases hpoisoned : feed.hub.poisoned = true
    · rw [if_pos hpoisoned, if_pos hpoisoned]
      simp only [Option.toList_none, List.append_nil]
    · rw [if_neg hpoisoned, if_neg hpoisoned]
      by_cases hsequence : feed.hub.sequence + 1 < 2 ^ 64
      · rw [if_pos hsequence, if_pos hsequence]
        obtain ⟨hkept, hchannel⟩ := Broadcast.send_spec eventBufferCapacity h.subscribers
          { protocolVersion, sequence := feed.hub.sequence + 1, event, payload } k
        by_cases hroom : (feed.hub.subscribers.channel k).HasRoom eventBufferCapacity
        · simp [seen, channel, hchannel, hkept, hroom]
        · simp [seen, channel, hchannel, hkept, hroom]
      · rw [if_neg hsequence, if_neg hsequence]
        simp only [seen, channel, Option.toList_none, List.append_nil]
  · exact seen_modify feed k j Channel.receive
  · exact seen_modify feed k j Channel.close

theorem Seen.run_filter (k : ℕ) (v : Seen) (calls : List Call) :
    Concurrency.run (Seen.step k) v (calls.filter (Call.Concerns k)) =
      Concurrency.run (Seen.step k) v calls := by
  induction calls generalizing v with
  | nil => rfl
  | cons call calls ih =>
    by_cases hcall : call.Concerns k = true
    · rw [List.filter_cons_of_pos hcall, run_cons, run_cons, ih]
    · rw [List.filter_cons_of_neg hcall, run_cons, ih]
      congr 1
      rcases call with _ | ⟨event, payload⟩ | j | j
      · exact absurd rfl hcall
      · exact absurd rfl hcall
      · exact (if_neg fun hj ↦ hcall (decide_eq_true hj)).symm
      · exact (if_neg fun hj ↦ hcall (decide_eq_true hj)).symm

theorem seen_run {feed : Feed} (h : feed.Valid) (k : ℕ) (calls : List Call) :
    seen k (Concurrency.run Feed.step feed calls) =
      Concurrency.run (Seen.step k) (seen k feed) calls := by
  induction calls generalizing feed with
  | nil => rfl
  | cons call calls ih => rw [run_cons, run_cons, ih (h.step call), seen_step h]

/-- **Independence.** Two continuations that differ only in what the receivers of other subscribers
do look the same to `k`. -/
theorem seen_run_congr {feed : Feed} (h : feed.Valid) {k : ℕ} {calls others : List Call}
    (hsame : calls.filter (Call.Concerns k) = others.filter (Call.Concerns k)) :
    seen k (Concurrency.run Feed.step feed calls) =
      seen k (Concurrency.run Feed.step feed others) := by
  rw [seen_run h, seen_run h, ← Seen.run_filter k _ calls, hsame, Seen.run_filter]

/-! ## Draining -/

/-- The receiver of `k` takes everything its channel holds. -/
def drain (feed : Feed) (k : ℕ) : Feed :=
  Concurrency.run step feed (List.replicate (feed.channel k).buffer.length (.receive k))

theorem run_receive (feed : Feed) (k n : ℕ) :
    (Concurrency.run step feed (List.replicate n (.receive k))).channel k =
        Channel.receive^[n] (feed.channel k) ∧
      (Concurrency.run step feed (List.replicate n (.receive k))).hub.subscribers.senders =
        feed.hub.subscribers.senders := by
  induction n generalizing feed with
  | zero => exact ⟨rfl, rfl⟩
  | succ n ih =>
    rw [List.replicate_succ, run_cons, Function.iterate_succ_apply]
    obtain ⟨hchannel, hsenders⟩ := ih (feed.step (.receive k))
    refine ⟨hchannel.trans (congrArg Channel.receive^[n] ?_), hsenders⟩
    exact Broadcast.channel_modify_self ..

/-- After draining, the receiver waits for the next event if the hub holds the sender, and finds the
end of the stream otherwise. -/
theorem drain_spec (feed : Feed) (k : ℕ) :
    ((feed.drain k).channel k).received = (feed.channel k).sent ∧
      (feed.drain k).hub.recv k = if feed.hub.Subscribed k then none else some none := by
  obtain ⟨hchannel, hsenders⟩ := feed.run_receive k (feed.channel k).buffer.length
  rw [Channel.receive_iterate] at hchannel
  refine ⟨congrArg Channel.received hchannel, ?_⟩
  have hbuffer : ((feed.drain k).hub.subscribers.channel k).buffer = [] :=
    congrArg Channel.buffer hchannel
  rw [recv, hbuffer, drain, hsenders]
  rfl

/-! ## What a subscriber receives -/

theorem numbered_since {start final : Feed} (hstart : start.Valid) (hfinal : final.Valid)
    (h : start.published <+: final.published) :
    (final.since start).map Event.sequence =
      List.range' (start.published.length + 1) (final.since start).length := by
  obtain ⟨later, hlater⟩ := h
  have hsince : final.since start = later := by rw [since, ← hlater, List.drop_left]
  have hall := hfinal.numbered
  rw [← hlater, List.map_append, hstart.numbered, List.length_append, ← List.range'_append] at hall
  rw [hsince, List.append_cancel_left hall, Nat.one_mul, Nat.add_comm]

theorem step_subscribe {start : Feed} (h : start.hub.poisoned = false) :
    start.step .subscribe =
      { start with hub.subscribers := start.hub.subscribers.subscribe } := by
  rw [step, EventHub.subscribe, if_neg (ne_true_of_eq_false h), Option.getD_some]

theorem channel_subscribe {start : Feed} (h : start.hub.poisoned = false) :
    (start.step .subscribe).channel start.hub.subscribers.count = {} := by
  rw [step_subscribe h]
  exact Broadcast.channel_subscribe_self _

theorem follows_subscribe {start : Feed} (h : start.hub.poisoned = false) :
    (start.step .subscribe).Follows start.hub.subscribers.count start.published [] := by
  refine ⟨?_, ?_, ?_, ?_⟩
  · rw [step_subscribe h]
    exact Nat.lt_succ_self _
  · rw [step_subscribe h]
    exact (List.append_nil _).symm
  · rw [step_subscribe h]
    exact (Broadcast.mem_senders_subscribe ..).mpr (.inr rfl)
  · rw [channel_subscribe h]
    exact .empty

end Feed

open Feed in
/-- **What a subscriber receives.** Take any run in which somebody subscribes while the hub is not
poisoned. Then it receives a prefix of the events published since, which are numbered without a
gap and are what the calls of a hub that is not poisoned publish. As long as the hub holds its
sender, that prefix and what is queued are the whole stream. Once the hub does not, it was given up
at a publishing where it lagged: what it gets until the end of its stream are the events up to
there. Nothing of this depends on what other receivers do. -/
theorem subscriber_receives (before after : List Call)
    (hopen : (run Feed.step {} before).hub.poisoned = false) :
    let start := run Feed.step {} before
    let k := start.hub.subscribers.count
    let final := run Feed.step start (.subscribe :: after)
    (start.published <+: final.published ∧
        (final.since start).map Event.sequence =
          List.range' (start.published.length + 1) (final.since start).length) ∧
      (final.hub.poisoned = false →
        (final.since start).map Event.toEvent = after.filterMap Call.message) ∧
      (final.channel k).received <+: final.since start ∧
      (final.hub.Subscribed k → (final.channel k).closed = false →
        (final.channel k).sent = final.since start) ∧
      (¬ final.hub.Subscribed k → ∃ during event payload rest,
        after = during ++ .publish event payload :: rest ∧
          let last := run Feed.step start (.subscribe :: during)
          last.hub.Subscribed k ∧ last.hub.Lagging k ∧
            (final.channel k).received <+: last.since start ∧
            ((final.channel k).closed = false → (final.channel k).sent = last.since start)) ∧
      (((final.drain k).channel k).received = (final.channel k).sent ∧
        (final.drain k).hub.recv k = if final.hub.Subscribed k then none else some none) ∧
      ∀ others : List Call, others.filter (Call.Concerns k) = after.filter (Call.Concerns k) →
        let other := run Feed.step start (.subscribe :: others)
        other.published = final.published ∧ other.channel k = final.channel k ∧
          (other.hub.Subscribed k ↔ final.hub.Subscribed k) := by
  intro start k final
  have hstart : start.Valid := Valid.initial.run before
  have hfinal : final.Valid := hstart.run _
  have hgrows : start.published <+: final.published := published_run start _
  have hfirst := hstart.step .subscribe
  -- what a subscriber follows is what was published since the start
  have hsince : ∀ {feed : Feed} {log : List Event}, feed.Follows k start.published log →
      feed.since start = log := by
    intro feed log h
    rw [since, h.published, List.drop_left]
  refine ⟨⟨hgrows, numbered_since hstart hfinal hgrows⟩, fun hopen' ↦ ?_, ?_⟩
  · obtain ⟨later, hlater⟩ := hgrows
    have hmessages := messages_run start hopen'
    rw [← hlater, List.map_append, List.append_cancel_left_eq] at hmessages
    rw [since, ← hlater, List.drop_left]
    exact hmessages
  have hindependent : ∀ others : List Call,
      others.filter (Call.Concerns k) = after.filter (Call.Concerns k) →
        let other := run Feed.step start (.subscribe :: others)
        other.published = final.published ∧ other.channel k = final.channel k ∧
          (other.hub.Subscribed k ↔ final.hub.Subscribed k) := by
    intro others hothers other
    have hseen := seen_run_congr hfirst hothers
    refine ⟨congrArg Seen.published hseen, congrArg Seen.channel hseen, ?_⟩
    exact decide_eq_decide.mp (congrArg Seen.subscribed hseen)
  rcases follows_run hfirst (follows_subscribe hopen) after with
    ⟨log, hfollows⟩ | ⟨during, event, payload, rest, hafter, log, hfollows, hlag, hgone⟩
  · have hlog : final.since start = log := hsince hfollows
    refine ⟨?_, fun _ hclosed ↦ ?_, fun hnot ↦ absurd hfollows.subscribed hnot,
      final.drain_spec k, hindependent⟩
    · rw [hlog]
      exact hfollows.carries.received_within
    · rw [hlog]
      exact hfollows.carries.whole hclosed
  · let last := run Feed.step start (.subscribe :: during)
    have hlog : last.since start = log := hsince hfollows
    -- what was published up to the last event delivered is a part of all that was published
    have hpart : log <+: final.since start := by
      have hlast : last.published <+: final.published := by
        have hsplit : final = run Feed.step last (.publish event payload :: rest) := by
          rw [← run_append, List.cons_append, ← hafter]
        rw [hsplit]
        exact published_run last _
      have hdrop := hlast.drop start.published.length
      rwa [← since, ← since, hlog] at hdrop
    refine ⟨hgone.carries.received_within.trans hpart, fun hheld ↦ absurd hheld hgone.unsubscribed,
      fun _ ↦
        ⟨during, event, payload, rest, hafter, hfollows.subscribed, hlag, ?_, fun hclosed ↦ ?_⟩,
      final.drain_spec k, hindependent⟩
    · rw [hlog]
      exact hgone.carries.received_within
    · rw [hlog]
      exact hgone.carries.whole hclosed

/-- A subscriber among others: it gets what comes after it. -/
theorem subscriber_receives_example :
    (run Feed.step {} [.subscribe, .publish "settings_changed" .null]).hub.poisoned = false ∧
      ((run Feed.step {} [.subscribe, .publish "settings_changed" .null, .subscribe,
          .publish "rule_started" .null, .dropReceiver 0, .receive 1]).channel 1).received <+:
        (run Feed.step {} [.subscribe, .publish "settings_changed" .null, .subscribe,
          .publish "rule_started" .null, .dropReceiver 0, .receive 1]).since
          (run Feed.step {} [.subscribe, .publish "settings_changed" .null]) :=
  ⟨rfl, (subscriber_receives [.subscribe, .publish "settings_changed" .null]
    [.publish "rule_started" .null, .dropReceiver 0, .receive 1] rfl).2.2.1⟩

end EventHub

end TunnelDeck.Ipc
