import Mathlib.Data.List.Basic
import Mathlib.Logic.Function.Iterate

/-!
# Broadcasting over bounded channels

A *channel* has one sender, one receiver and a buffer of bounded length; sending never waits and
fails when the buffer is full or the receiver is gone. A *broadcast* is a set of channels together
with the senders that are still held: a message goes to every one of them, and a sender that fails
is given up for good.

## Conservation

What the receiver of a channel took, followed by what the buffer holds, is what was sent into the
channel. `Channel.sent` is that list, and `Broadcast.send_spec` says what one message does to it:
a channel whose sender is held and that has room gets the message, any other channel stays as it is.
The channels are therefore independent, and a sender that was given up never comes back.
-/

namespace Concurrency

/-! ## Channels -/

/-- A channel. `received` is what its receiver took so far, the oldest message first. -/
structure Channel (α : Type*) where
  buffer : List α := []
  received : List α := []
  /-- The receiver is gone. -/
  closed : Bool := false
  deriving DecidableEq

namespace Channel

variable {α : Type*} (capacity : ℕ)

/-- Sending into the channel succeeds. -/
def HasRoom (c : Channel α) : Prop := c.closed = false ∧ c.buffer.length < capacity

instance (c : Channel α) : Decidable (c.HasRoom capacity) := inferInstanceAs (Decidable (_ ∧ _))

/-- The channel after a message was put into its buffer. -/
def push (c : Channel α) (a : α) : Channel α := { c with buffer := c.buffer ++ [a] }

/-- Sends without waiting. -/
def trySend (c : Channel α) (a : α) : Option (Channel α) :=
  if c.HasRoom capacity then some (c.push a) else none

/-- The receiver takes the oldest message, if there is one. -/
def receive (c : Channel α) : Channel α :=
  match c.buffer with
  | [] => c
  | a :: rest => { c with buffer := rest, received := c.received ++ [a] }

/-- The receiver goes away, and the messages it did not take are lost. -/
def close (c : Channel α) : Channel α := { c with buffer := [], closed := true }

def sent (c : Channel α) : List α := c.received ++ c.buffer

@[simp] theorem sent_push (c : Channel α) (a : α) : (c.push a).sent = c.sent ++ [a] := by
  rw [sent, sent, push, List.append_assoc]

@[simp] theorem closed_push (c : Channel α) (a : α) : (c.push a).closed = c.closed := rfl

@[simp] theorem sent_receive (c : Channel α) : c.receive.sent = c.sent := by
  rw [receive]
  split
  · rfl
  · rename_i a rest hbuffer
    rw [sent, sent, hbuffer, List.append_assoc, List.singleton_append]

@[simp] theorem closed_receive (c : Channel α) : c.receive.closed = c.closed := by
  rw [receive]
  split <;> rfl

@[simp] theorem closed_close (c : Channel α) : c.close.closed = true := rfl

theorem received_prefix_sent (c : Channel α) : c.received <+: c.sent := List.prefix_append ..

/-- A receiver that goes away keeps what it took. -/
theorem sent_close_within (c : Channel α) : c.close.sent <+: c.sent := by
  rw [sent, close, List.append_nil]
  exact c.received_prefix_sent

theorem buffer_receive (c : Channel α) : c.receive.buffer = c.buffer.tail := by
  rw [receive]
  split
  · rename_i hbuffer
    rw [hbuffer, List.tail_nil]
  · rename_i a rest hbuffer
    rw [hbuffer, List.tail_cons]

theorem length_buffer_receive_le (c : Channel α) : c.receive.buffer.length ≤ c.buffer.length := by
  rw [buffer_receive, List.length_tail]
  exact Nat.sub_le ..

theorem length_buffer_close_le (c : Channel α) : c.close.buffer.length ≤ c.buffer.length :=
  Nat.zero_le _

theorem receive_iterate (c : Channel α) :
    Channel.receive^[c.buffer.length] c = { c with buffer := [], received := c.sent } := by
  obtain ⟨buffer, received, closed⟩ := c
  induction buffer generalizing received with
  | nil => rw [sent, List.append_nil]; rfl
  | cons a rest ih =>
    rw [List.length_cons, Function.iterate_succ_apply, receive, ih]
    simp only [sent, List.append_assoc, List.singleton_append]

/-! ### Carrying a log -/

/-- The channel carries the messages of `log`: all of them, unless the receiver is gone. -/
structure Carries (c : Channel α) (log : List α) : Prop where
  within : c.sent <+: log
  whole : c.closed = false → c.sent = log

theorem Carries.empty : ({} : Channel α).Carries [] := ⟨List.prefix_rfl, fun _ ↦ rfl⟩

theorem Carries.push {c : Channel α} {log : List α} (h : c.Carries log) {capacity : ℕ}
    (hroom : c.HasRoom capacity) (a : α) : (c.push a).Carries (log ++ [a]) := by
  have hsent : (c.push a).sent = log ++ [a] := by rw [sent_push, h.whole hroom.1]
  exact ⟨hsent ▸ List.prefix_rfl, fun _ ↦ hsent⟩

theorem Carries.receive {c : Channel α} {log : List α} (h : c.Carries log) :
    c.receive.Carries log := by
  constructor
  · rw [sent_receive]
    exact h.within
  · rw [closed_receive, sent_receive]
    exact h.whole

theorem Carries.close {c : Channel α} {log : List α} (h : c.Carries log) :
    c.close.Carries log :=
  ⟨c.sent_close_within.trans h.within, nofun⟩

theorem Carries.received_within {c : Channel α} {log : List α} (h : c.Carries log) :
    c.received <+: log := c.received_prefix_sent.trans h.within

end Channel

/-! ## Broadcasts -/

/-- The channels made so far, numbered in order, and the senders that are held. -/
structure Broadcast (α : Type*) where
  count : ℕ := 0
  channel : ℕ → Channel α := fun _ ↦ {}
  senders : List ℕ := []

namespace Broadcast

variable {α : Type*} (capacity : ℕ)

/-- The senders are distinct and belong to channels that were made, and no buffer is overfull. -/
structure Valid (b : Broadcast α) : Prop where
  nodup : b.senders.Nodup
  lt_count : ∀ k ∈ b.senders, k < b.count
  bounded : ∀ k, (b.channel k).buffer.length ≤ capacity

/-- Makes a channel and holds its sender. The new channel is the one numbered `b.count`. -/
def subscribe (b : Broadcast α) : Broadcast α where
  count := b.count + 1
  channel := Function.update b.channel b.count {}
  senders := b.senders ++ [b.count]

/-- Sends to each of the senders `ks`, keeping those that succeed. -/
def retain (a : α) : List ℕ → (ℕ → Channel α) → List ℕ × (ℕ → Channel α)
  | [], channel => ([], channel)
  | k :: ks, channel =>
    match (channel k).trySend capacity a with
    | none => retain a ks channel
    | some c => (k :: (retain a ks (Function.update channel k c)).1,
        (retain a ks (Function.update channel k c)).2)

/-- Sends a message to every sender. -/
def send (b : Broadcast α) (a : α) : Broadcast α :=
  { b with
    senders := (retain capacity a b.senders b.channel).1
    channel := (retain capacity a b.senders b.channel).2 }

def modify (b : Broadcast α) (k : ℕ) (f : Channel α → Channel α) : Broadcast α :=
  { b with channel := Function.update b.channel k (f (b.channel k)) }

/-! ### What an operation does -/

/-- One pass over distinct senders reads each channel as it was before the pass. -/
theorem retain_spec (a : α) {ks : List ℕ} (hks : ks.Nodup) (channel : ℕ → Channel α) :
    (retain capacity a ks channel).1 = ks.filter (fun k ↦ (channel k).HasRoom capacity) ∧
      ∀ j, (retain capacity a ks channel).2 j =
        if j ∈ ks ∧ (channel j).HasRoom capacity then (channel j).push a else channel j := by
  induction ks generalizing channel with
  | nil => simp [retain]
  | cons k ks ih =>
    obtain ⟨hk, hks⟩ := List.nodup_cons.mp hks
    rw [retain, Channel.trySend]
    by_cases hroom : (channel k).HasRoom capacity
    · rw [if_pos hroom]
      obtain ⟨hkept, hchannel⟩ := ih hks (Function.update channel k ((channel k).push a))
      -- the rest of the pass does not come to `k` again
      have hother : ∀ j, j ≠ k → Function.update channel k ((channel k).push a) j = channel j :=
        fun j hj ↦ Function.update_of_ne hj ..
      refine ⟨?_, fun j ↦ ?_⟩
      · rw [List.filter_cons_of_pos (by simpa using hroom)]
        refine congrArg (k :: ·) (hkept.trans (List.filter_congr fun j hj ↦ ?_))
        rw [hother j fun hjk ↦ hk (hjk ▸ hj)]
      · rw [hchannel]
        by_cases hj : j = k
        · subst hj
          rw [if_neg fun h ↦ hk h.1, if_pos ⟨List.mem_cons_self, hroom⟩, Function.update_self]
        · rw [hother j hj]
          simp only [List.mem_cons, hj, false_or]
    · rw [if_neg hroom]
      obtain ⟨hkept, hchannel⟩ := ih hks channel
      refine ⟨?_, fun j ↦ ?_⟩
      · rw [List.filter_cons_of_neg (by simpa using hroom)]
        exact hkept
      · rw [hchannel]
        by_cases hj : j = k
        · subst hj
          rw [if_neg fun h ↦ hroom h.2, if_neg fun h ↦ hroom h.2]
        · simp only [List.mem_cons, hj, false_or]

/-- **What a message does.** A channel whose sender is held gets it if it has room, and is given up
if it has none. -/
theorem send_spec {b : Broadcast α} (h : b.Valid capacity) (a : α) (k : ℕ) :
    (k ∈ (b.send capacity a).senders ↔ k ∈ b.senders ∧ (b.channel k).HasRoom capacity) ∧
      (b.send capacity a).channel k =
        if k ∈ b.senders ∧ (b.channel k).HasRoom capacity then (b.channel k).push a
        else b.channel k := by
  obtain ⟨hkept, hchannel⟩ := retain_spec capacity a h.nodup b.channel
  refine ⟨?_, hchannel k⟩
  rw [send, hkept, List.mem_filter]
  simp only [decide_eq_true_eq]

@[simp] theorem count_send (b : Broadcast α) (a : α) : (b.send capacity a).count = b.count := rfl

@[simp] theorem count_subscribe (b : Broadcast α) : b.subscribe.count = b.count + 1 := rfl

@[simp] theorem count_modify (b : Broadcast α) (k : ℕ) (f : Channel α → Channel α) :
    (b.modify k f).count = b.count := rfl

@[simp] theorem senders_modify (b : Broadcast α) (k : ℕ) (f : Channel α → Channel α) :
    (b.modify k f).senders = b.senders := rfl

@[simp] theorem channel_modify_self (b : Broadcast α) (k : ℕ) (f : Channel α → Channel α) :
    (b.modify k f).channel k = f (b.channel k) := Function.update_self ..

theorem channel_modify_of_ne (b : Broadcast α) {j k : ℕ} (h : j ≠ k)
    (f : Channel α → Channel α) : (b.modify k f).channel j = b.channel j :=
  Function.update_of_ne h ..

@[simp] theorem channel_subscribe_self (b : Broadcast α) : b.subscribe.channel b.count = {} :=
  Function.update_self ..

theorem channel_subscribe_of_ne (b : Broadcast α) {k : ℕ} (h : k ≠ b.count) :
    b.subscribe.channel k = b.channel k := Function.update_of_ne h ..

theorem mem_senders_subscribe (b : Broadcast α) (k : ℕ) :
    k ∈ b.subscribe.senders ↔ k ∈ b.senders ∨ k = b.count := by
  rw [subscribe, List.mem_append, List.mem_singleton]

/-! ### Validity -/

variable {capacity}

theorem Valid.empty : ({} : Broadcast α).Valid capacity :=
  ⟨List.nodup_nil, fun _ hk ↦ absurd hk List.not_mem_nil, fun _ ↦ Nat.zero_le _⟩

theorem Valid.subscribe {b : Broadcast α} (h : b.Valid capacity) : b.subscribe.Valid capacity := by
  refine ⟨?_, fun k hk ↦ ?_, fun k ↦ ?_⟩
  · refine List.nodup_append.mpr ⟨h.nodup, List.pairwise_singleton _ _, fun k hk j hj hkj ↦ ?_⟩
    rw [List.mem_singleton] at hj
    exact Nat.ne_of_lt (h.lt_count k hk) (hkj.trans hj)
  · rcases (b.mem_senders_subscribe k).mp hk with hold | rfl
    · exact Nat.lt_succ_of_lt (h.lt_count k hold)
    · exact Nat.lt_succ_self _
  · by_cases hk : k = b.count
    · rw [hk, channel_subscribe_self]
      exact Nat.zero_le _
    · rw [b.channel_subscribe_of_ne hk]
      exact h.bounded k

theorem Valid.send {b : Broadcast α} (h : b.Valid capacity) (a : α) :
    (b.send capacity a).Valid capacity := by
  refine ⟨?_, fun k hk ↦ h.lt_count k ((send_spec capacity h a k).1.mp hk).1, fun k ↦ ?_⟩
  · rw [Broadcast.send, (retain_spec capacity a h.nodup b.channel).1]
    exact h.nodup.filter _
  · rw [(send_spec capacity h a k).2]
    split
    · rename_i hk
      rw [Channel.push, List.length_append, List.length_singleton]
      exact hk.2.2
    · exact h.bounded k

theorem Valid.modify {b : Broadcast α} (h : b.Valid capacity) (k : ℕ) {f : Channel α → Channel α}
    (hf : ∀ c, (f c).buffer.length ≤ c.buffer.length) : (b.modify k f).Valid capacity := by
  refine ⟨h.nodup, h.lt_count, fun j ↦ ?_⟩
  by_cases hj : j = k
  · rw [hj, channel_modify_self]
    exact Nat.le_trans (hf _) (h.bounded k)
  · rw [b.channel_modify_of_ne hj]
    exact h.bounded j

end Broadcast

end Concurrency
