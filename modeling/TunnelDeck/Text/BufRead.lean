import Mathlib.Data.List.Basic

/-!
# Buffered reading up to a delimiter

A buffered reader hands out a stream piece by piece: what is in its buffer, then what each further
read of the source gives. `readUntil` reads up to and including a delimiter, or up to a limit, as
`Take::read_until` does.

How the stream is cut into reads does not matter: `readUntil_spec` says that the items taken are
those that `upTo` takes from the whole stream, and that the reader stays at the rest.
-/

namespace Text

variable {α ε : Type*}

/-- What one read of the source gives: at least one item, or an error. -/
abbrev ReadResult (α ε : Type*) := Except ε { piece : List α // piece ≠ [] }

/-- A buffered reader: the items it has read and not given away yet, and the results of the reads
to come. After these the stream is at its end. -/
structure BufReader (α ε : Type*) where
  buffer : List α := []
  reads : List (ReadResult α ε) := []

section UpTo

variable [DecidableEq α] (delimiter : α)

/-- The first items, at most `limit` of them, up to and including the first delimiter, and the
rest. -/
def upTo : ℕ → List α → List α × List α
  | 0, items => ([], items)
  | _ + 1, [] => ([], [])
  | limit + 1, item :: items =>
    if item = delimiter then ([item], items)
    else (item :: (upTo limit items).1, (upTo limit items).2)

@[simp] theorem upTo_zero (items : List α) : upTo delimiter 0 items = ([], items) := by
  rw [upTo]

@[simp] theorem upTo_nil (limit : ℕ) : upTo delimiter limit ([] : List α) = ([], []) := by
  rcases limit with _ | limit <;> rfl

theorem upTo_cons_self (limit : ℕ) (items : List α) :
    upTo delimiter (limit + 1) (delimiter :: items) = ([delimiter], items) := if_pos rfl

theorem upTo_cons_of_ne {item : α} (h : item ≠ delimiter) (limit : ℕ) (items : List α) :
    upTo delimiter (limit + 1) (item :: items) =
      (item :: (upTo delimiter limit items).1, (upTo delimiter limit items).2) := if_neg h

theorem length_upTo_le (limit : ℕ) (items : List α) :
    (upTo delimiter limit items).1.length ≤ limit := by
  induction limit generalizing items with
  | zero => exact Nat.le_refl _
  | succ limit ih =>
    rcases items with _ | ⟨item, items⟩
    · exact Nat.zero_le _
    · by_cases h : item = delimiter
      · rw [h, upTo_cons_self, List.length_singleton]
        omega
      · rw [upTo_cons_of_ne delimiter h, List.length_cons]
        exact Nat.succ_le_succ (ih items)

theorem mem_of_mem_upTo {limit : ℕ} {items : List α} {a : α}
    (h : a ∈ (upTo delimiter limit items).1) : a ∈ items := by
  induction limit generalizing items with
  | zero => simp at h
  | succ limit ih =>
    cases items with
    | nil => simp at h
    | cons item items =>
      by_cases hitem : item = delimiter
      · rw [hitem, upTo_cons_self, List.mem_singleton] at h
        rw [h, hitem]
        exact List.mem_cons_self
      · rw [upTo_cons_of_ne delimiter hitem] at h
        rcases List.mem_cons.mp h with rfl | h
        · exact List.mem_cons_self
        · exact List.mem_cons_of_mem _ (ih h)

/-- A stretch without the delimiter, followed by it within the limit, is taken with it. -/
theorem upTo_line {line : List α} (hline : delimiter ∉ line) (rest : List α) {limit : ℕ}
    (h : line.length < limit) :
    upTo delimiter limit (line ++ delimiter :: rest) = (line ++ [delimiter], rest) := by
  induction line generalizing limit with
  | nil =>
    obtain ⟨limit, rfl⟩ := Nat.exists_eq_succ_of_ne_zero (Nat.ne_of_gt h)
    exact upTo_cons_self ..
  | cons item line ih =>
    obtain ⟨hitem, hline⟩ := not_or.mp (mt List.mem_cons.mpr hline)
    obtain ⟨limit, rfl⟩ := Nat.exists_eq_succ_of_ne_zero (Nat.ne_of_gt (Nat.zero_lt_of_lt h))
    rw [List.cons_append, upTo_cons_of_ne delimiter (Ne.symm hitem),
      ih hline (Nat.lt_of_succ_lt_succ h)]
    rfl

/-- If the delimiter is not among the items before the last that the limit allows, all that the
limit allows is taken. -/
theorem upTo_of_notMem_take {items : List α} {limit : ℕ} (h : delimiter ∉ items.take limit) :
    upTo delimiter (limit + 1) items = (items.take (limit + 1), items.drop (limit + 1)) := by
  induction limit generalizing items with
  | zero =>
    rcases items with _ | ⟨item, items⟩
    · rfl
    · rw [upTo, upTo_zero, ite_self]
      rfl
  | succ limit ih =>
    rcases items with _ | ⟨item, items⟩
    · rfl
    · rw [List.take_succ_cons] at h
      obtain ⟨hitem, hitems⟩ := not_or.mp (mt List.mem_cons.mpr h)
      rw [upTo_cons_of_ne delimiter (Ne.symm hitem), ih hitems]
      rfl

/-- A line that is taken from the beginning of a stream is the first line of the stream. -/
theorem upTo_prefix_line {line rest items : List α} (hline : delimiter ∉ line) {limit : ℕ}
    (h : items <+: line ++ delimiter :: rest)
    (hitems : delimiter ∈ (upTo delimiter limit items).1) :
    (upTo delimiter limit items).1 = line ++ [delimiter] ∧
      (upTo delimiter limit items).2 <+: rest := by
  induction line generalizing limit items with
  | nil =>
    cases limit with
    | zero => simp at hitems
    | succ limit =>
      cases items with
      | nil => simp at hitems
      | cons item items =>
        obtain ⟨rfl, hrest⟩ := List.cons_prefix_cons.mp h
        rw [upTo_cons_self]
        exact ⟨rfl, hrest⟩
  | cons first line ih =>
    obtain ⟨hfirst, htail⟩ := not_or.mp (mt List.mem_cons.mpr hline)
    cases limit with
    | zero => simp at hitems
    | succ limit =>
      cases items with
      | nil => simp at hitems
      | cons item items =>
        obtain ⟨rfl, hrest⟩ := List.cons_prefix_cons.mp h
        rw [upTo_cons_of_ne delimiter (Ne.symm hfirst)] at hitems ⊢
        obtain ⟨htaken, hleft⟩ :=
          ih htail hrest ((List.mem_cons.mp hitems).resolve_left hfirst)
        exact ⟨congrArg (item :: ·) htaken, hleft⟩

/-- Taking from a stream piece by piece: either the first piece has all that is taken, or all of it
is taken without the delimiter and the rest comes from what follows. -/
theorem upTo_pieces (limit : ℕ) (piece rest : List α) :
    (delimiter ∈ (upTo delimiter limit piece).1 ∨ piece.length ≥ limit) ∧
        upTo delimiter limit (piece ++ rest) =
          ((upTo delimiter limit piece).1, (upTo delimiter limit piece).2 ++ rest) ∨
      (delimiter ∉ (upTo delimiter limit piece).1 ∧ piece.length < limit) ∧
        upTo delimiter limit piece = (piece, []) ∧
        upTo delimiter limit (piece ++ rest) =
          (piece ++ (upTo delimiter (limit - piece.length) rest).1,
            (upTo delimiter (limit - piece.length) rest).2) := by
  induction limit generalizing piece with
  | zero => exact .inl ⟨.inr (Nat.zero_le _), rfl⟩
  | succ limit ih =>
    rcases piece with _ | ⟨item, piece⟩
    · right
      exact ⟨⟨List.not_mem_nil, Nat.succ_pos _⟩, rfl, rfl⟩
    · by_cases h : item = delimiter
      · left
        rw [h, List.cons_append, upTo_cons_self, upTo_cons_self]
        exact ⟨.inl List.mem_cons_self, rfl⟩
      · rw [List.cons_append, upTo_cons_of_ne delimiter h, upTo_cons_of_ne delimiter h,
          List.mem_cons, List.length_cons, Nat.succ_sub_succ]
        rcases ih piece with ⟨hdone, hall⟩ | ⟨⟨hnone, hshort⟩, hpiece, hall⟩
        · left
          rw [hall]
          exact ⟨hdone.imp .inr Nat.succ_le_succ, rfl⟩
        · right
          rw [hall, hpiece]
          rw [hpiece] at hnone
          exact ⟨⟨not_or.mpr ⟨Ne.symm h, hnone⟩, Nat.succ_lt_succ hshort⟩, rfl, rfl⟩

end UpTo

namespace BufReader

variable [DecidableEq α] (delimiter : α)

/-- All that is still to come, unless a read fails. -/
def pending : List (ReadResult α ε) → List α
  | [] => []
  | .ok piece :: reads => piece.1 ++ pending reads
  | .error _ :: _ => []

/-- The stream that a reader still has before it. -/
def stream (reader : BufReader α ε) : List α := reader.buffer ++ pending reader.reads

def Reliable (reader : BufReader α ε) : Prop := ∀ r ∈ reader.reads, ∃ piece, r = .ok piece

omit [DecidableEq α] in
theorem stream_buffer (items : List α) : (⟨items, []⟩ : BufReader α ε).stream = items :=
  List.append_nil items

omit [DecidableEq α] in
theorem reliable_buffer (items : List α) : (⟨items, []⟩ : BufReader α ε).Reliable :=
  fun _ hr ↦ absurd hr List.not_mem_nil

/-- The loop of `read_until` under `take(limit)`, from a buffer: the items gathered, the error that
ended it, and the reader afterwards. -/
def readUntilFrom (limit : ℕ) (buffer : List α) :
    List (ReadResult α ε) → List α × Option ε × BufReader α ε
  | [] =>
    ((upTo delimiter limit buffer).1, none, ⟨(upTo delimiter limit buffer).2, []⟩)
  | read :: later =>
    if delimiter ∈ (upTo delimiter limit buffer).1 ∨ limit ≤ buffer.length then
      ((upTo delimiter limit buffer).1, none, ⟨(upTo delimiter limit buffer).2, read :: later⟩)
    else
      -- the buffer is used up, so the source is read again
      match read with
      | .error e => (buffer, some e, ⟨[], later⟩)
      | .ok piece =>
        let (items, error, reader) := readUntilFrom (limit - buffer.length) piece.1 later
        (buffer ++ items, error, reader)

/-- `read_until` under `take(limit)`. -/
def readUntil (limit : ℕ) (reader : BufReader α ε) : List α × Option ε × BufReader α ε :=
  readUntilFrom delimiter limit reader.buffer reader.reads

/-- **Reading does not depend on the pieces.** If no read fails, the items gathered are the ones
that `upTo` takes from the whole stream, and the reader stays at the rest. -/
theorem readUntil_spec (limit : ℕ) {reader : BufReader α ε} (h : reader.Reliable) :
    ∃ next : BufReader α ε,
      readUntil delimiter limit reader = ((upTo delimiter limit reader.stream).1, none, next) ∧
        next.stream = (upTo delimiter limit reader.stream).2 ∧ next.Reliable := by
  obtain ⟨buffer, reads⟩ := reader
  simp only [readUntil, stream]
  induction reads generalizing buffer limit with
  | nil =>
    rw [readUntilFrom, pending, List.append_nil]
    exact ⟨_, rfl, List.append_nil _, h⟩
  | cons read later ih =>
    obtain ⟨piece, rfl⟩ := h read List.mem_cons_self
    rw [readUntilFrom]
    rcases upTo_pieces delimiter limit buffer (pending (.ok piece :: later)) with
      ⟨hdone, hall⟩ | ⟨⟨hnone, hshort⟩, hpiece, hall⟩
    · rw [if_pos hdone, hall]
      exact ⟨_, rfl, rfl, h⟩
    · rw [if_neg (not_or.mpr ⟨hnone, Nat.not_le_of_lt hshort⟩), hall]
      obtain ⟨next, hnext, hstream, hreliable⟩ := ih (limit - buffer.length) piece.1
        fun r hr ↦ h r (List.mem_cons_of_mem _ hr)
      refine ⟨next, ?_, hstream, hreliable⟩
      simp only [hnext]
      rfl

/-- Where no error comes up, the items are those of the stream up to the first read that fails. -/
theorem readUntil_of_none (limit : ℕ) {reader next : BufReader α ε} {items : List α}
    (h : readUntil delimiter limit reader = (items, none, next)) :
    (items, next.stream) = upTo delimiter limit reader.stream := by
  obtain ⟨buffer, reads⟩ := reader
  simp only [readUntil, stream] at h ⊢
  induction reads generalizing buffer limit items with
  | nil =>
    simp only [readUntilFrom, Prod.mk.injEq] at h
    obtain ⟨rfl, -, rfl⟩ := h
    simp [pending]
  | cons read later ih =>
    rw [readUntilFrom.eq_def] at h
    simp only at h
    rcases upTo_pieces delimiter limit buffer (pending (read :: later)) with
      ⟨hdone, hall⟩ | ⟨⟨hnone, hshort⟩, hpiece, hall⟩
    · rw [if_pos hdone] at h
      simp only [Prod.mk.injEq] at h
      obtain ⟨rfl, -, rfl⟩ := h
      exact hall.symm
    · rw [if_neg (not_or.mpr ⟨hnone, Nat.not_le_of_lt hshort⟩)] at h
      cases read with
      | error e => cases (Prod.mk.inj (Prod.mk.inj h).2).1
      | ok piece =>
        rcases hread : readUntilFrom delimiter (limit - buffer.length) piece.1 later with
          ⟨more, error, last⟩
        simp only [hread, Prod.mk.injEq] at h
        obtain ⟨rfl, rfl, rfl⟩ := h
        have hrest := ih (limit - buffer.length) piece.1 hread
        rw [hall, pending, ← hrest]

theorem length_readUntil_le (limit : ℕ) (reader : BufReader α ε) :
    (readUntil delimiter limit reader).1.length ≤ limit := by
  obtain ⟨buffer, reads⟩ := reader
  simp only [readUntil]
  induction reads generalizing buffer limit with
  | nil => exact length_upTo_le ..
  | cons read later ih =>
    by_cases hdone : delimiter ∈ (upTo delimiter limit buffer).1 ∨ limit ≤ buffer.length
    · rw [readUntilFrom.eq_def]
      simp only [if_pos hdone]
      exact length_upTo_le ..
    · have hshort : buffer.length < limit := Nat.lt_of_not_le fun hle ↦ hdone (.inr hle)
      rcases read with e | piece
      · rw [readUntilFrom, if_neg hdone]
        exact Nat.le_of_lt hshort
      · rw [readUntilFrom, if_neg hdone]
        have hlength := ih (limit - buffer.length) piece.1
        simp only [List.length_append]
        omega

end BufReader

end Text
