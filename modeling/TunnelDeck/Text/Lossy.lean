import Mathlib.Data.List.Basic

/-!
# Reading bytes as text

`String::from_utf8_lossy` reads bytes as UTF-8 and puts one replacement character in the place of
each longest part that cannot begin a character.
-/

namespace Text

def isContinuation (b : UInt8) : Bool := 0x80 ≤ b && b ≤ 0xBF

/-- The bytes that may follow the first byte of a character of three or four bytes. -/
def isSecond (first b : UInt8) : Bool :=
  if first = 0xE0 then 0xA0 ≤ b && b ≤ 0xBF
  else if first = 0xED then 0x80 ≤ b && b ≤ 0x9F
  else if first = 0xF0 then 0x90 ≤ b && b ≤ 0xBF
  else if first = 0xF4 then 0x80 ≤ b && b ≤ 0x8F
  else isContinuation b

/-- The bits that a continuation byte carries. -/
def payload (b : UInt8) : ℕ := b.toNat % 64

def replacement : Char := Char.ofNat 0xFFFD

/-- Takes one character off, or the longest part that cannot begin one. -/
def lossyChar (first : UInt8) (rest : List UInt8) : Char × List UInt8 :=
  if first < 0x80 then (Char.ofNat first.toNat, rest)
  else if 0xC2 ≤ first ∧ first ≤ 0xDF then
    match rest with
    | b :: rest' =>
      if isContinuation b then (Char.ofNat (first.toNat % 32 * 64 + payload b), rest')
      else (replacement, rest)
    | [] => (replacement, rest)
  else if 0xE0 ≤ first ∧ first ≤ 0xEF then
    match rest with
    | b :: rest' =>
      if isSecond first b then
        match rest' with
        | c :: rest'' =>
          if isContinuation c then
            (Char.ofNat ((first.toNat % 16 * 64 + payload b) * 64 + payload c), rest'')
          else (replacement, rest')
        | [] => (replacement, rest')
      else (replacement, rest)
    | [] => (replacement, rest)
  else if 0xF0 ≤ first ∧ first ≤ 0xF4 then
    match rest with
    | b :: rest' =>
      if isSecond first b then
        match rest' with
        | c :: rest'' =>
          if isContinuation c then
            match rest'' with
            | d :: rest''' =>
              if isContinuation d then
                (Char.ofNat (((first.toNat % 8 * 64 + payload b) * 64 + payload c) * 64 +
                  payload d), rest''')
              else (replacement, rest'')
            | [] => (replacement, rest'')
          else (replacement, rest')
        | [] => (replacement, rest')
      else (replacement, rest)
    | [] => (replacement, rest)
  else (replacement, rest)

/-- The loop over the bytes, each turn of which takes at least one of them off. -/
def lossyFrom : ℕ → List UInt8 → List Char
  | _, [] => []
  | 0, _ :: _ => []
  | turns + 1, first :: rest =>
    (lossyChar first rest).1 :: lossyFrom turns (lossyChar first rest).2

/-- `String::from_utf8_lossy`. -/
def fromUtf8Lossy (bytes : List UInt8) : List Char := lossyFrom bytes.length bytes

example : fromUtf8Lossy [0x61, 0xC3, 0xA9, 0xE2, 0x82, 0x62, 0xFF] =
    ['a', 'é', replacement, 'b', replacement] := by decide

end Text
