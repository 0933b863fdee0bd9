import TunnelDeck.Text.IpAddr
import TunnelDeck.Text.Chars

/-!
# Taking a text apart

The operations of `str` that cut a text into lines, fields and parts, and the reader behind
`u16::from_str`.
-/

namespace Text

/-! ## Lines -/

def stripReturn (cs : List Char) : List Char :=
  if cs.getLast? = some '\r' then cs.dropLast else cs

/-- The lines of the text that follows the characters `before`, the last one first, of its first
line. Only a line that a newline ends loses its carriage return. -/
def linesFrom (before : List Char) : List Char → List (List Char)
  | [] => if before = [] then [] else [before.reverse]
  | c :: cs =>
    if c = '\n' then stripReturn before.reverse :: linesFrom [] cs else linesFrom (c :: before) cs

/-- `str::lines`. -/
def lines (cs : List Char) : List (List Char) := linesFrom [] cs

theorem length_linesFrom_le (before cs : List Char) :
    (linesFrom before cs).length ≤ before.length + cs.length := by
  induction cs generalizing before with
  | nil =>
    rw [linesFrom]
    split
    · exact Nat.zero_le _
    · rename_i hne
      have hpos := List.length_pos_of_ne_nil hne
      rw [List.length_singleton]
      omega
  | cons c cs ih =>
    rw [linesFrom]
    split
    · have hrest := ih []
      rw [List.length_nil] at hrest
      rw [List.length_cons, List.length_cons]
      omega
    · have hrest := ih (c :: before)
      rw [List.length_cons] at hrest ⊢
      omega

theorem length_lines_le (cs : List Char) : (lines cs).length ≤ cs.length := by
  have h := length_linesFrom_le [] cs
  rw [List.length_nil, Nat.zero_add] at h
  exact h

theorem length_le_size_utf8Encode (cs : List Char) : cs.length ≤ cs.utf8Encode.size := by
  induction cs with
  | nil => exact Nat.zero_le _
  | cons c cs ih =>
    have hc := Char.utf8Size_pos c
    rw [List.utf8Encode_cons, List.utf8Encode_singleton, ByteArray.size_append,
      List.size_toByteArray, String.length_utf8EncodeChar, List.length_cons]
    omega

theorem length_lines_le_size (text : String) :
    (lines text.toList).length ≤ text.toByteArray.size := by
  rw [← String.utf8Encode_toList]
  exact Nat.le_trans (length_lines_le _) (length_le_size_utf8Encode _)

/-! ## Parts -/

/-- `str::split_once`: the parts before and after the first character of a kind. -/
def splitOnce (p : Char → Bool) (cs : List Char) : Option (List Char × List Char) :=
  match cs.dropWhile fun c ↦ !p c with
  | [] => none
  | _ :: rest => some (cs.takeWhile fun c ↦ !p c, rest)

/-- `str::rsplit_once`: the parts before and after the last character of a kind. -/
def rsplitOnce (p : Char → Bool) (cs : List Char) : Option (List Char × List Char) :=
  (splitOnce p cs.reverse).map fun parts ↦ (parts.2.reverse, parts.1.reverse)

/-- `str::split_whitespace`. -/
def splitWhitespace (cs : List Char) : List (List Char) :=
  (cs.splitOnP isWhitespace).filter fun field ↦ field ≠ []

/-! ## Numbers -/

/-- `u16::from_str`: decimal digits, of which a plus may stand in front. -/
def parseU16 (cs : List Char) : Option UInt16 :=
  let digits := if cs.head? = some '+' then cs.tail else cs
  if digits = [] then none
  else
    match digits.mapM (IpAddr.toDigit 10) with
    | none => none
    | some digits =>
      let value := digits.foldl (fun n d ↦ n * 10 + d) 0
      if value < 65536 then some (UInt16.ofNat value) else none

example : lines "a\r\n\nb\r".toList = ["a".toList, [], "b\r".toList] := by decide
example : rsplitOnce (· = ':') "::1:80".toList = some ("::1".toList, "80".toList) := by decide
example : splitWhitespace " 80\t [::1]:9 ".toList = ["80".toList, "[::1]:9".toList] := by decide
example : parseU16 "+080".toList = some 80 := by decide
example : parseU16 "65536".toList = none := by decide

end Text
