import TunnelDeck.Text.Chars

/-!
# Texts in Python

The operations of `str` and the classes of `re` that the review driver uses. Python counts four
control characters as white space that Rust does not, and ends a line at more characters.
-/

namespace Text.Python

/-- `str.isspace` for one character, and `\s`. -/
def isSpace (c : Char) : Bool := isWhitespace c || (0x1C ≤ c.toNat && c.toNat ≤ 0x1F)

/-- `str.strip`. -/
def strip (cs : List Char) : List Char :=
  ((cs.dropWhile isSpace).reverse.dropWhile isSpace).reverse

def isLineBreak (c : Char) : Bool :=
  let n := c.toNat
  (0x0A ≤ n && n ≤ 0x0D) || (0x1C ≤ n && n ≤ 0x1E) || n == 0x85 || n == 0x2028 || n == 0x2029

/-- The lines of the text behind the characters `before`, the last one first, of its first line. -/
def splitlinesFrom (before : List Char) : List Char → List (List Char)
  | [] => if before = [] then [] else [before.reverse]
  | '\r' :: '\n' :: cs => before.reverse :: splitlinesFrom [] cs
  | c :: cs =>
    if isLineBreak c then before.reverse :: splitlinesFrom [] cs
    else splitlinesFrom (c :: before) cs

/-- `str.splitlines`. -/
def splitlines (cs : List Char) : List (List Char) := splitlinesFrom [] cs

example : splitlines "a\r\n\nb\x0cc".toList = ["a".toList, [], "b".toList, "c".toList] := by decide

end Text.Python
