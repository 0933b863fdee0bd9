import Mathlib.Data.List.Basic

/-!
# Textual IP addresses

The reader behind `std::net::IpAddr::from_str`: a recursive-descent parser over the characters of
the text, each function giving the value read and the rest of the text, and `IpAddr.parse`
accepting a text that is read to its end.

An IPv4 address is four decimal groups of at most three digits without a leading zero. An IPv6
address is up to eight hexadecimal groups of at most four digits, of which one run of zero groups
may be written `::` and the last two may be written as an IPv4 address.
-/

namespace Text

/-- An IPv4 or IPv6 address, as the number its octets spell. -/
inductive IpAddr where
  | v4 (bits : BitVec 32)
  | v6 (bits : BitVec 128)
  deriving DecidableEq

namespace IpAddr

/-! ## Reading numbers -/

/-- `char::to_digit`, for a radix of 10 or 16. -/
def toDigit (radix : ℕ) (c : Char) : Option ℕ :=
  let d :=
    if '0' ≤ c ∧ c ≤ '9' then some (c.toNat - '0'.toNat)
    else if 'a' ≤ c ∧ c ≤ 'f' then some (c.toNat - 'a'.toNat + 10)
    else if 'A' ≤ c ∧ c ≤ 'F' then some (c.toNat - 'A'.toNat + 10)
    else none
  d.filter (· < radix)

/-- The digits at the start of the text and the rest of it. -/
def readDigits (radix : ℕ) : List Char → List ℕ × List Char
  | [] => ([], [])
  | c :: cs =>
    match toDigit radix c with
    | some d => ((d :: (readDigits radix cs).1), (readDigits radix cs).2)
    | none => ([], c :: cs)

/-- A number of one to `maxDigits` digits below `bound`. A leading zero is refused where the
grammar would take it for an octal prefix. -/
def readNumber (radix maxDigits bound : ℕ) (allowZeroPrefix : Bool) (cs : List Char) :
    Option (ℕ × List Char) :=
  let (digits, rest) := readDigits radix cs
  let value := digits.foldl (fun n d ↦ n * radix + d) 0
  if digits.length = 0 ∨ maxDigits < digits.length then none
  else if ¬ allowZeroPrefix ∧ digits.head? = some 0 ∧ 1 < digits.length then none
  else if value < bound then some (value, rest) else none

def readChar (c : Char) : List Char → Option (List Char)
  | [] => none
  | d :: ds => if d = c then some ds else none

/-- The separator that stands before every group but the first. -/
def readSeparator (sep : Char) (index : ℕ) (cs : List Char) : Option (List Char) :=
  if index = 0 then some cs else readChar sep cs

/-! ## Reading addresses -/

def readV4Group (index : ℕ) (cs : List Char) : Option (ℕ × List Char) := do
  readNumber 10 3 256 false (← readSeparator '.' index cs)

/-- `read_ipv4_addr`. -/
def readIpv4 (cs : List Char) : Option (BitVec 32 × List Char) := do
  let (a, cs) ← readV4Group 0 cs
  let (b, cs) ← readV4Group 1 cs
  let (c, cs) ← readV4Group 2 cs
  let (d, cs) ← readV4Group 3 cs
  return (BitVec.ofNat 32 (((a * 256 + b) * 256 + c) * 256 + d), cs)

/-- `read_groups`, from group `index` of `limit` with `fuel` groups left to read: the groups, and
whether the last two came from an embedded IPv4 address. -/
def readGroups (limit : ℕ) : ℕ → ℕ → List Char → List ℕ × Bool × List Char
  | 0, _, cs => ([], false, cs)
  | fuel + 1, index, cs =>
    let embedded := do
      if index + 1 < limit then readIpv4 (← readSeparator ':' index cs) else none
    match embedded with
    | some (bits, rest) => ([(bits >>> 16).toNat, (bits % 65536#32).toNat], true, rest)
    | none =>
      match (do readNumber 16 4 65536 true (← readSeparator ':' index cs)) with
      | some (group, rest) =>
        let (groups, ipv4, rest) := readGroups limit fuel (index + 1) rest
        (group :: groups, ipv4, rest)
      | none => ([], false, cs)

/-- The address that eight groups spell. -/
def ofGroups (groups : List ℕ) : BitVec 128 :=
  BitVec.ofNat 128 (groups.foldl (fun n g ↦ n * 65536 + g) 0)

/-- `read_ipv6_addr`. The zero groups that `::` stands for are at least one. -/
def readIpv6 (cs : List Char) : Option (BitVec 128 × List Char) := do
  let (head, headIpv4, cs) := readGroups 8 8 0 cs
  if head.length = 8 then return (ofGroups head, cs)
  if headIpv4 then none
  let cs ← readChar ':' cs
  let cs ← readChar ':' cs
  let limit := 8 - (head.length + 1)
  let (tail, _, cs) := readGroups limit limit 0 cs
  return (ofGroups (head ++ List.replicate (8 - head.length - tail.length) 0 ++ tail), cs)

/-- `IpAddr::from_str`: the whole text is one address, an IPv4 address being tried first. -/
def parse (text : String) : Option IpAddr :=
  match readIpv4 text.toList with
  | some (bits, []) => some (.v4 bits)
  | some (_, _ :: _) => none
  | none =>
    match readIpv6 text.toList with
    | some (bits, []) => some (.v6 bits)
    | _ => none

/-! ## Classes of addresses -/

/-- `is_unspecified`. -/
def isUnspecified : IpAddr → Bool
  | v4 bits => bits = 0
  | v6 bits => bits = 0

/-- `is_loopback`: `127.0.0.0/8` and `::1`. -/
def isLoopback : IpAddr → Bool
  | v4 bits => bits >>> 24 = 127
  | v6 bits => bits = 1

example : parse "127.0.0.1" = some (.v4 0x7F000001) := by decide
example : parse "127.0.0.01" = none := by decide
example : parse "::ffff:1.2.3.4" = some (.v6 0xFFFF01020304) := by decide
example : parse "1::2::3" = none := by decide

end IpAddr

end Text
