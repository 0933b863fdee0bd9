import TunnelDeck.Text.Lossy

/-!
# Paths

The operations of `std::path` on a Unix path, which is a list of bytes. A path is taken apart at its
slashes; empty components, and `.` behind the first component, do not count.
-/

namespace Text

/-- An `OsStr`, a `Path` or a `PathBuf`. -/
abbrev UnixPath := List UInt8

namespace UnixPath

def slash : UInt8 := 0x2F

/-- The component `.`. -/
def dot : List UInt8 := [0x2E]

/-- `Path::is_absolute`. -/
def isAbsolute (path : UnixPath) : Bool := path.head? = some slash

/-- `Path::join`: an absolute path takes the place of the one it is joined to. -/
def join (path other : UnixPath) : UnixPath :=
  if isAbsolute other then other
  else if path = [] ∨ path.getLast? = some slash then path ++ other
  else path ++ slash :: other

/-- The parts between slashes, without those at the end that do not count. -/
def trimmed (parts : List (List UInt8)) : List (List UInt8) :=
  match parts with
  | [] => []
  | first :: rest =>
    first :: (rest.reverse.dropWhile fun part ↦ part = [] ∨ part = dot).reverse

/-- `Path::parent`: the path without its last component, if it has one. -/
def parent (path : UnixPath) : Option UnixPath :=
  let parts := trimmed (path.splitOn slash)
  if parts = [[]] then none
  else
    let rest := trimmed parts.dropLast
    if rest = [[]] then some [slash] else some ([slash].intercalate rest)

/-- `Path::to_string_lossy`. -/
def toStringLossy (path : UnixPath) : List Char := fromUtf8Lossy path

/-- The path that a text is. -/
def ofText (text : List Char) : UnixPath := text.flatMap String.utf8EncodeChar

example : parent (ofText "/home/user/.ssh/".toList) = some (ofText "/home/user".toList) := by decide
example : parent (ofText "/.".toList) = none := by decide
example : join (ofText "/home".toList) (ofText "conf.d".toList) =
    ofText "/home/conf.d".toList := by decide

end UnixPath

end Text
