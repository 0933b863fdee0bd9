import TunnelDeck.Text.Chars

/-!
# Validation errors

The fields a rule is validated on, the ways validation fails, and the two texts of a failure: its
`Display`, which names the field, and its `Debug`, which the error of a whole rule set prints.
-/

namespace TunnelDeck

inductive Field where
  | ruleName
  | sshHostAlias
  | bindPort
  | destinationHost
  | destinationPort
  deriving DecidableEq

/-- The `Debug` of a field, which its `Display` texts use too. -/
def Field.debug : Field → String
  | .ruleName => "RuleName"
  | .sshHostAlias => "SshHostAlias"
  | .bindPort => "BindPort"
  | .destinationHost => "DestinationHost"
  | .destinationPort => "DestinationPort"

/-- Why a value, a rule or a rule set is invalid. -/
inductive ValidationError where
  | empty (field : Field)
  | surroundingWhitespace (field : Field)
  | whitespace (field : Field)
  | controlCharacter (field : Field)
  | tooLong (field : Field) (maxCharacters : ℕ)
  | looksLikeOption (field : Field)
  | portZero (field : Field)
  | invalidBindAddress (value : String)
  | invalidDestinationHost (value : String)
  | duplicateName (name : String)
  | duplicateLocalListener (address : String) (port : UInt16)
  deriving DecidableEq

namespace ValidationError

/-- The `Display` of a validation error. -/
def toString : ValidationError → String
  | .empty field => field.debug ++ " must not be empty"
  | .surroundingWhitespace field =>
    field.debug ++ " must not have leading or trailing whitespace"
  | .whitespace field => field.debug ++ " must not contain whitespace"
  | .controlCharacter field => field.debug ++ " must not contain control characters"
  | .tooLong field maxCharacters =>
    field.debug ++ " must be at most " ++ ToString.toString maxCharacters ++ " characters"
  | .looksLikeOption field => field.debug ++ " must not look like a command-line option"
  | .portZero field => "port for " ++ field.debug ++ " must be in the range 1..=65535"
  | .invalidBindAddress value => "invalid bind address: " ++ value
  | .invalidDestinationHost value => "invalid forwarding destination host: " ++ value
  | .duplicateName name => "duplicate rule name: " ++ name
  | .duplicateLocalListener address port =>
    "duplicate local listener: " ++ address ++ ":" ++ ToString.toString port.toNat

section Debug

/- The characters that `Debug` prints as they are, but for those with an escape of their own. The
standard library takes them from the tables of Unicode. -/
variable (printable : Char → Bool)

/-- A character in the `Debug` of a text. -/
def escapeDebug (c : Char) : List Char :=
  if c = '\x00' then ['\\', '0']
  else if c = '\t' then ['\\', 't']
  else if c = '\r' then ['\\', 'r']
  else if c = '\n' then ['\\', 'n']
  else if c = '\\' ∨ c = '"' then ['\\', c]
  else if printable c then [c]
  else "\\u\x7b".toList ++ Nat.toDigits 16 c.toNat ++ "\x7d".toList

/-- The `Debug` of a text. -/
def debugText (s : String) : String :=
  "\"" ++ String.ofList (s.toList.flatMap (escapeDebug printable)) ++ "\""

/-- A struct variant, as `Debug` prints it. -/
def debugVariant (name : String) (fields : List (String × String)) : String :=
  name ++ " \x7b " ++ ", ".intercalate (fields.map fun f ↦ f.1 ++ ": " ++ f.2) ++ " \x7d"

/-- The `Debug` of a validation error. -/
def debug : ValidationError → String
  | .empty field => debugVariant "Empty" [("field", field.debug)]
  | .surroundingWhitespace field => debugVariant "SurroundingWhitespace" [("field", field.debug)]
  | .whitespace field => debugVariant "Whitespace" [("field", field.debug)]
  | .controlCharacter field => debugVariant "ControlCharacter" [("field", field.debug)]
  | .tooLong field maxCharacters =>
    debugVariant "TooLong"
      [("field", field.debug), ("max_characters", ToString.toString maxCharacters)]
  | .looksLikeOption field => debugVariant "LooksLikeOption" [("field", field.debug)]
  | .portZero field => debugVariant "PortZero" [("field", field.debug)]
  | .invalidBindAddress value =>
    debugVariant "InvalidBindAddress" [("value", debugText printable value)]
  | .invalidDestinationHost value =>
    debugVariant "InvalidDestinationHost" [("value", debugText printable value)]
  | .duplicateName name => debugVariant "DuplicateName" [("name", debugText printable name)]
  | .duplicateLocalListener address port =>
    debugVariant "DuplicateLocalListener"
      [("address", debugText printable address), ("port", ToString.toString port.toNat)]

/-- The `Debug` of the errors of a rule set. -/
def debugList (errors : List ValidationError) : String :=
  "[" ++ ", ".intercalate (errors.map (debug printable)) ++ "]"

end Debug

end ValidationError

end TunnelDeck
