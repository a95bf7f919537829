import EvpnGateway.Net.ValueError
import EvpnGateway.Text.Quoted
import EvpnGateway.Text.Utf8
/-!
# Why a text is not the JSON of a value

* `Json.Cause`: faults of the syntax, and mismatches between well-formed JSON and a type;
* `Json.Failure`: a cause and the place where it was met; `Json.Failure.describe` words both.
-/

namespace EvpnGateway.Json

/-- A well-formed value that a type does not admit. -/
inductive Mismatch where
  /-- A value of another sort. -/
  | sort (found expected : String)
  /-- A number of the right sort outside the type. -/
  | range (found expected : String)
  /-- An array with too few elements for a record. -/
  | length (found : Nat) (expected : String)
  /-- A name that an enumeration does not have. -/
  | alternative (found : String) (expected : List String)
  | missingField (name : String)
  | duplicateField (name : String)
  /-- A text or number that denotes no network value. -/
  | value (error : ValueError)
  deriving DecidableEq, Repr

/-- What is wrong with a text. -/
inductive Cause where
  | endInList
  | endInObject
  | endInString
  | endInValue
  | expectedColon
  | expectedListEnd
  | expectedObjectEnd
  | expectedWord
  | expectedValue
  | invalidEscape
  | invalidNumber
  | numberOutOfRange
  | controlCharacter
  | keyMustBeString
  | loneSurrogate
  | trailingComma
  | trailingCharacters
  | endInEscape
  | mismatch (detail : Mismatch)
  deriving DecidableEq, Repr

/-- The wording of a mismatch. -/
def Mismatch.message : Mismatch → String
  | .sort found expected => "invalid type: " ++ found ++ ", expected " ++ expected
  | .range found expected => "invalid value: " ++ found ++ ", expected " ++ expected
  | .length found expected => "invalid length " ++ toString found ++ ", expected " ++ expected
  | .alternative found expected =>
    let names := expected.map fun name => "`" ++ name ++ "`"
    "unknown variant `" ++ found ++ "`, expected one of " ++ ", ".intercalate names
  | .missingField name => "missing field `" ++ name ++ "`"
  | .duplicateField name => "duplicate field `" ++ name ++ "`"
  | .value error => error.message

/-- The wording of a cause. -/
def Cause.message : Cause → String
  | .endInList => "EOF while parsing a list"
  | .endInObject => "EOF while parsing an object"
  | .endInString => "EOF while parsing a string"
  | .endInValue => "EOF while parsing a value"
  | .expectedColon => "expected `:`"
  | .expectedListEnd => "expected `,` or `]`"
  | .expectedObjectEnd => "expected `,` or `\x7d`"
  | .expectedWord => "expected ident"
  | .expectedValue => "expected value"
  | .invalidEscape => "invalid escape"
  | .invalidNumber => "invalid number"
  | .numberOutOfRange => "number out of range"
  | .controlCharacter => "control character (\\u0000-\\u001F) found while parsing a string"
  | .keyMustBeString => "key must be a string"
  | .loneSurrogate => "lone leading surrogate in hex escape"
  | .trailingComma => "trailing comma"
  | .trailingCharacters => "trailing characters"
  | .endInEscape => "unexpected end of hex escape"
  | .mismatch detail => detail.message

/-- Where a failure was met: `settled` counts the bytes that were left then; a mismatch that was
only noticed afterwards is `pending` until the value around it ends, and holds what was unread. -/
inductive Place where
  | settled (unread : Nat)
  | pending (unread : List Char)
  deriving DecidableEq, Repr

/-- A failed attempt to read a value. -/
structure Failure where
  cause : Cause
  place : Place
  deriving DecidableEq, Repr

namespace Failure

/-- The text was well formed up to the failure, and the value is none of its type. -/
def isMismatch (failure : Failure) : Bool :=
  match failure.cause with
  | .mismatch _ => true
  | _ => false

/-- The network value error behind the failure, if that is the cause. -/
def valueError? (failure : Failure) : Option ValueError :=
  match failure.cause with
  | .mismatch (.value error) => some error
  | _ => none

/-- The number of bytes that were left when the failure was met. -/
def unread (failure : Failure) : Nat :=
  match failure.place with
  | .settled unread => unread
  | .pending rest => Utf8.size (String.ofList rest)

/-- Line and column, in bytes, behind the given bytes; lines count from one. -/
def lineColumn (bytes : List UInt8) : Nat × Nat :=
  bytes.foldl (fun (line, column) (byte : UInt8) =>
    if byte = 10 then (line + 1, 0) else (line, column + 1))
    (1, 0)

/-- The wording of a failure to read `text`, with the place. -/
def describe (text : String) (failure : Failure) : String :=
  let (line, column) := lineColumn ((Utf8.encode text).take (Utf8.size text - failure.unread))
  failure.cause.message ++ " at line " ++ toString line ++ " column " ++ toString column

end Failure

end EvpnGateway.Json
