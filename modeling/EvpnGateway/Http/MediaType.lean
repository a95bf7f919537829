/-!
# Media types

A type, a slash and a subtype, with parameters behind them.

* `MediaType.parse?`: reads the value of a `Content-Type` header;
* `MediaType.isJson`: JSON, or a format that is written in JSON.
-/

namespace EvpnGateway.Http

/-- A media type in lower case; the suffix is what follows the last plus sign of the subtype. -/
structure MediaType where
  type : String
  subtype : String
  suffix : Option String
  deriving DecidableEq, Repr

namespace MediaType

/-- A character of names and plain values. -/
def isToken (c : Char) : Bool := c.isAlphanum || "!#$%&'*+-.^_`|~".toList.contains c

/-- A character of a header that can be read as text. -/
def isVisible (c : Char) : Bool := c = '\t' || (' ' ≤ c && c ≤ '~')

/-- A character that may stand between quotes. -/
def isQuotable (c : Char) : Bool := ' ' ≤ c && c ≠ '\x7f'

/-- Where a reader of parameters stands. -/
inductive Place where
  /-- In front of a parameter, where blanks do not count. -/
  | front
  | name
  | valueStart
  | value
  /-- Behind the opening quote. -/
  | quoteStart
  | quoted
  /-- Behind the closing quote. -/
  | behind

/-- Parameters: names and values with equals signs between them, and semicolons between one
parameter and the next. A value stands between quotes or consists of token characters. -/
def areParameters : Place → List Char → Bool
  | .front, [] => true
  | .front, c :: rest =>
    if c = ' ' then areParameters .front rest else isToken c && areParameters .name rest
  | .name, [] => false
  | .name, c :: rest =>
    if c = '=' then areParameters .valueStart rest else isToken c && areParameters .name rest
  | .valueStart, [] => true
  | .valueStart, c :: rest =>
    if c = '"' then areParameters .quoteStart rest else isToken c && areParameters .value rest
  | .value, [] => true
  | .value, c :: rest =>
    if c = ';' then areParameters .front rest else isToken c && areParameters .value rest
  | .quoteStart, [] => false
  | .quoteStart, c :: rest => isQuotable c && areParameters .quoted rest
  | .quoted, [] => false
  | .quoted, c :: rest =>
    if c = '"' then areParameters .behind rest else isQuotable c && areParameters .quoted rest
  | .behind, [] => true
  | .behind, c :: rest =>
    if c = ';' then areParameters .front rest else c = ' ' && areParameters .behind rest

/-- A text in lower case. -/
def lower (text : List Char) : String := String.ofList (text.map Char.toLower)

/-- The media type of a subtype, cut at its last plus sign unless that comes first. -/
def make (type subtype : List Char) : MediaType :=
  let suffix := (subtype.reverse.takeWhile (· ≠ '+')).reverse
  let front := subtype.take (subtype.length - suffix.length - 1)
  if front.isEmpty then ⟨lower type, lower subtype, none⟩
  else ⟨lower type, lower front, some (lower suffix)⟩

/-- Reads a header. Behind the subtype comes a semicolon or a blank, and then the parameters. -/
def parse? (header : String) : Option MediaType :=
  let text := header.toList
  let type := text.takeWhile isToken
  match text.dropWhile isToken with
  | '/' :: rest =>
    let subtype := rest.takeWhile isToken
    let wellFormed : Bool := match rest.dropWhile isToken with
      | [] => true
      | c :: rest => (c = ';' || c = ' ') && !subtype.isEmpty && areParameters .front rest
    if text.all isVisible ∧ ¬ type.isEmpty ∧ wellFormed then some (make type subtype) else none
  | _ => none

/-- JSON, or a format that is written in JSON. -/
def isJson (mediaType : MediaType) : Bool :=
  mediaType.type == "application" &&
    (mediaType.subtype == "json" || mediaType.suffix == some "json")

end MediaType

end EvpnGateway.Http
