import EvpnGateway.Json.Failure
/-!
# Reading JSON

Readers take a value off the front of a text and stop at the first fault in reading order, so a
value of the wrong kind is reported even if the text goes wrong later.

* `Reader`, `decode`: readers, and their use on a whole text;
* `boolean`, `text`, `natural`, `integer`, `optional`, `listOf`, `alternative`: readers for types;
* `skipValue`: passes over any value, without looking into strings and numbers.
-/

namespace EvpnGateway.Json

/-- Takes a value off the front of a text. -/
abbrev Reader := StateT (List Char) (Except Failure)

namespace Reader

variable {α : Type}

/-! ## Failing -/

/-- Fails behind what was read. -/
def failHere (cause : Cause) : Reader α := fun rest =>
  .error ⟨cause, .settled (Utf8.size (String.ofList rest))⟩

/-- Fails at the next byte, which is looked at and not read. -/
def failAhead (cause : Cause) : Reader α := fun rest =>
  .error ⟨cause, .settled (Utf8.size (String.ofList rest) - 1)⟩

/-- Fails by a mismatch whose place is where the value around it ends. -/
def failPending (detail : Mismatch) : Reader α := fun rest =>
  .error ⟨.mismatch detail, .pending rest⟩

/-! ## Characters -/

/-- White space of JSON: blank, line feed, carriage return and tab. -/
def isSpace (c : Char) : Bool := c = ' ' || c = '\n' || c = '\r' || c = '\t'

/-- The next character behind white space; it is not read. -/
def peek : Reader (Option Char) := fun rest =>
  let rest := rest.dropWhile isSpace
  .ok (rest.head?, rest)

/-- Passes over one character. -/
def eat : Reader Unit := fun rest => .ok ((), rest.drop 1)

/-- Reads the rest of a word of which the first letter was read. -/
def word : List Char → Reader Unit
  | [] => pure ()
  | c :: letters => fun
    | [] => failHere .endInValue []
    | d :: rest => if c = d then word letters rest else failHere .expectedWord rest

/-! ## Strings -/

/-- The number that four hexadecimal digits write. -/
def hexNumber? (a b c d : Char) : Option Nat := Digits.readFrom? 16 0 [a, b, c, d]

/-- The character of an escape of one letter. -/
def shortEscape? : Char → Option Char
  | '"' => some '"'
  | '\\' => some '\\'
  | '/' => some '/'
  | 'b' => some (Char.ofNat 8)
  | 'f' => some (Char.ofNat 12)
  | 'n' => some '\n'
  | 'r' => some '\r'
  | 't' => some '\t'
  | _ => none

/-- Puts a character in front of the characters that a reader found. -/
def prepend (c : Char) (result : Except Failure (List Char × List Char)) :
    Except Failure (List Char × List Char) :=
  result.map fun (chars, rest) => (c :: chars, rest)

/-- The characters up to the closing quote. An escape may give a surrogate only as the first or
second half of a pair. -/
def stringChars : List Char → Except Failure (List Char × List Char)
  | [] => failHere .endInString []
  | '"' :: rest => .ok ([], rest)
  | '\\' :: 'u' :: a :: b :: c :: d :: rest =>
    match hexNumber? a b c d with
    | none => failHere .invalidEscape rest
    | some high =>
      if 0xdc00 ≤ high ∧ high ≤ 0xdfff then failHere .loneSurrogate rest
      else if 0xd800 ≤ high ∧ high ≤ 0xdbff then
        match rest with
        | '\\' :: 'u' :: e :: f :: g :: h :: rest =>
          match hexNumber? e f g h with
          | none => failHere .invalidEscape rest
          | some low =>
            if 0xdc00 ≤ low ∧ low ≤ 0xdfff then
              prepend (Char.ofNat (0x10000 + (high - 0xd800) * 0x400 + (low - 0xdc00)))
                (stringChars rest)
            else failHere .loneSurrogate rest
        | '\\' :: 'u' :: _ | ['\\'] | [] => failHere .endInString []
        | '\\' :: _ :: rest => failHere .endInEscape rest
        | _ :: rest => failHere .endInEscape rest
      else prepend (Char.ofNat high) (stringChars rest)
  | '\\' :: 'u' :: _ => failHere .endInString []
  | ['\\'] => failHere .endInString []
  | '\\' :: c :: rest =>
    match shortEscape? c with
    | some c => prepend c (stringChars rest)
    | none => failHere .invalidEscape rest
  | c :: rest =>
    if c.toNat < 0x20 then failHere .controlCharacter rest else prepend c (stringChars rest)

/-- A string behind its opening quote. -/
def stringRest : Reader String := fun rest =>
  (stringChars rest).map fun (chars, rest) => (String.ofList chars, rest)

/-- Passes over a string behind its opening quote; surrogates need no partner. -/
def skipChars : List Char → Except Failure (Unit × List Char)
  | [] => failHere .endInString []
  | '"' :: rest => .ok ((), rest)
  | '\\' :: 'u' :: a :: b :: c :: d :: rest =>
    if (hexNumber? a b c d).isSome then skipChars rest else failHere .invalidEscape rest
  | '\\' :: 'u' :: _ => failHere .endInString []
  | ['\\'] => failHere .endInString []
  | '\\' :: c :: rest =>
    if (shortEscape? c).isSome then skipChars rest else failHere .invalidEscape rest
  | c :: rest => if c.toNat < 0x20 then failHere .controlCharacter rest else skipChars rest

/-! ## Numbers -/

/-- A number as it is written: an integer of 64 bits with its sign, or anything else. -/
inductive Number where
  | natural (value : Nat)
  | negative (value : Nat)
  | decimal (text : String)

/-- The value of a run of decimal digits. -/
def decimalValue (digits : List Char) : Nat := (Digits.read? 10 digits).getD 0

/-- The exponent at the front of a text behind the letter. -/
def exponent : Reader Int := fun text =>
  let (negative, rest) := match text with
    | '+' :: rest => (false, rest)
    | '-' :: rest => (true, rest)
    | rest => (false, rest)
  match rest with
  | [] => failHere .endInValue []
  | c :: after =>
    if c.isDigit then
      let value := decimalValue (rest.takeWhile Char.isDigit)
      .ok (if negative then -value else value, rest.dropWhile Char.isDigit)
    else failHere .invalidNumber after

/-- What follows the integer digits of a number. -/
def numberRest (negative : Bool) (digits : List Char) : Reader Number := do
  let rest ← get
  let value := decimalValue digits
  let sign := if negative then "-" else ""
  match rest with
  | '.' :: rest =>
    let fraction := rest.takeWhile Char.isDigit
    let rest := rest.dropWhile Char.isDigit
    set rest
    if fraction.isEmpty then
      failAhead (if rest.isEmpty then .endInValue else .invalidNumber)
    let power ← match rest with
      | c :: rest => if c = 'e' ∨ c = 'E' then set rest *> exponent else pure 0
      | [] => pure 0
    if Digits.exceedsDouble (decimalValue (digits ++ fraction)) (power - fraction.length) then
      failHere .numberOutOfRange
    return .decimal (sign ++ String.ofList digits ++ "." ++ String.ofList fraction)
  | c :: rest =>
    if c = 'e' ∨ c = 'E' then
      set rest
      let power ← exponent
      if Digits.exceedsDouble value power then failHere .numberOutOfRange
      return .decimal (sign ++ String.ofList digits ++ ".0")
    else integral sign value
  | [] => integral sign value
where
  /-- A number without fraction and exponent. -/
  integral (sign : String) (value : Nat) : Reader Number := do
    if negative ∧ 1 ≤ value ∧ value ≤ 0x8000000000000000 then return .negative value
    if ¬ negative ∧ value < 0x10000000000000000 then return .natural value
    if Digits.exceedsDouble value 0 then failHere .numberOutOfRange
    return .decimal (sign ++ String.ofList digits ++ ".0")

/-- A number behind its minus sign, if there was one. -/
def numberTail (negative : Bool) : Reader Number := fun
  | [] => failHere .endInValue []
  | '0' :: rest =>
    if rest.head?.any Char.isDigit then failAhead .invalidNumber rest
    else numberRest negative ['0'] rest
  | c :: rest =>
    if c.isDigit then
      let digits := (c :: rest).takeWhile Char.isDigit
      numberRest negative digits ((c :: rest).dropWhile Char.isDigit)
    else failHere .invalidNumber rest

/-- Passes over a number behind its minus sign, if there was one. -/
def skipNumber : Reader Unit := fun text =>
  let digits := text.takeWhile Char.isDigit
  let rest := text.dropWhile Char.isDigit
  match digits with
  | [] => failHere .invalidNumber (text.drop 1)
  | '0' :: d :: after => failAhead .invalidNumber (d :: after ++ rest)
  | _ => fraction rest
where
  /-- Passes over a fraction and what follows it. -/
  fraction : List Char → Except Failure (Unit × List Char)
    | '.' :: rest =>
      if rest.head?.any Char.isDigit then power (rest.dropWhile Char.isDigit)
      else failAhead .invalidNumber rest
    | rest => power rest
  /-- Passes over an exponent. -/
  power : List Char → Except Failure (Unit × List Char)
    | c :: rest =>
      if c = 'e' ∨ c = 'E' then
        let rest := match rest with
          | '+' :: rest | '-' :: rest => rest
          | rest => rest
        if rest.head?.any Char.isDigit then .ok ((), rest.dropWhile Char.isDigit)
        else failHere .invalidNumber (rest.drop 1)
      else .ok ((), c :: rest)
    | [] => .ok ((), [])

/-! ## Values of another sort -/

/-- The words for a number in a mismatch. -/
def Number.describe : Number → String
  | .natural value => "integer `" ++ toString value ++ "`"
  | .negative value => "integer `-" ++ toString value ++ "`"
  | .decimal text => "floating point `" ++ text ++ "`"

/-- Fails because the next character begins no value of the expected sort. A word, number or string
is read first and may itself be at fault. -/
def wrongSort (expected : String) (next : Char) : Reader α := do
  let mismatch (found : String) : Reader α := failHere (.mismatch (.sort found expected))
  if next = 'n' then do eat; word "ull".toList; mismatch "null"
  else if next = 't' then do eat; word "rue".toList; mismatch "boolean `true`"
  else if next = 'f' then do eat; word "alse".toList; mismatch "boolean `false`"
  else if next = '-' then do eat; mismatch (← numberTail true).describe
  else if next.isDigit then do mismatch (← numberTail false).describe
  else if next = '"' then do eat; mismatch ("string " ++ quoted (← stringRest))
  else if next = '[' then mismatch "sequence"
  else if next = '\x7b' then mismatch "map"
  else failAhead .expectedValue

/-! ## Skipping -/

/-- Where a reader stands that passes over a value: in front of a value, or inside a list or an
object with or without something read in it. -/
inductive Stage where
  | value
  | inside (fresh : Bool)

/-- Passes over the name of a member and its colon. -/
def skipName : Reader Unit := do
  match ← peek with
  | some '"' => eat
  | some _ => failAhead .keyMustBeString
  | none => failAhead .endInObject
  skipChars
  match ← peek with
  | some ':' => eat
  | some _ => failAhead .expectedColon
  | none => failAhead .endInObject

/-- Passes over a word, number or string. -/
def skipScalar (next : Char) : Reader Unit :=
  if next = 'n' then do eat; word "ull".toList
  else if next = 't' then do eat; word "rue".toList
  else if next = 'f' then do eat; word "alse".toList
  else if next = '-' then do eat; skipNumber
  else if next.isDigit then skipNumber
  else if next = '"' then do eat; skipChars
  else failAhead .expectedValue

/-- Passes over what is left of a value; `frames` tells for each open bracket, from the inside,
whether it opened an object. -/
def skipFrom : (fuel : Nat) → Stage → (frames : List Bool) → Reader Unit
  | 0, _, _ => failAhead .endInValue
  | fuel + 1, .value, frames => do
    match ← peek with
    | none => failAhead .endInValue
    | some '[' => do eat; skipFrom fuel (.inside true) (false :: frames)
    | some '\x7b' => do eat; skipFrom fuel (.inside true) (true :: frames)
    | some c => do
      skipScalar c
      if frames.isEmpty then pure () else skipFrom fuel (.inside false) frames
  | _ + 1, .inside _, [] => pure ()
  | fuel + 1, .inside fresh, isObject :: frames => do
    let member : Reader Unit := do
      if isObject then skipName
      skipFrom fuel .value (isObject :: frames)
    match ← peek with
    | none => failAhead (if isObject then .endInObject else .endInList)
    | some c =>
      if c = ',' ∧ ¬ fresh then do eat; member
      else if c = (if isObject then '\x7d' else ']') then do
        eat; skipFrom fuel (.inside false) frames
      else if fresh then member
      else failAhead (if isObject then .expectedObjectEnd else .expectedListEnd)

/-- Passes over one value, however deep. -/
def skipValue : Reader Unit := fun text => skipFrom (2 * text.length + 2) .value [] text

/-! ## Readers for types -/

/-- True or false. -/
def boolean : Reader Bool := do
  match ← peek with
  | none => failAhead .endInValue
  | some 't' => do eat; word "rue".toList; pure true
  | some 'f' => do eat; word "alse".toList; pure false
  | some c => wrongSort "a boolean" c

/-- A string. -/
def text : Reader String := do
  match ← peek with
  | none => failAhead .endInValue
  | some '"' => do eat; stringRest
  | some c => wrongSort "a string" c

/-- Reads a number and keeps what `pick` makes of it; otherwise it is out of range or, with a
fraction or an exponent, of another sort. -/
def number (expected : String) (pick : Int → Option α) : Reader α := do
  let keep (value : Int) (found : Number) : Reader α :=
    match pick value with
    | some a => pure a
    | none => failHere (.mismatch (.range found.describe expected))
  let accept : Number → Reader α
    | found@(.natural value) => keep value found
    | found@(.negative value) => keep (-value) found
    | found@(.decimal _) => failHere (.mismatch (.sort found.describe expected))
  match ← peek with
  | none => failAhead .endInValue
  | some c =>
    if c = '-' then do eat; accept (← numberTail true)
    else if c.isDigit then do accept (← numberTail false)
    else wrongSort expected c

/-- A whole number of at most `bits` bits. -/
def natural (bits : Nat) : Reader Nat :=
  number ("u" ++ toString bits) fun n =>
    if 0 ≤ n ∧ n < Int.pow 2 bits then some n.toNat else none

/-- A signed number of `bits` bits. -/
def integer (bits : Nat) : Reader Int :=
  number ("i" ++ toString bits) fun n =>
    if -Int.pow 2 (bits - 1) ≤ n ∧ n < Int.pow 2 (bits - 1) then some n else none

/-- Null, or a value. -/
def optional (read : Reader α) : Reader (Option α) := do
  match ← peek with
  | some 'n' => do eat; word "ull".toList; pure none
  | _ => some <$> read

/-- Reads a text or number and turns it into a network value. -/
def refine {β : Type} (read : Reader β) (make : β → Except ValueError α) : Reader α := do
  match make (← read) with
  | .ok value => pure value
  | .error error => failPending (.value error)

/-- A name out of an enumeration, or an object with that name for its only member and null for its
value. -/
def alternative (names : List (String × α)) : Reader α := do
  let find (name : String) : Reader α :=
    match names.lookup name with
    | some value => pure value
    | none => failHere (.mismatch (.alternative name (names.map Prod.fst)))
  match ← peek with
  | none => failAhead .endInValue
  | some '"' => do eat; find (← stringRest)
  | some '\x7b' => do
    eat
    let value ← match ← peek with
      | none => failAhead .endInValue
      | some '"' => do eat; find (← stringRest)
      | some c => wrongSort "variant identifier" c
    match ← peek with
    | some ':' => eat
    | some _ => failAhead .expectedColon
    | none => failAhead .endInObject
    match ← peek with
    | none => failAhead .endInValue
    | some 'n' => do eat; word "ull".toList
    | some c => wrongSort "unit" c
    match ← peek with
    | some '\x7d' => do eat; pure value
    | some _ => failHere .expectedValue
    | none => failHere .endInObject
  | some _ => failAhead .expectedValue

/-! ## Lists -/

/-- There is another element in a list; the comma in front of it is read. -/
def nextElement (first : Bool) : Reader Bool := do
  match ← peek with
  | none => failAhead .endInList
  | some ']' => pure false
  | some c =>
    if first then pure true
    else if c = ',' then do
      eat
      match ← peek with
      | some ']' => failAhead .trailingComma
      | some _ => pure true
      | none => failAhead .endInValue
    else failAhead .expectedListEnd

/-- The closing bracket of a list. -/
def listEnd : Reader Unit := do
  match ← peek with
  | some ']' => eat
  | some ',' => do
    eat
    match ← peek with
    | some ']' => failAhead .trailingComma
    | _ => failAhead .trailingCharacters
  | some _ => failAhead .trailingCharacters
  | none => failAhead .endInList

/-- Reads what stands between brackets and then the closing one. A mismatch that waits for its
place gets the place behind the closing bracket, where there is one. -/
def enclosed (body : Reader α) (close : Reader Unit) : Reader α := fun text =>
  match body text with
  | .ok (value, rest) => (close rest).map fun (_, rest) => (value, rest)
  | .error ⟨cause, .pending rest⟩ =>
    let rest := match close rest with
      | .ok (_, after) => after
      | .error _ => rest.dropWhile isSpace
    failHere cause rest
  | .error failure => .error failure

/-- The elements of a list up to its closing bracket. -/
def elements (read : Reader α) : (fuel : Nat) → (first : Bool) → Reader (List α)
  | 0, _ => failAhead .endInList
  | fuel + 1, first => do
    if ← nextElement first then
      let value ← read
      let values ← elements read fuel false
      return value :: values
    else return []

/-- A list of values. -/
def listOf (read : Reader α) : Reader (List α) := do
  match ← peek with
  | none => failAhead .endInValue
  | some '[' => do
    eat
    enclosed (fun rest => elements read (rest.length + 1) true rest) listEnd
  | some c => wrongSort "a sequence" c

end Reader

/-- The value that a whole text holds, white space at its ends apart. -/
def decode {α : Type} (read : Reader α) (source : String) : Except Failure α := do
  let (value, rest) ← read source.toList
  let (next, rest) ← Reader.peek rest
  match next with
  | none => return value
  | some _ =>
    let (value, _) ← Reader.failAhead .trailingCharacters rest
    return value

end EvpnGateway.Json
